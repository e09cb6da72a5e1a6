/-
This file defines diagnostics and their text.
-/

import InterfaceContract.Source

namespace InterfaceContract

inductive DiagnosticCode where
  | invalidReceiverShape
  | missingReceiver
  | reservedName
  | nonImplementerTarget
  | duplicateDowncast
  | disallowedDirective
  | malformedArgument
  | unsupportedAsyncDowncast
  | invalidDowncastSignature
  | directiveFailure
  | duplicateSpecialArgument
  deriving Repr, DecidableEq, Inhabited

namespace DiagnosticCode

def all : List DiagnosticCode :=
  [.invalidReceiverShape, .missingReceiver, .reservedName, .nonImplementerTarget,
    .duplicateDowncast, .disallowedDirective, .malformedArgument, .unsupportedAsyncDowncast,
    .invalidDowncastSignature, .directiveFailure, .duplicateSpecialArgument]

/-- The code as it is printed. -/
def text : DiagnosticCode → String
  | .invalidReceiverShape => "invalid-receiver-shape"
  | .missingReceiver => "missing-receiver"
  | .reservedName => "reserved-name-prefix"
  | .nonImplementerTarget => "non-implementer-downcast-target"
  | .duplicateDowncast => "duplicate-downcast-binding"
  | .disallowedDirective => "disallowed-directive-combination"
  | .malformedArgument => "malformed-argument-pattern"
  | .unsupportedAsyncDowncast => "unsupported-asynchronous-downcast"
  | .invalidDowncastSignature => "invalid-downcast-signature"
  | .directiveFailure => "directive-parse-failure"
  | .duplicateSpecialArgument => "duplicate-special-argument"

def ofText? (text : String) : Option DiagnosticCode :=
  all.find? (·.text == text)

theorem ofText?_text (code : DiagnosticCode) : ofText? code.text = some code := by
  cases code <;> rfl

end DiagnosticCode

/-- A second place that a diagnostic is about. -/
structure RelatedPlace where
  message : String
  span : Span
  deriving Repr, DecidableEq

structure Diagnostic where
  code : DiagnosticCode
  message : String
  span : Span
  /-- Hints below the message. -/
  notes : List String := []
  related : Option RelatedPlace := none
  deriving Repr, DecidableEq

namespace Diagnostic

def headline (diagnostic : Diagnostic) : String :=
  s!"{diagnostic.span.line}:{diagnostic.span.column}: {diagnostic.code.text}: {diagnostic.message}"

def relatedLine (related : RelatedPlace) : String :=
  s!"  {related.span.line}:{related.span.column}: {related.message}"

def noteLine (note : String) : String :=
  "  = note: " ++ note

/-- The headline, the related place and the notes, a line each. -/
def format (diagnostic : Diagnostic) : String :=
  "\n".intercalate
    (diagnostic.headline ::
      (diagnostic.related.toList.map relatedLine ++ diagnostic.notes.map noteLine))

end Diagnostic

/-- A compilation that ended with diagnostics. -/
structure CompilationFailure where
  contract : String
  diagnostics : List Diagnostic
  deriving Repr, DecidableEq

namespace CompilationFailure

def countText (failure : CompilationFailure) : String :=
  if failure.diagnostics.length = 1 then "1 error" else s!"{failure.diagnostics.length} errors"

def message (failure : CompilationFailure) : String :=
  s!"could not compile contract `{failure.contract}` due to {failure.countText}\n" ++
    "\n".intercalate (failure.diagnostics.map Diagnostic.format)

/-- Some diagnostic has the code. -/
def has (failure : CompilationFailure) (code : DiagnosticCode) : Bool :=
  failure.diagnostics.any (·.code == code)

end CompilationFailure

end InterfaceContract
