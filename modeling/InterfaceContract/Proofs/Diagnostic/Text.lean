/-
This file says how a diagnostic is written.
-/

import InterfaceContract.Diagnostic.Basic
import Mathlib.Data.List.Induction

namespace InterfaceContract

namespace DiagnosticCode

/-- How a code is written. -/
inductive WrittenAs : DiagnosticCode → String → Prop where
  | invalidReceiverShape : WrittenAs .invalidReceiverShape "invalid-receiver-shape"
  | missingReceiver : WrittenAs .missingReceiver "missing-receiver"
  | reservedName : WrittenAs .reservedName "reserved-name-prefix"
  | nonImplementerTarget : WrittenAs .nonImplementerTarget "non-implementer-downcast-target"
  | duplicateDowncast : WrittenAs .duplicateDowncast "duplicate-downcast-binding"
  | disallowedDirective : WrittenAs .disallowedDirective "disallowed-directive-combination"
  | malformedArgument : WrittenAs .malformedArgument "malformed-argument-pattern"
  | unsupportedAsyncDowncast :
      WrittenAs .unsupportedAsyncDowncast "unsupported-asynchronous-downcast"
  | invalidDowncastSignature : WrittenAs .invalidDowncastSignature "invalid-downcast-signature"
  | directiveFailure : WrittenAs .directiveFailure "directive-parse-failure"
  | duplicateSpecialArgument : WrittenAs .duplicateSpecialArgument "duplicate-special-argument"

end DiagnosticCode

namespace Diagnostic

/-- The text of a diagnostic: a line for its place, its code and its message, one for the other place
that it refers to, and one for each note. -/
inductive WrittenAs : Diagnostic → String → Prop where
  | headline {code : DiagnosticCode} {name message : String} {span : Span}
      (coded : code.WrittenAs name) :
      WrittenAs ⟨code, message, span, [], none⟩
        (toString span.line ++ ":" ++ toString span.column ++ ": " ++ name ++ ": " ++ message)
  | related {code : DiagnosticCode} {message text : String} {span : Span} (place : RelatedPlace)
      (above : WrittenAs ⟨code, message, span, [], none⟩ text) :
      WrittenAs ⟨code, message, span, [], some place⟩
        (text ++ "\n  " ++ toString place.span.line ++ ":" ++ toString place.span.column ++ ": " ++
          place.message)
  | note {code : DiagnosticCode} {message text : String} {span : Span} {notes : List String}
      {related : Option RelatedPlace} (note : String)
      (above : WrittenAs ⟨code, message, span, notes, related⟩ text) :
      WrittenAs ⟨code, message, span, notes ++ [note], related⟩ (text ++ "\n  = note: " ++ note)

end Diagnostic

end InterfaceContract
