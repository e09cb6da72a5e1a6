/-
This file lists the causes for which a declaration is rejected and words their reports.
-/

import InterfaceContract.Diagnostic.Basic
import InterfaceContract.Downcast.Route
import InterfaceContract.TypeExpr.Rendering

namespace InterfaceContract

/-- The roles that the execution engine fills. -/
inductive EngineRole where
  | context
  | executor
  deriving Repr, DecidableEq, Inhabited

namespace EngineRole

def text : EngineRole → String
  | .context => "context"
  | .executor => "executor"

end EngineRole

/-- The directives that only an exposed argument takes. -/
inductive NamingDirective where
  | name
  | description
  | defaultValue
  deriving Repr, DecidableEq, Inhabited

namespace NamingDirective

def text : NamingDirective → String
  | .name => "name"
  | .description => "description"
  | .defaultValue => "default"

end NamingDirective

/-- Why a declaration, or a part of it, is rejected. -/
inductive Problem where
  | directiveFailure (failure : DirectiveFailure)
  | reservedName (span : Span)
  | invalidReceiver (span : Span)
  | missingReceiver (span : Span)
  | disallowedDirective (directive : NamingDirective) (span : Span)
  | malformedArgument (span : Span)
  | duplicateSpecial (role : EngineRole) (span : Span) (first : Span)
  | invalidDowncastOutput (span : Span)
  | invalidDowncastParameters (span : Span)
  | asyncDowncast (span : Span)
  | unknownDowncastTarget (span : Span)
  | duplicateDowncast (incoming existing : DeclaredRoute) (implementer : TypeExpr)

namespace Problem

def span : Problem → Span
  | .directiveFailure failure => failure.span
  | .reservedName span | .invalidReceiver span | .missingReceiver span
  | .disallowedDirective _ span | .malformedArgument span | .duplicateSpecial _ span _
  | .invalidDowncastOutput span | .invalidDowncastParameters span | .asyncDowncast span
  | .unknownDowncastTarget span => span
  | .duplicateDowncast incoming _ _ => incoming.span

def code : Problem → DiagnosticCode
  | .directiveFailure _ => .directiveFailure
  | .reservedName _ => .reservedName
  | .invalidReceiver _ => .invalidReceiverShape
  | .missingReceiver _ => .missingReceiver
  | .disallowedDirective _ _ => .disallowedDirective
  | .malformedArgument _ => .malformedArgument
  | .duplicateSpecial _ _ _ => .duplicateSpecialArgument
  | .invalidDowncastOutput _ | .invalidDowncastParameters _ => .invalidDowncastSignature
  | .asyncDowncast _ => .unsupportedAsyncDowncast
  | .unknownDowncastTarget _ => .nonImplementerTarget
  | .duplicateDowncast _ _ _ => .duplicateDowncast

def message : Problem → String
  | .directiveFailure failure => failure.message
  | .reservedName _ => "names starting with `__` are reserved for the introspection system"
  | .invalidReceiver _ => "contract method receiver can only be a shared reference `&self`"
  | .missingReceiver _ => "contract method should have a shared reference receiver `&self`"
  | .disallowedDirective directive _ =>
      s!"directive `{directive.text} = ...` is not allowed here"
  | .malformedArgument _ => "contract method argument should be declared as a single identifier"
  | .duplicateSpecial role _ _ => s!"contract method can accept at most one {role.text} argument"
  | .invalidDowncastOutput _ =>
      "expects contract method return type to be `Option<&ImplementerType>` only"
  | .invalidDowncastParameters _ =>
      "expects contract method to accept `&self` only and, optionally, `&Context`"
  | .asyncDowncast _ => "async downcast to interface implementer is not supported"
  | .unknownDowncastTarget _ => "downcasting is possible only to interface implementers"
  | .duplicateDowncast incoming existing implementer =>
      s!"{incoming.route.label} conflicts with the {existing.route.label} declared on the " ++
        s!"contract to downcast into the implementer type `{implementer.render}`"

def notes : Problem → List String
  | .reservedName _ => ["rename it, or mark the contract as `internal`"]
  | .disallowedDirective _ _ =>
      ["context and executor arguments are not exposed, so they take no naming directives"]
  | .malformedArgument _ =>
      ["use the `name = ...` directive to specify the argument's name without requiring it " ++
        "being a single identifier"]
  | .duplicateDowncast _ _ _ =>
      ["use the `ignore` directive to exclude this method from implementer downcasting"]
  | _ => []

def related? : Problem → Option RelatedPlace
  | .duplicateSpecial role _ first => some ⟨s!"first {role.text} argument declared here", first⟩
  | .duplicateDowncast _ existing _ =>
      some ⟨s!"{existing.route.label} declared here", existing.span⟩
  | _ => none

def toDiagnostic (problem : Problem) : Diagnostic where
  code := problem.code
  message := problem.message
  span := problem.span
  notes := problem.notes
  related := problem.related?

end Problem

end InterfaceContract
