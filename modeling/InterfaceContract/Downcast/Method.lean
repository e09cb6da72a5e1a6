/-
This file reads the downcast that a contract method performs.
-/

import InterfaceContract.Declaration.Basic
import InterfaceContract.Diagnostic.Problem
import InterfaceContract.TypeExpr.Query

namespace InterfaceContract

/-- A contract method that narrows to one implementer. -/
structure NarrowingMethod where
  type : TypeExpr
  method : String
  withContext : Bool
  contextType : Option TypeExpr := none
  span : Span
  deriving DecidableEq

namespace Method

def hasSharedReceiver (method : Method) : Bool :=
  match method.receiver with
  | some ⟨.shared, _⟩ => true
  | _ => false

/-- The implementer that an output `Option<&T>` names. -/
def narrowedType? (method : Method) : Option TypeExpr := do
  let output ← method.output
  guard output.isOptional
  let argument ← output.onlyArgument?
  argument.sharedInner?

/-- The context types that a downcast takes: none, or the one behind a shared reference. -/
def narrowingContext? (method : Method) : Option (Option TypeExpr) := do
  guard method.hasSharedReceiver
  match method.parameters with
  | [] => pure none
  | [parameter] => parameter.type.sharedInner?.map some
  | _ => none

/-- The place that is to blame for a method's parameters. -/
def receiverSpan (method : Method) : Span :=
  match method.receiver with
  | some receiver => receiver.span
  | none => method.span

/-- The output is checked first, then the parameters, then that the method is not asynchronous. -/
def asNarrowing (method : Method) : Except Problem NarrowingMethod :=
  match method.narrowedType? with
  | none => .error (.invalidDowncastOutput method.span)
  | some target =>
      match method.narrowingContext? with
      | none => .error (.invalidDowncastParameters method.receiverSpan)
      | some contextType =>
          if method.isAsync then .error (.asyncDowncast method.span)
          else
            .ok {
              type := target
              method := method.ident
              withContext := contextType.isSome
              contextType := contextType
              span := method.span }

end Method

end InterfaceContract
