/-
This file defines the fields of an interface and reads them off contract methods.
-/

import InterfaceContract.Field.Argument
import InterfaceContract.TypeExpr.Lifetime

namespace InterfaceContract

/-- A deprecation may come without a reason. -/
structure Deprecation where
  reason : Option String
  deriving Repr, DecidableEq

structure Field where
  name : String
  type : TypeExpr
  description : Option String := none
  deprecated : Option Deprecation := none
  arguments : List Argument
  /-- The contract method behind the field. -/
  method : String
  isAsync : Bool

namespace Field

def exposedArguments (field : Field) : List ExposedArgument :=
  field.arguments.filterMap Argument.regular?

/-- The type of the first context argument. -/
def contextType? (field : Field) : Option TypeExpr :=
  field.arguments.findSome? fun argument =>
    match argument with
    | .context type => some type
    | _ => none

end Field

namespace Method

/-- The name under which a method is exposed. -/
def exposedName (method : Method) (directives : MethodDirectives) : String :=
  match directives.name with
  | some name => name.value
  | none => Name.exposed method.ident

/-- The place that is to blame for a method's name. -/
def nameSpan (method : Method) (directives : MethodDirectives) : Span :=
  match directives.name with
  | some name => name.span
  | none => method.span

/-- A field needs a shared receiver and a name that is not reserved. -/
def checkField (internal : Bool) (method : Method) (directives : MethodDirectives) :
    Except Problem String :=
  let name := method.exposedName directives
  if !internal && Name.isReserved name then
    .error (.reservedName (method.nameSpan directives))
  else
    match method.receiver with
    | none => .error (.missingReceiver method.span)
    | some ⟨.shared, _⟩ => .ok name
    | some receiver => .error (.invalidReceiver receiver.span)

/-- The field that a checked method stands for. -/
def toField (method : Method) (directives : MethodDirectives) (name : String)
    (arguments : List Argument) : Field where
  name := name
  type := method.outputType.hideLifetimes
  description := directives.description.map (·.value)
  deprecated := directives.deprecated.map fun deprecated => ⟨deprecated.value⟩
  arguments := arguments
  method := method.ident
  isAsync := method.isAsync

/-- A method that is no field is reported; a field may have lost arguments that were reported. -/
def asField (internal : Bool) (method : Method) (directives : MethodDirectives) :
    Reporting (Option Field) := do
  match ← Reporting.attempt (method.checkField internal directives) with
  | none => pure none
  | some name =>
      let arguments ← resolveParameters internal method.parameters
      pure (some (method.toField directives name arguments))

end Method

end InterfaceContract
