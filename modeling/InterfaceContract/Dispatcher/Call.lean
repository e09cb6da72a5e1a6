/-
This file binds arguments and runs bodies, which both forms of dispatch share.
-/

import InterfaceContract.Contract.Compiled
import InterfaceContract.Dispatcher.Binding

namespace InterfaceContract

/-- The values that the execution engine supplies. -/
structure Environment where
  context : Value := .missing
  executor : Value := .missing

namespace ExposedArgument

/-- The default of an argument; one that is itself missing counts as none. -/
def default? (argument : ExposedArgument) : Option Value :=
  match argument.fallback with
  | none | some .missing => none
  | some value => some value

/-- A supplied value comes first, then the default; an optional argument may be missing. -/
def bind (field : String) (supplied : List (String × Value)) (argument : ExposedArgument) :
    Except DispatchError Value :=
  match supplied.lookup argument.name, argument.default? with
  | some value, _ => .ok value
  | none, some value => .ok value
  | none, none =>
      if argument.type.isOptional then .ok .null
      else .error (.missingArgument field argument.name)

end ExposedArgument

namespace Argument

def bind (field : String) (supplied : List (String × Value)) (environment : Environment) :
    Argument → Except DispatchError Value
  | .context _ => .ok environment.context
  | .executor => .ok environment.executor
  | .regular argument => argument.bind field supplied

end Argument

namespace Field

/-- The positional parameters of the method behind a field; the first argument that is missing is
the one reported. -/
def bindArguments (field : Field) (supplied : List (String × Value)) (environment : Environment) :
    Except DispatchError (List Value) :=
  field.arguments.mapM (Argument.bind field.name supplied environment)

end Field

/-- A compiled contract together with the default bodies of its methods. -/
structure CallScope where
  compiled : CompiledContract
  defaults : List (String × Body)

namespace CallScope

def contract (scope : CallScope) : String :=
  scope.compiled.model.name

def asynchronous (scope : CallScope) : Bool :=
  scope.compiled.adaptation.asynchronous

/-- Of several fields of one name the last one counts. -/
def field? (scope : CallScope) (name : String) : Option Field :=
  scope.compiled.model.fields.reverse.find? (·.name == name)

def field (scope : CallScope) (name : String) : Except DispatchError Field :=
  match scope.field? name with
  | some field => .ok field
  | none => .error (.unknownField scope.contract name)

/-- A body of the implementer comes before the default body of the contract. -/
def runBody (scope : CallScope) (binding : Binding) (method : String) (self : Value)
    (parameters : List Value) : Outcome :=
  if binding.provides method then binding.runBody method self parameters
  else
    match scope.defaults.lookup method with
    | some body => body self parameters
    | none => .refuse (.unknownMethod binding.type method)

/-- Binds the arguments of a field and runs the method behind it. -/
def runField (scope : CallScope) (binding : Binding) (field : Field) (self : Value)
    (supplied : List (String × Value)) (environment : Environment) : Outcome :=
  .deferIf scope.asynchronous
    (.lookup (field.bindArguments supplied environment) fun parameters =>
      scope.runBody binding field.method self parameters)

def runMethod (scope : CallScope) (binding : Binding) (method : String) (self : Value)
    (parameters : List Value) : Outcome :=
  .deferIf scope.asynchronous (scope.runBody binding method self parameters)

/-- The first implementer whose type renders as the given text. -/
def implementer? (scope : CallScope) (type : String) : Option Implementer :=
  scope.compiled.model.implementers.find? (·.type.render == type)

end CallScope

end InterfaceContract
