/-
This file defines what a dispatched call comes to.
-/

import InterfaceContract.Value

namespace InterfaceContract

/-- Why a call cannot be dispatched. -/
inductive DispatchError where
  | unknownField (contract field : String)
  | unknownMethod (implementer method : String)
  | unknownImplementer (contract implementer : String)
  | unboundImplementer (contract implementer : String)
  | missingArgument (field argument : String)
  | missingExternal (function : String)
  | invalidValue (implementer : String)
  /-- The class of a value that has no implementer cannot be written. -/
  | unwritableName
  deriving Repr, DecidableEq

namespace DispatchError

def message : DispatchError → String
  | .unknownField contract field => s!"interface {contract} has no field `{field}`"
  | .unknownMethod implementer method =>
      s!"implementer {implementer} provides no method `{method}` and the contract has no default"
  | .unknownImplementer contract implementer =>
      s!"{implementer} is not an implementer of interface {contract}"
  | .unboundImplementer contract implementer =>
      s!"no runtime binding for implementer {implementer} of interface {contract}"
  | .missingArgument field argument => s!"field `{field}` requires argument `{argument}`"
  | .missingExternal function =>
      s!"external downcast function `{function}` is not registered"
  | .invalidValue implementer => s!"value is not a {implementer}"
  | .unwritableName => "Cannot convert object to primitive value"

/-- Why a value that no binding recognizes cannot be wrapped. -/
def ofUnrecognized (contract : String) (value : Value) : DispatchError :=
  match value.displayName? with
  | some name => .unknownImplementer contract name
  | none => .unwritableName

end DispatchError

/-- Why a call fails: the dispatcher refuses it, or the body that runs raises an error. -/
inductive CallError where
  | dispatch (error : DispatchError)
  | body (message : String)
  deriving Repr, DecidableEq

/-- A call answers at once or later on. -/
inductive Outcome where
  | immediate (result : Except CallError Value)
  | deferred (result : Except CallError Value)

namespace Outcome

def value (answer : Value) : Outcome :=
  .immediate (.ok answer)

def refuse (error : DispatchError) : Outcome :=
  .immediate (.error (.dispatch error))

def result : Outcome → Except CallError Value
  | .immediate result | .deferred result => result

/-- Goes on with a looked-up value, or refuses the call. -/
def lookup {α : Type} (found : Except DispatchError α) (next : α → Outcome) : Outcome :=
  match found with
  | .ok value => next value
  | .error error => refuse error

/-- An asynchronous contract defers every answer, errors included. -/
def deferIf (asynchronous : Bool) (outcome : Outcome) : Outcome :=
  if asynchronous then .deferred outcome.result else outcome

/-- An immediate answer that is missing becomes a null. -/
def orNull : Outcome → Outcome
  | .immediate (.ok answer) => .value answer.orNull
  | outcome => outcome

@[simp] theorem lookup_ok {α : Type} (value : α) (next : α → Outcome) :
    lookup (.ok value) next = next value := rfl

@[simp] theorem lookup_error {α : Type} (error : DispatchError) (next : α → Outcome) :
    lookup (.error error) next = refuse error := rfl

@[simp] theorem deferIf_false (outcome : Outcome) : deferIf false outcome = outcome := rfl

@[simp] theorem deferIf_true (outcome : Outcome) :
    deferIf true outcome = .deferred outcome.result := rfl

end Outcome

end InterfaceContract
