/-
This file ties implementers to the functions that implement a contract for them.
-/

import InterfaceContract.Dispatcher.Outcome

namespace InterfaceContract

/-- A function of the value it is called on and of further parameters. -/
abbrev Body := Value → List Value → Outcome

structure Binding where
  /-- The implementer type, as the compiled contract renders it. -/
  type : String
  /-- Recognizes the values of the implementer. -/
  recognizes : Value → Bool
  methods : List (String × Body)
  constants : List (String × Value) := []

namespace Binding

def provides (binding : Binding) (method : String) : Bool :=
  (binding.methods.lookup method).isSome

/-- The method has to exist, and the value has to belong to the implementer. -/
def runBody (binding : Binding) (method : String) (self : Value) (parameters : List Value) :
    Outcome :=
  match binding.methods.lookup method with
  | none => .refuse (.unknownMethod binding.type method)
  | some body =>
      if binding.recognizes self then body self parameters
      else .refuse (.invalidValue binding.type)

/-- A constant that is not provided is missing. -/
def constant (binding : Binding) (name : String) : Value :=
  (binding.constants.lookup name).getD .missing

end Binding

end InterfaceContract
