/-
This file lists what both forms of dispatch do with the values that they have wrapped.
-/

import InterfaceContract.Dispatcher.Union
import InterfaceContract.Dispatcher.Handle

namespace InterfaceContract

/-- A form of dispatch; its handles stand for wrapped values. -/
class DispatchForm (δ : Type) (η : outParam Type) where
  wrap : δ → Value → Except DispatchError η
  implementerName : δ → η → String
  readField : δ → η → String → List (String × Value) → Environment → Outcome
  call : δ → η → String → List Value → Outcome
  constant : δ → η → String → Except DispatchError Value
  /-- The context is for downcasts that the contract declares. -/
  downcast : δ → η → String → Value → Outcome

/-- A tagged value narrows by its tag alone, so a union needs no context. -/
instance : DispatchForm UnionDispatcher TaggedValue where
  wrap := UnionDispatcher.wrap
  implementerName := UnionDispatcher.implementerName
  readField := UnionDispatcher.readField
  call := UnionDispatcher.call
  constant := UnionDispatcher.constant
  downcast dispatcher tagged type _ := .lookup (dispatcher.downcast tagged type) .value

/-- A dynamic handle brings its binding with it, so its constants need no look-up. -/
instance : DispatchForm HandleDispatcher DynamicHandle where
  wrap := HandleDispatcher.wrap
  implementerName := HandleDispatcher.implementerName
  readField := HandleDispatcher.readField
  call := HandleDispatcher.call
  constant dispatcher handle name := .ok (dispatcher.constant handle name)
  downcast := HandleDispatcher.downcast

end InterfaceContract
