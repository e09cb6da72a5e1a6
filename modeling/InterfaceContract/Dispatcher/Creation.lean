/-
This file creates the dispatcher that fits a compiled contract.
-/

import InterfaceContract.Dispatcher.Union
import InterfaceContract.Dispatcher.Handle

namespace InterfaceContract

/-- A dispatcher of either form. -/
inductive Dispatcher where
  | openHandle (dispatcher : HandleDispatcher)
  | closedUnion (dispatcher : UnionDispatcher)

/-- What a dispatcher is created from, besides the compiled contract. -/
structure DispatcherParts where
  bindings : List Binding
  /-- The external downcast functions, by name. -/
  externals : List (String × Body) := []
  /-- The default bodies of contract methods, by method. -/
  defaults : List (String × Body) := []

namespace Dispatcher

/-- The compiled contract decides the form of dispatch. -/
def create (compiled : CompiledContract) (parts : DispatcherParts) :
    Except DispatchError Dispatcher :=
  let scope : CallScope := ⟨compiled, parts.defaults⟩
  match compiled.dispatch with
  | .openHandle dispatch =>
      .ok (.openHandle (.create scope dispatch parts.externals parts.bindings))
  | .closedUnion dispatch =>
      .closedUnion <$> UnionDispatcher.create scope dispatch parts.bindings

end Dispatcher

end InterfaceContract
