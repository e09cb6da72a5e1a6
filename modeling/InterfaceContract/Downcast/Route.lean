/-
This file defines how a dispatched value is narrowed to one implementer.
-/

import InterfaceContract.TypeExpr.Basic
import InterfaceContract.Source

namespace InterfaceContract

/-- What performs a downcast. -/
inductive DowncastRoute where
  /-- A method of the contract does the narrowing. -/
  | method (method : String) (withContext : Bool)
  /-- A free function named on the contract does it. -/
  | external (function : String)
  deriving Repr, DecidableEq

namespace DowncastRoute

/-- How a report names the route. -/
def label : DowncastRoute → String
  | .method name _ => s!"contract method `{name}`"
  | .external function => s!"external downcast function `{function}`"

end DowncastRoute

/-- A route and the place that declares it. -/
structure DeclaredRoute where
  route : DowncastRoute
  span : Span
  deriving Repr, DecidableEq

end InterfaceContract
