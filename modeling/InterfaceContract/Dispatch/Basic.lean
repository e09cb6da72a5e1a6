/-
This file selects how values of an interface reach their implementers.
-/

import InterfaceContract.Dispatch.Tag
import InterfaceContract.Implementer.Registry
import InterfaceContract.Signature

namespace InterfaceContract

/-- A variant of a tagged union. -/
structure Variant where
  tag : String
  type : TypeExpr
  deriving DecidableEq

structure ExposedType where
  ident : String
  generics : List String
  deriving Repr, DecidableEq

structure ExposedConstant where
  ident : String
  type : TypeExpr
  deriving DecidableEq

/-- A dynamic handle to anything that satisfies the contract. -/
structure HandleDispatch where
  ident : String
  contract : String
  scalar : Scalar
  context : Option TypeExpr
  deriving DecidableEq

/-- A tagged union with one variant for each implementer, which exposes the items of the contract
again. -/
structure UnionDispatch where
  ident : String
  contract : String
  variants : List Variant
  associatedTypes : List ExposedType
  constants : List ExposedConstant
  methods : List Signature
  deriving DecidableEq

/-- How values reach their implementers. -/
inductive Dispatch where
  | openHandle (dispatch : HandleDispatch)
  | closedUnion (dispatch : UnionDispatch)
  deriving DecidableEq

namespace Dispatch

def ident : Dispatch → String
  | .openHandle dispatch => dispatch.ident
  | .closedUnion dispatch => dispatch.ident

end Dispatch

namespace DispatchRequest

/-- The name of the dispatch; a union without a name of its own is the value of its contract. -/
def dispatchName (contract : String) : Option DispatchRequest → String
  | some (.openHandle name) => name.value
  | some (.closedUnion (some name)) => name.value
  | some (.closedUnion none) | none => contract ++ "Value"

end DispatchRequest

namespace Variant

/-- The variants of a list of implementer types, in their order. -/
def ofTypes (types : List TypeExpr) : List Variant :=
  List.zipWith Variant.mk (Tag.allocate [] types) types

end Variant

namespace UnionDispatch

def ofContract (declaration : ContractDeclaration) (ident : String)
    (implementers : List Implementer) (methods : List Signature) : UnionDispatch where
  ident := ident
  contract := declaration.ident
  variants := Variant.ofTypes (implementers.map (·.type))
  associatedTypes := declaration.associatedTypes.map fun item => ⟨item.ident, item.generics⟩
  constants := declaration.associatedConstants.map fun item => ⟨item.ident, item.type⟩
  methods := methods

end UnionDispatch

namespace Dispatch

/-- A contract that requests nothing is dispatched through a union. -/
def select (declaration : ContractDeclaration) (request : Option DispatchRequest)
    (implementers : List Implementer) (scalar : Scalar) (context : Option TypeExpr)
    (methods : List Signature) : Dispatch :=
  let ident := DispatchRequest.dispatchName declaration.ident request
  match request with
  | some (.openHandle _) => .openHandle ⟨ident, declaration.ident, scalar, context⟩
  | some (.closedUnion _) | none =>
      .closedUnion (.ofContract declaration ident implementers methods)

end Dispatch

end InterfaceContract
