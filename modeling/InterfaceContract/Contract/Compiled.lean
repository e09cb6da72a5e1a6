/-
This file defines what contracts and implementation blocks are compiled to.
-/

import InterfaceContract.Classification
import InterfaceContract.Dispatch.Basic

namespace InterfaceContract

/-- The description of an interface that a schema is built from. -/
structure InterfaceModel where
  name : String
  /-- The name of its dispatch. -/
  ident : String
  visibility : Visibility
  description : Option String
  context : Option TypeExpr
  scalar : Scalar
  /-- The generic parameters, with the payload parameter among them. -/
  generics : List GenericParameter
  fields : List Field
  implementers : List Implementer

structure CompiledContract where
  model : InterfaceModel
  dispatch : Dispatch
  adaptation : Adaptation

structure CompiledBlock where
  scalar : Scalar
  generics : List GenericParameter
  /-- The path of the contract, with the payload type appended. -/
  contract : NamedType
  bounds : List Requirement
  asynchronous : Bool
  methods : List Signature

/-- What the directives of a contract settle before anything else is looked at. -/
structure ContractSettings where
  directives : ContractDirectives
  name : String
  internal : Bool

/-- A contract once its payload is threaded. -/
structure ThreadedContract extends ThreadedGenerics where
  scalar : Scalar

/-- An implementation block once its payload is threaded. -/
structure ThreadedBlock where
  scalar : Scalar
  generics : List GenericParameter
  bounds : List Requirement
  contract : NamedType

/-- The result of a stage, as hooks see it. -/
inductive StageResult where
  | contractOptions (settings : ContractSettings)
  | externalDowncasts (registry : Registry)
  | classify (methods : ClassifiedMethods)
  | methodDowncasts (implementers : List Implementer)
  | context (type : Option TypeExpr)
  | contractScalar (threaded : ThreadedContract)
  | async (adaptation : Adaptation)
  | dispatch (dispatch : Dispatch)
  | assembleContract (compiled : CompiledContract)
  | blockOptions (directives : ImplementationDirectives)
  | blockScalar (threaded : ThreadedBlock)
  | assembleBlock (compiled : CompiledBlock)

end InterfaceContract
