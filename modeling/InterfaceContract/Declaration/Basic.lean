/-
This file defines annotated contracts and implementation blocks, as they are handed to compilation.
-/

import InterfaceContract.Source
import InterfaceContract.TypeExpr.Basic
import InterfaceContract.Value

namespace InterfaceContract

/-- Ties an implementer to a free downcast function. -/
structure NarrowingFunction where
  type : TypeExpr
  function : Located String

/-- The requested form of dispatch. -/
inductive DispatchRequest where
  /-- A dynamic handle under the given name. -/
  | openHandle (name : Located String)
  /-- A tagged union, with a name of its own or one derived from the contract. -/
  | closedUnion (name : Option (Located String))

/-- Directives on a contract. -/
structure ContractDirectives where
  name : Option (Located String) := none
  description : Option (Located String) := none
  scalar : Option (Located TypeExpr) := none
  implementers : Option (List (Located TypeExpr)) := none
  externalDowncasts : Option (List NarrowingFunction) := none
  context : Option (Located TypeExpr) := none
  dispatch : Option DispatchRequest := none
  asynchronous : Option Span := none
  /-- Lets a system contract use reserved names. -/
  internal : Option Span := none

/-- Directives on a method. -/
structure MethodDirectives where
  name : Option (Located String) := none
  description : Option (Located String) := none
  /-- A deprecation may come without a reason. -/
  deprecated : Option (Located (Option String)) := none
  ignore : Option Span := none
  downcast : Option Span := none

/-- Directives on a parameter. -/
structure ParameterDirectives where
  name : Option (Located String) := none
  description : Option (Located String) := none
  fallback : Option (Located Value) := none
  context : Option Span := none
  executor : Option Span := none

/-- Directives on an implementation block. -/
structure ImplementationDirectives where
  scalar : Option (Located TypeExpr) := none
  asynchronous : Option Span := none

inductive Visibility where
  | unrestricted
  | crate
  | restricted
  deriving Repr, DecidableEq, Inhabited

inductive GenericParameter where
  | type (name : String) (fallback : Option TypeExpr)
  | lifetime (name : String)
  | constant (name : String) (type : TypeExpr)
  deriving DecidableEq

inductive ReceiverForm where
  | shared
  | mutable
  | owned
  | typed (type : TypeExpr)
  deriving DecidableEq

structure Receiver where
  form : ReceiverForm
  span : Span
  deriving DecidableEq

/-- How a parameter is bound. -/
inductive ParameterPattern where
  | ident (name : String)
  | destructured (text : String)
  deriving Repr, DecidableEq

structure Parameter where
  pattern : ParameterPattern
  type : TypeExpr
  span : Span
  directives : Extraction ParameterDirectives

structure Method where
  ident : String
  span : Span
  /-- A method may take no receiver at all. -/
  receiver : Option Receiver
  parameters : List Parameter
  /-- A method without an output returns the unit type. -/
  output : Option TypeExpr
  isAsync : Bool
  /-- The contract supplies a body of its own. -/
  hasDefault : Bool
  directives : Extraction MethodDirectives

structure AssociatedType where
  ident : String
  generics : List String
  span : Span
  deriving Repr, DecidableEq

structure AssociatedConstant where
  ident : String
  type : TypeExpr
  span : Span
  deriving DecidableEq

inductive ContractItem where
  | method (item : Method)
  | associatedType (item : AssociatedType)
  | associatedConstant (item : AssociatedConstant)

structure ContractDeclaration where
  ident : String
  span : Span
  visibility : Visibility
  generics : List GenericParameter
  items : List ContractItem
  directives : Extraction ContractDirectives

/-- A block that implements a contract for one type. -/
structure ImplementationBlock where
  contract : NamedType
  implementer : TypeExpr
  span : Span
  generics : List GenericParameter
  methods : List Method
  directives : Extraction ImplementationDirectives

namespace ContractItem

def method? : ContractItem → Option Method
  | .method item => some item
  | _ => none

def associatedType? : ContractItem → Option AssociatedType
  | .associatedType item => some item
  | _ => none

def associatedConstant? : ContractItem → Option AssociatedConstant
  | .associatedConstant item => some item
  | _ => none

end ContractItem

namespace ContractDeclaration

/-- The methods of a contract, in their order. -/
def methods (declaration : ContractDeclaration) : List Method :=
  declaration.items.filterMap ContractItem.method?

def associatedTypes (declaration : ContractDeclaration) : List AssociatedType :=
  declaration.items.filterMap ContractItem.associatedType?

def associatedConstants (declaration : ContractDeclaration) : List AssociatedConstant :=
  declaration.items.filterMap ContractItem.associatedConstant?

end ContractDeclaration

namespace GenericParameter

def name : GenericParameter → String
  | .type name _ | .lifetime name | .constant name _ => name

def isType : GenericParameter → Bool
  | .type _ _ => true
  | _ => false

end GenericParameter

namespace Method

/-- The type of a method's result. -/
def outputType (method : Method) : TypeExpr :=
  method.output.getD .unit

end Method

end InterfaceContract
