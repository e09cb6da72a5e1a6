/-
This file decides how the payload type is threaded through signatures.
-/

import InterfaceContract.Declaration.Basic
import InterfaceContract.TypeExpr.Query

namespace InterfaceContract

/-- The settings of a compilation. -/
structure CompilationOptions where
  /-- The name of a synthesized payload parameter. -/
  scalarParameter : String := "__S"
  /-- The payload type of a caller who names none. -/
  defaultScalar : TypeExpr := .named "DefaultScalarValue"
  deriving DecidableEq

/-- The payload parameter of a contract. -/
inductive Scalar where
  /-- The payload is fixed to one type. -/
  | concrete (type : TypeExpr)
  /-- The payload is a generic parameter of the declaration. -/
  | explicit (parameter : String)
  /-- The payload is a synthesized parameter. -/
  | implicit (parameter : String) (fallback : TypeExpr)
  deriving DecidableEq

/-- What generated code has to require. -/
inductive Requirement where
  | scalarValue (parameter : String)
  | dynamicValue (scalar : String)
  /-- Bounds a parameter, or the contract itself when it names none. -/
  | shareable (parameter : Option String)
  deriving Repr, DecidableEq

/-- Generic parameters together with their bounds. -/
structure ThreadedGenerics where
  generics : List GenericParameter
  bounds : List Requirement
  deriving DecidableEq

namespace Scalar

/-- The type parameter that a type names. -/
def boundParameter? (type : TypeExpr) (generics : List GenericParameter) : Option String := do
  let name ← type.bareName?
  let parameter ← generics.find? fun parameter => parameter.isType && parameter.name == name
  pure parameter.name

def resolve (override : Option TypeExpr) (generics : List GenericParameter)
    (options : CompilationOptions) : Scalar :=
  match override with
  | none => .implicit options.scalarParameter options.defaultScalar
  | some type =>
      match boundParameter? type generics with
      | some parameter => .explicit parameter
      | none => .concrete type

/-- The parameter that carries the payload in signatures. -/
def parameterName (scalar : Scalar) (options : CompilationOptions) : String :=
  match scalar with
  | .concrete _ => options.scalarParameter
  | .explicit parameter | .implicit parameter _ => parameter

/-- The payload type of a caller who names none. -/
def defaultType (scalar : Scalar) (options : CompilationOptions) : TypeExpr :=
  match scalar with
  | .concrete type => type
  | .explicit _ => options.defaultScalar
  | .implicit _ fallback => fallback

/-- The parameter that a contract gains; a declaration that owns its parameter gains none. -/
def contractParameters (scalar : Scalar) (options : CompilationOptions) :
    List GenericParameter :=
  match scalar with
  | .explicit _ => []
  | .concrete _ | .implicit _ _ =>
      [.type (scalar.parameterName options) (some (scalar.defaultType options))]

/-- Threads the payload into the generics of a contract. -/
def threadContract (scalar : Scalar) (generics : List GenericParameter)
    (options : CompilationOptions) : ThreadedGenerics where
  generics := generics ++ scalar.contractParameters options
  bounds :=
    [.scalarValue (scalar.parameterName options), .dynamicValue (scalar.parameterName options)]

/-- The parameter that an implementation block gains. -/
def blockParameters : Scalar → List GenericParameter
  | .implicit parameter _ => [.type parameter none]
  | .concrete _ | .explicit _ => []

def blockBounds : Scalar → List Requirement
  | .concrete _ => []
  | .explicit parameter | .implicit parameter _ =>
      [.scalarValue parameter, .shareable (some parameter)]

/-- The argument that the path of the implemented contract gains. -/
def pathArguments : Scalar → List TypeArgument
  | .concrete type => [.type type]
  | .explicit _ => []
  | .implicit parameter _ => [.type (.named parameter)]

end Scalar

end InterfaceContract
