/-
This file writes types as source text.
-/

import InterfaceContract.TypeExpr.Basic

namespace InterfaceContract

/-- A tuple of one element ends in a comma, which tells it from a parenthesis. -/
def tupleText : List String → String
  | [element] => "(" ++ element ++ ",)"
  | elements => "(" ++ ", ".intercalate elements ++ ")"

/-- A path without arguments has no brackets. -/
def pathText (name : String) : List String → String
  | [] => name
  | arguments => name ++ "<" ++ ", ".intercalate arguments ++ ">"

def lifetimeText (name : String) : String :=
  "'" ++ name

def referenceText (mutable : Bool) (lifetime : Option String) (inner : String) : String :=
  let lifetimePart := lifetime.elim "" fun name => lifetimeText name ++ " "
  let mutability := if mutable then "mut " else ""
  "&" ++ lifetimePart ++ mutability ++ inner

mutual

/-- The source text of a type, which is also its key at run time. -/
def TypeExpr.render : TypeExpr → String
  | .path name arguments => pathText name (TypeArgument.renderAll arguments)
  | .reference mutable lifetime inner => referenceText mutable lifetime inner.render
  | .tuple elements => tupleText (TypeExpr.renderAll elements)
  | .slice element => "[" ++ element.render ++ "]"

def TypeExpr.renderAll : List TypeExpr → List String
  | [] => []
  | type :: types => type.render :: TypeExpr.renderAll types

def TypeArgument.render : TypeArgument → String
  | .type type => type.render
  | .lifetime name => lifetimeText name

def TypeArgument.renderAll : List TypeArgument → List String
  | [] => []
  | argument :: arguments => argument.render :: TypeArgument.renderAll arguments

end

def NamedType.render (path : NamedType) : String :=
  path.toTypeExpr.render

theorem TypeExpr.renderAll_eq_map (types : List TypeExpr) :
    TypeExpr.renderAll types = types.map TypeExpr.render := by
  induction types with
  | nil => rfl
  | cons type types inductionHypothesis => rw [renderAll, inductionHypothesis, List.map_cons]

theorem TypeArgument.renderAll_eq_map (arguments : List TypeArgument) :
    TypeArgument.renderAll arguments = arguments.map TypeArgument.render := by
  induction arguments with
  | nil => rfl
  | cons argument arguments inductionHypothesis =>
      rw [renderAll, inductionHypothesis, List.map_cons]

end InterfaceContract
