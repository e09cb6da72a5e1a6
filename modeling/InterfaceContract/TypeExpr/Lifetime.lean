/-
This file renames and erases the lifetimes inside types.
-/

import InterfaceContract.TypeExpr.Basic

namespace InterfaceContract

mutual

/-- Renames every lifetime, at any depth; a reference without a lifetime stays without one. -/
def TypeExpr.mapLifetimes (rename : String → String) : TypeExpr → TypeExpr
  | .path name arguments => .path name (TypeArgument.mapLifetimesAll rename arguments)
  | .reference mutable lifetime inner =>
      .reference mutable (lifetime.map rename) (inner.mapLifetimes rename)
  | .tuple elements => .tuple (TypeExpr.mapLifetimesAll rename elements)
  | .slice element => .slice (element.mapLifetimes rename)

def TypeExpr.mapLifetimesAll (rename : String → String) : List TypeExpr → List TypeExpr
  | [] => []
  | type :: types => type.mapLifetimes rename :: TypeExpr.mapLifetimesAll rename types

def TypeArgument.mapLifetimes (rename : String → String) : TypeArgument → TypeArgument
  | .type type => .type (type.mapLifetimes rename)
  | .lifetime name => .lifetime (rename name)

def TypeArgument.mapLifetimesAll (rename : String → String) :
    List TypeArgument → List TypeArgument
  | [] => []
  | argument :: arguments =>
      argument.mapLifetimes rename :: TypeArgument.mapLifetimesAll rename arguments

end

/-- The name of an erased lifetime. -/
def anonymousLifetime : String :=
  "_"

/-- A field describes a shape, so its type keeps no lifetime of the method behind it. -/
def TypeExpr.hideLifetimes (type : TypeExpr) : TypeExpr :=
  type.mapLifetimes fun _ => anonymousLifetime

theorem TypeExpr.mapLifetimesAll_eq_map (rename : String → String) (types : List TypeExpr) :
    TypeExpr.mapLifetimesAll rename types = types.map (TypeExpr.mapLifetimes rename) := by
  induction types with
  | nil => rfl
  | cons type types inductionHypothesis => rw [mapLifetimesAll, inductionHypothesis, List.map_cons]

theorem TypeArgument.mapLifetimesAll_eq_map (rename : String → String)
    (arguments : List TypeArgument) :
    TypeArgument.mapLifetimesAll rename arguments =
      arguments.map (TypeArgument.mapLifetimes rename) := by
  induction arguments with
  | nil => rfl
  | cons argument arguments inductionHypothesis =>
      rw [mapLifetimesAll, inductionHypothesis, List.map_cons]

end InterfaceContract
