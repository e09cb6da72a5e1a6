/-
This file lists the lifetimes inside a type and shows what renaming does to the list.
-/

import InterfaceContract.TypeExpr.Lifetime

namespace InterfaceContract

mutual

/-- The names of all lifetimes in a type, at any depth, from left to right. -/
def TypeExpr.lifetimes : TypeExpr → List String
  | .path _ arguments => TypeArgument.lifetimesAll arguments
  | .reference _ lifetime inner => lifetime.toList ++ inner.lifetimes
  | .tuple elements => TypeExpr.lifetimesAll elements
  | .slice element => element.lifetimes

def TypeExpr.lifetimesAll : List TypeExpr → List String
  | [] => []
  | type :: types => type.lifetimes ++ TypeExpr.lifetimesAll types

def TypeArgument.lifetimes : TypeArgument → List String
  | .type type => type.lifetimes
  | .lifetime name => [name]

def TypeArgument.lifetimesAll : List TypeArgument → List String
  | [] => []
  | argument :: arguments => argument.lifetimes ++ TypeArgument.lifetimesAll arguments

end

mutual

/-- Renaming reaches every lifetime and adds none. -/
theorem TypeExpr.lifetimes_mapLifetimes (rename : String → String) :
    ∀ type : TypeExpr, (type.mapLifetimes rename).lifetimes = type.lifetimes.map rename
  | .path _ arguments => by
      rw [TypeExpr.mapLifetimes, TypeExpr.lifetimes, TypeExpr.lifetimes]
      exact TypeArgument.lifetimesAll_mapLifetimesAll rename arguments
  | .reference _ lifetime inner => by
      rw [TypeExpr.mapLifetimes, TypeExpr.lifetimes, TypeExpr.lifetimes, List.map_append,
        TypeExpr.lifetimes_mapLifetimes rename inner]
      cases lifetime <;> rfl
  | .tuple elements => by
      rw [TypeExpr.mapLifetimes, TypeExpr.lifetimes, TypeExpr.lifetimes]
      exact TypeExpr.lifetimesAll_mapLifetimesAll rename elements
  | .slice element => by
      rw [TypeExpr.mapLifetimes, TypeExpr.lifetimes, TypeExpr.lifetimes]
      exact TypeExpr.lifetimes_mapLifetimes rename element

theorem TypeExpr.lifetimesAll_mapLifetimesAll (rename : String → String) :
    ∀ types : List TypeExpr,
      TypeExpr.lifetimesAll (TypeExpr.mapLifetimesAll rename types) =
        (TypeExpr.lifetimesAll types).map rename
  | [] => rfl
  | type :: types => by
      rw [TypeExpr.mapLifetimesAll, TypeExpr.lifetimesAll, TypeExpr.lifetimesAll, List.map_append,
        TypeExpr.lifetimes_mapLifetimes rename type,
        TypeExpr.lifetimesAll_mapLifetimesAll rename types]

theorem TypeArgument.lifetimes_mapLifetimes (rename : String → String) :
    ∀ argument : TypeArgument,
      (argument.mapLifetimes rename).lifetimes = argument.lifetimes.map rename
  | .type type => by
      rw [TypeArgument.mapLifetimes, TypeArgument.lifetimes, TypeArgument.lifetimes]
      exact TypeExpr.lifetimes_mapLifetimes rename type
  | .lifetime _ => rfl

theorem TypeArgument.lifetimesAll_mapLifetimesAll (rename : String → String) :
    ∀ arguments : List TypeArgument,
      TypeArgument.lifetimesAll (TypeArgument.mapLifetimesAll rename arguments) =
        (TypeArgument.lifetimesAll arguments).map rename
  | [] => rfl
  | argument :: arguments => by
      rw [TypeArgument.mapLifetimesAll, TypeArgument.lifetimesAll, TypeArgument.lifetimesAll,
        List.map_append, TypeArgument.lifetimes_mapLifetimes rename argument,
        TypeArgument.lifetimesAll_mapLifetimesAll rename arguments]

end

/-- A type that hides its lifetimes names none but the anonymous one. -/
theorem TypeExpr.eq_anonymous_of_mem_lifetimes {type : TypeExpr} {lifetime : String}
    (member : lifetime ∈ type.hideLifetimes.lifetimes) : lifetime = anonymousLifetime := by
  rw [hideLifetimes, lifetimes_mapLifetimes] at member
  obtain ⟨_, _, renamed⟩ := List.mem_map.mp member
  exact renamed.symm

end InterfaceContract
