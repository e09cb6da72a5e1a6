/-
This file says when two types differ in nothing but the names of their lifetimes, and shows that hiding
the lifetimes makes exactly these types equal.
-/

import InterfaceContract.Proofs.TypeExpr.LifetimeNames
import Mathlib.Data.List.Forall2

namespace InterfaceContract

mutual

/-- Two types differ at most in the names of their lifetimes. -/
inductive TypeExpr.SameShape : TypeExpr → TypeExpr → Prop
  | path {name : String} {arguments others : List TypeArgument}
      (same : List.Forall₂ TypeArgument.SameShape arguments others) :
      TypeExpr.SameShape (.path name arguments) (.path name others)
  /-- A lifetime stands beside a lifetime, and none beside none. -/
  | reference {mutable : Bool} {lifetime other : Option String} {inner otherInner : TypeExpr}
      (present : lifetime.isSome = other.isSome) (same : TypeExpr.SameShape inner otherInner) :
      TypeExpr.SameShape (.reference mutable lifetime inner) (.reference mutable other otherInner)
  | tuple {elements others : List TypeExpr}
      (same : List.Forall₂ TypeExpr.SameShape elements others) :
      TypeExpr.SameShape (.tuple elements) (.tuple others)
  | slice {element other : TypeExpr} (same : TypeExpr.SameShape element other) :
      TypeExpr.SameShape (.slice element) (.slice other)

inductive TypeArgument.SameShape : TypeArgument → TypeArgument → Prop
  | type {type other : TypeExpr} (same : TypeExpr.SameShape type other) :
      TypeArgument.SameShape (.type type) (.type other)
  | lifetime {name other : String} : TypeArgument.SameShape (.lifetime name) (.lifetime other)

end

namespace TypeExpr

theorem sameShape_path_iff {name other : String} {arguments others : List TypeArgument} :
    (path name arguments).SameShape (path other others) ↔
      name = other ∧ List.Forall₂ TypeArgument.SameShape arguments others := by
  constructor
  · rintro ⟨same⟩
    exact ⟨rfl, same⟩
  · rintro ⟨rfl, same⟩
    exact .path same

theorem sameShape_reference_iff {mutable otherMutable : Bool} {lifetime other : Option String}
    {inner otherInner : TypeExpr} :
    (reference mutable lifetime inner).SameShape (reference otherMutable other otherInner) ↔
      mutable = otherMutable ∧ lifetime.isSome = other.isSome ∧ inner.SameShape otherInner := by
  constructor
  · rintro (_ | ⟨present, same⟩)
    exact ⟨rfl, present, same⟩
  · rintro ⟨rfl, present, same⟩
    exact .reference present same

theorem sameShape_tuple_iff {elements others : List TypeExpr} :
    (tuple elements).SameShape (tuple others) ↔ List.Forall₂ SameShape elements others := by
  constructor
  · rintro (_ | _ | same)
    exact same
  · exact .tuple

theorem sameShape_slice_iff {element other : TypeExpr} :
    (slice element).SameShape (slice other) ↔ element.SameShape other := by
  constructor
  · rintro (_ | _ | _ | same)
    exact same
  · exact .slice

end TypeExpr

/-- Hidden lifetimes are told apart by their presence alone. -/
theorem map_const_eq_iff (hidden : String) (lifetime other : Option String) :
    lifetime.map (fun _ => hidden) = other.map (fun _ => hidden) ↔
      lifetime.isSome = other.isSome := by
  cases lifetime <;> cases other <;> simp

mutual

/-- Types become equal under one name for all lifetimes exactly if they have the same shape. -/
theorem TypeExpr.mapLifetimes_const_eq_iff (hidden : String) : ∀ left right : TypeExpr,
    left.mapLifetimes (fun _ => hidden) = right.mapLifetimes (fun _ => hidden) ↔
      left.SameShape right
  | .path _ arguments, .path _ others => by
      rw [TypeExpr.mapLifetimes, TypeExpr.mapLifetimes, TypeExpr.path.injEq,
        TypeArgument.mapLifetimesAll_const_eq_iff hidden arguments others,
        TypeExpr.sameShape_path_iff]
  | .reference _ lifetime inner, .reference _ other otherInner => by
      rw [TypeExpr.mapLifetimes, TypeExpr.mapLifetimes, TypeExpr.reference.injEq,
        map_const_eq_iff, TypeExpr.mapLifetimes_const_eq_iff hidden inner otherInner,
        TypeExpr.sameShape_reference_iff]
  | .tuple elements, .tuple others => by
      rw [TypeExpr.mapLifetimes, TypeExpr.mapLifetimes, TypeExpr.tuple.injEq,
        TypeExpr.mapLifetimesAll_const_eq_iff hidden elements others,
        TypeExpr.sameShape_tuple_iff]
  | .slice element, .slice other => by
      rw [TypeExpr.mapLifetimes, TypeExpr.mapLifetimes, TypeExpr.slice.injEq,
        TypeExpr.mapLifetimes_const_eq_iff hidden element other, TypeExpr.sameShape_slice_iff]
  | .path .., .reference .. | .path .., .tuple _ | .path .., .slice _
  | .reference .., .path .. | .reference .., .tuple _ | .reference .., .slice _
  | .tuple _, .path .. | .tuple _, .reference .. | .tuple _, .slice _
  | .slice _, .path .. | .slice _, .reference .. | .slice _, .tuple _ =>
      iff_of_false (by simp [TypeExpr.mapLifetimes]) nofun

theorem TypeExpr.mapLifetimesAll_const_eq_iff (hidden : String) : ∀ lefts rights : List TypeExpr,
    TypeExpr.mapLifetimesAll (fun _ => hidden) lefts =
        TypeExpr.mapLifetimesAll (fun _ => hidden) rights ↔
      List.Forall₂ TypeExpr.SameShape lefts rights
  | [], [] => iff_of_true rfl .nil
  | [], _ :: _ | _ :: _, [] => iff_of_false (by simp [TypeExpr.mapLifetimesAll]) nofun
  | left :: lefts, right :: rights => by
      rw [TypeExpr.mapLifetimesAll, TypeExpr.mapLifetimesAll, List.cons.injEq, List.forall₂_cons,
        TypeExpr.mapLifetimes_const_eq_iff hidden left right,
        TypeExpr.mapLifetimesAll_const_eq_iff hidden lefts rights]

theorem TypeArgument.mapLifetimes_const_eq_iff (hidden : String) : ∀ left right : TypeArgument,
    left.mapLifetimes (fun _ => hidden) = right.mapLifetimes (fun _ => hidden) ↔
      left.SameShape right
  | .type left, .type right => by
      rw [TypeArgument.mapLifetimes, TypeArgument.mapLifetimes, TypeArgument.type.injEq,
        TypeExpr.mapLifetimes_const_eq_iff hidden left right]
      constructor
      · exact .type
      · rintro ⟨same⟩
        exact same
  | .lifetime _, .lifetime _ => iff_of_true rfl .lifetime
  | .type _, .lifetime _ | .lifetime _, .type _ =>
      iff_of_false (by simp [TypeArgument.mapLifetimes]) nofun

theorem TypeArgument.mapLifetimesAll_const_eq_iff (hidden : String) :
    ∀ lefts rights : List TypeArgument,
      TypeArgument.mapLifetimesAll (fun _ => hidden) lefts =
          TypeArgument.mapLifetimesAll (fun _ => hidden) rights ↔
        List.Forall₂ TypeArgument.SameShape lefts rights
  | [], [] => iff_of_true rfl .nil
  | [], _ :: _ | _ :: _, [] => iff_of_false (by simp [TypeArgument.mapLifetimesAll]) nofun
  | left :: lefts, right :: rights => by
      rw [TypeArgument.mapLifetimesAll, TypeArgument.mapLifetimesAll, List.cons.injEq,
        List.forall₂_cons, TypeArgument.mapLifetimes_const_eq_iff hidden left right,
        TypeArgument.mapLifetimesAll_const_eq_iff hidden lefts rights]

end

mutual

/-- Renaming twice is renaming once. -/
theorem TypeExpr.mapLifetimes_mapLifetimes (rename again : String → String) : ∀ type : TypeExpr,
    (type.mapLifetimes rename).mapLifetimes again = type.mapLifetimes (again ∘ rename)
  | .path _ arguments => by
      rw [TypeExpr.mapLifetimes, TypeExpr.mapLifetimes, TypeExpr.mapLifetimes,
        TypeArgument.mapLifetimesAll_mapLifetimesAll rename again arguments]
  | .reference _ lifetime inner => by
      rw [TypeExpr.mapLifetimes, TypeExpr.mapLifetimes, TypeExpr.mapLifetimes, Option.map_map,
        TypeExpr.mapLifetimes_mapLifetimes rename again inner]
  | .tuple elements => by
      rw [TypeExpr.mapLifetimes, TypeExpr.mapLifetimes, TypeExpr.mapLifetimes,
        TypeExpr.mapLifetimesAll_mapLifetimesAll rename again elements]
  | .slice element => by
      rw [TypeExpr.mapLifetimes, TypeExpr.mapLifetimes, TypeExpr.mapLifetimes,
        TypeExpr.mapLifetimes_mapLifetimes rename again element]

theorem TypeExpr.mapLifetimesAll_mapLifetimesAll (rename again : String → String) :
    ∀ types : List TypeExpr,
      TypeExpr.mapLifetimesAll again (TypeExpr.mapLifetimesAll rename types) =
        TypeExpr.mapLifetimesAll (again ∘ rename) types
  | [] => rfl
  | type :: types => by
      rw [TypeExpr.mapLifetimesAll, TypeExpr.mapLifetimesAll, TypeExpr.mapLifetimesAll,
        TypeExpr.mapLifetimes_mapLifetimes rename again type,
        TypeExpr.mapLifetimesAll_mapLifetimesAll rename again types]

theorem TypeArgument.mapLifetimes_mapLifetimes (rename again : String → String) :
    ∀ argument : TypeArgument,
      (argument.mapLifetimes rename).mapLifetimes again = argument.mapLifetimes (again ∘ rename)
  | .type type => by
      rw [TypeArgument.mapLifetimes, TypeArgument.mapLifetimes, TypeArgument.mapLifetimes,
        TypeExpr.mapLifetimes_mapLifetimes rename again type]
  | .lifetime _ => rfl

theorem TypeArgument.mapLifetimesAll_mapLifetimesAll (rename again : String → String) :
    ∀ arguments : List TypeArgument,
      TypeArgument.mapLifetimesAll again (TypeArgument.mapLifetimesAll rename arguments) =
        TypeArgument.mapLifetimesAll (again ∘ rename) arguments
  | [] => rfl
  | argument :: arguments => by
      rw [TypeArgument.mapLifetimesAll, TypeArgument.mapLifetimesAll, TypeArgument.mapLifetimesAll,
        TypeArgument.mapLifetimes_mapLifetimes rename again argument,
        TypeArgument.mapLifetimesAll_mapLifetimesAll rename again arguments]

end

namespace TypeExpr

variable {left right : TypeExpr}

theorem hideLifetimes_eq_iff : left.hideLifetimes = right.hideLifetimes ↔ left.SameShape right :=
  mapLifetimes_const_eq_iff anonymousLifetime left right

/-- Names that are hidden anyway may be changed before. -/
theorem hideLifetimes_mapLifetimes (rename : String → String) (type : TypeExpr) :
    (type.mapLifetimes rename).hideLifetimes = type.hideLifetimes :=
  mapLifetimes_mapLifetimes rename (fun _ => anonymousLifetime) type

/-- A type with hidden lifetimes is of the same shape, but it names no lifetime any more. -/
structure HidesLifetimes (type hidden : TypeExpr) : Prop where
  shape : type.SameShape hidden
  anonymous : ∀ lifetime ∈ hidden.lifetimes, lifetime = "_"
  settled : hidden.hideLifetimes = hidden

theorem hidesLifetimes (type : TypeExpr) : type.HidesLifetimes type.hideLifetimes := by
  have settled : type.hideLifetimes.hideLifetimes = type.hideLifetimes :=
    hideLifetimes_mapLifetimes (fun _ => anonymousLifetime) type
  exact ⟨hideLifetimes_eq_iff.mp settled.symm, fun _ => eq_anonymous_of_mem_lifetimes, settled⟩

end TypeExpr

end InterfaceContract
