/-
This file defines the types that a declaration refers to and decides when two of them are the same.
-/

namespace InterfaceContract

mutual

/-- A type as a signature spells it. -/
inductive TypeExpr where
  /-- A named type with its generic arguments. -/
  | path (name : String) (arguments : List TypeArgument)
  /-- A borrowed reference. -/
  | reference (mutable : Bool) (lifetime : Option String) (inner : TypeExpr)
  /-- A tuple; the empty one is the unit type. -/
  | tuple (elements : List TypeExpr)
  | slice (element : TypeExpr)

/-- A generic argument of a named type. -/
inductive TypeArgument where
  | type (type : TypeExpr)
  | lifetime (name : String)

end

namespace TypeExpr

instance : Inhabited TypeExpr := ⟨.tuple []⟩

def unit : TypeExpr :=
  .tuple []

/-- A named type without arguments. -/
def named (name : String) : TypeExpr :=
  .path name []

/-- A shared reference without a lifetime. -/
def shared (inner : TypeExpr) : TypeExpr :=
  .reference false none inner

end TypeExpr

instance : Inhabited TypeArgument := ⟨.type default⟩

mutual

/-- Two types are the same when they are spelled alike, lifetimes included. -/
def TypeExpr.beq : TypeExpr → TypeExpr → Bool
  | .path leftName leftArguments, .path rightName rightArguments =>
      leftName == rightName && TypeArgument.beqAll leftArguments rightArguments
  | .reference leftMutable leftLifetime leftInner,
    .reference rightMutable rightLifetime rightInner =>
      leftMutable == rightMutable && leftLifetime == rightLifetime && leftInner.beq rightInner
  | .tuple leftElements, .tuple rightElements => TypeExpr.beqAll leftElements rightElements
  | .slice leftElement, .slice rightElement => leftElement.beq rightElement
  | _, _ => false

def TypeExpr.beqAll : List TypeExpr → List TypeExpr → Bool
  | [], [] => true
  | left :: lefts, right :: rights => left.beq right && TypeExpr.beqAll lefts rights
  | _, _ => false

def TypeArgument.beq : TypeArgument → TypeArgument → Bool
  | .type left, .type right => left.beq right
  | .lifetime left, .lifetime right => left == right
  | _, _ => false

def TypeArgument.beqAll : List TypeArgument → List TypeArgument → Bool
  | [], [] => true
  | left :: lefts, right :: rights => left.beq right && TypeArgument.beqAll lefts rights
  | _, _ => false

end

mutual

theorem TypeExpr.beq_iff : ∀ left right : TypeExpr, left.beq right = true ↔ left = right
  | .path _ leftArguments, .path _ rightArguments => by
      simp [TypeExpr.beq, TypeArgument.beqAll_iff leftArguments rightArguments]
  | .reference _ _ leftInner, .reference _ _ rightInner => by
      simp [TypeExpr.beq, TypeExpr.beq_iff leftInner rightInner, and_assoc]
  | .tuple leftElements, .tuple rightElements => by
      simp [TypeExpr.beq, TypeExpr.beqAll_iff leftElements rightElements]
  | .slice leftElement, .slice rightElement => by
      simp [TypeExpr.beq, TypeExpr.beq_iff leftElement rightElement]
  | .path .., .reference .. | .path .., .tuple _ | .path .., .slice _
  | .reference .., .path .. | .reference .., .tuple _ | .reference .., .slice _
  | .tuple _, .path .. | .tuple _, .reference .. | .tuple _, .slice _
  | .slice _, .path .. | .slice _, .reference .. | .slice _, .tuple _ => by
      simp [TypeExpr.beq]

theorem TypeExpr.beqAll_iff :
    ∀ lefts rights : List TypeExpr, TypeExpr.beqAll lefts rights = true ↔ lefts = rights
  | [], [] => by simp [TypeExpr.beqAll]
  | [], _ :: _ | _ :: _, [] => by simp [TypeExpr.beqAll]
  | left :: lefts, right :: rights => by
      simp [TypeExpr.beqAll, TypeExpr.beq_iff left right, TypeExpr.beqAll_iff lefts rights]

theorem TypeArgument.beq_iff :
    ∀ left right : TypeArgument, left.beq right = true ↔ left = right
  | .type left, .type right => by simp [TypeArgument.beq, TypeExpr.beq_iff left right]
  | .lifetime _, .lifetime _ => by simp [TypeArgument.beq]
  | .type _, .lifetime _ | .lifetime _, .type _ => by simp [TypeArgument.beq]

theorem TypeArgument.beqAll_iff :
    ∀ lefts rights : List TypeArgument, TypeArgument.beqAll lefts rights = true ↔ lefts = rights
  | [], [] => by simp [TypeArgument.beqAll]
  | [], _ :: _ | _ :: _, [] => by simp [TypeArgument.beqAll]
  | left :: lefts, right :: rights => by
      simp [TypeArgument.beqAll, TypeArgument.beq_iff left right,
        TypeArgument.beqAll_iff lefts rights]

end

instance : BEq TypeExpr := ⟨TypeExpr.beq⟩

instance : BEq TypeArgument := ⟨TypeArgument.beq⟩

instance : LawfulBEq TypeExpr where
  eq_of_beq {left right} := (TypeExpr.beq_iff left right).mp
  rfl {type} := (TypeExpr.beq_iff type type).mpr rfl

instance : LawfulBEq TypeArgument where
  eq_of_beq {left right} := (TypeArgument.beq_iff left right).mp
  rfl {argument} := (TypeArgument.beq_iff argument argument).mpr rfl

instance : DecidableEq TypeExpr :=
  fun left right => decidable_of_iff _ (TypeExpr.beq_iff left right)

instance : DecidableEq TypeArgument :=
  fun left right => decidable_of_iff _ (TypeArgument.beq_iff left right)

/-- A type that names a contract. -/
structure NamedType where
  name : String
  arguments : List TypeArgument := []
  deriving DecidableEq

namespace NamedType

def toTypeExpr (path : NamedType) : TypeExpr :=
  .path path.name path.arguments

end NamedType

end InterfaceContract
