/-
This file rounds rational numbers to integers and to binary floating point.
-/

namespace InterfaceContract.Number

/-- A power whose exponent may be negative. -/
def power (base : Nat) (exponent : Int) : Rat :=
  mkRat (Nat.pow base exponent.toNat) (Nat.pow base (-exponent).toNat)

/-- The nearest integer to a number that is not negative; a half goes up. -/
def roundHalfUp (value : Rat) : Nat :=
  (value + 1 / 2).floor.toNat

/-- The nearest integer; a half goes to the even neighbour. -/
def roundHalfEven (value : Rat) : Int :=
  let below := value.floor
  let excess := value - below
  if excess < 1 / 2 then below
  else if 1 / 2 < excess then below + 1
  else below + below % 2

/-- The exponent of the leading binary digit of a number other than zero. -/
def leadingExponent (value : Rat) : Int :=
  let estimate := (value.num.natAbs.log2 : Int) - value.den.log2
  if value.abs < power 2 estimate then estimate - 1 else estimate

/-- The place of the last of 53 significant binary digits, but no place below -1074. -/
def lastPlace (value : Rat) : Int :=
  let place := leadingExponent value - 52
  if place < -1074 then -1074 else place

/-- The nearest number in binary floating point; a tie goes to the even neighbour. -/
def nearestBinary (value : Rat) : Rat :=
  let unit := power 2 (lastPlace value)
  roundHalfEven (value / unit) * unit

end InterfaceContract.Number
