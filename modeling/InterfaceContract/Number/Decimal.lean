/-
This file writes binary floating point numbers with the fewest decimal digits that read back.
-/

import InterfaceContract.Number.Rounding

namespace InterfaceContract

/-- An integer times a power of ten. -/
structure Decimal where
  digits : Int
  exponent : Int
  deriving Repr, DecidableEq

namespace Decimal

def value (decimal : Decimal) : Rat :=
  decimal.digits * Number.power 10 decimal.exponent

/-- The neighbours of a number among the multiples of a power of ten, the nearer one first. -/
def neighbours (number : Rat) (exponent : Int) : List Decimal :=
  let scaled := number / Number.power 10 exponent
  let nearest := Number.roundHalfEven scaled
  let other := if scaled < nearest then nearest - 1 else nearest + 1
  [⟨nearest, exponent⟩, ⟨other, exponent⟩]

def readsBack (number : Rat) (decimal : Decimal) : Bool :=
  Number.nearestBinary decimal.value == number

/-- The decimal digits in front of the point. -/
def wholeDigits (number : Rat) : Nat :=
  (toString number.abs.floor).length

/-- The shortest decimal for a binary number is the one on the coarsest grid that has any; the
number itself lies on the last grid. -/
def ofBinary (number : Rat) : Decimal :=
  let whole := wholeDigits number
  let found :=
    (List.range (whole + 1075)).findSome? fun (index : Nat) =>
      (neighbours number (whole - index)).find? (readsBack number)
  found.getD ⟨0, 0⟩

/-- The shortest decimal that reads back as the binary number next to a value. -/
def shortest (value : Rat) : Decimal :=
  if value = 0 then ⟨0, 0⟩ else ofBinary (Number.nearestBinary value)

def zeros (count : Int) : String :=
  String.ofList (List.replicate count.toNat '0')

/-- Digits written in full, with the decimal point behind the given number of them. -/
def plainText (digits : List Char) (point : Int) : String :=
  if point ≤ 0 then "0." ++ zeros (-point) ++ String.ofList digits
  else if digits.length ≤ point then String.ofList digits ++ zeros (point - digits.length)
  else
    String.ofList (digits.take point.toNat) ++ "." ++ String.ofList (digits.drop point.toNat)

/-- Digits with the decimal point behind the first one, and the exponent that makes up for it. -/
def scientificText (digits : List Char) (point : Int) : String :=
  let fraction := if digits.length = 1 then "" else "." ++ String.ofList (digits.drop 1)
  let sign := if point ≤ 0 then "-" else "+"
  String.ofList (digits.take 1) ++ fraction ++ "e" ++ sign ++ toString (point - 1).natAbs

/-- Numbers from a millionth up to below 10 to the power of 21 are written in full. -/
def text (decimal : Decimal) : String :=
  let digits := (toString decimal.digits.natAbs).toList
  let point := digits.length + decimal.exponent
  let sign := if decimal.digits < 0 then "-" else ""
  sign ++
    if -6 < point && point ≤ 21 then plainText digits point else scientificText digits point

end Decimal

end InterfaceContract
