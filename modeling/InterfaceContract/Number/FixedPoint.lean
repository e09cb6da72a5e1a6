/-
This file writes rational numbers with a fixed number of decimal places.
-/

import InterfaceContract.Number.Decimal

namespace InterfaceContract.Number

/-- The decimal digits of a number, filled with zeros on the left. -/
def paddedDigits (width number : Nat) : String :=
  let digits := toString number
  String.ofList (List.replicate (width - digits.length) '0') ++ digits

/-- The text of a value with the given number of places; a half goes away from zero, and a negative
value keeps its sign even when it rounds to zero. From 10 to the power of 21 on there are no places. -/
def fixedPoint (places : Nat) (value : Rat) : String :=
  if Nat.pow 10 21 ≤ value.abs then (Decimal.shortest value).text
  else
    let unit := Nat.pow 10 places
    let scaled := roundHalfUp (value.abs * unit)
    let sign := if value < 0 then "-" else ""
    sign ++ toString (scaled / unit) ++ "." ++ paddedDigits places (scaled % unit)

end InterfaceContract.Number
