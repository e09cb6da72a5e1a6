/-
This file splits a text into its UTF-16 code units.
-/

namespace InterfaceContract.Text

/-- A UTF-16 code unit. -/
abbrev CodeUnit := Nat

/-- A character outside the basic multilingual plane takes two surrogates. -/
def codeUnits (character : Char) : List CodeUnit :=
  let code := character.toNat
  if code < 0x10000 then [code]
  else [0xD800 + (code - 0x10000) / 0x400, 0xDC00 + (code - 0x10000) % 0x400]

def unitsOf (characters : List Char) : List CodeUnit :=
  characters.flatMap codeUnits

@[simp] theorem unitsOf_nil : unitsOf [] = [] := rfl

@[simp] theorem unitsOf_cons (character : Char) (characters : List Char) :
    unitsOf (character :: characters) = codeUnits character ++ unitsOf characters := rfl

@[simp] theorem unitsOf_append (left right : List Char) :
    unitsOf (left ++ right) = unitsOf left ++ unitsOf right := by
  simp [unitsOf]

/-- The code units that end a line. -/
def endsLine (unit : CodeUnit) : Bool :=
  unit == 0x0A || unit == 0x0D || unit == 0x2028 || unit == 0x2029

end InterfaceContract.Text
