/-
This file names the blank characters and splits a text into its words.
-/

namespace InterfaceContract.Text

/-- The blanks: ASCII white space, the space separators, the line separators and the byte order
mark. -/
def isBlank (character : Char) : Bool :=
  let code := character.toNat
  (0x09 ≤ code && code ≤ 0x0D) || code == 0x20 || code == 0xA0 || code == 0x1680 ||
    (0x2000 ≤ code && code ≤ 0x200A) || code == 0x2028 || code == 0x2029 || code == 0x202F ||
    code == 0x205F || code == 0x3000 || code == 0xFEFF

/-- The nonempty pieces of a text between separators. -/
def words (separates : Char → Bool) (characters : List Char) : List (List Char) :=
  (characters.splitOnP separates).filter (!·.isEmpty)

@[simp] theorem words_nil (separates : Char → Bool) : words separates [] = [] := rfl

end InterfaceContract.Text
