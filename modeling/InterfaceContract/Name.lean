/-
This file turns declared identifiers into exposed names.
-/

import InterfaceContract.Text.Uppercase

namespace InterfaceContract.Name

/-- A raw identifier loses its `r#` mark. -/
def dropRawMark (ident : String) : String :=
  match ident.toList with
  | 'r' :: '#' :: rest => String.ofList rest
  | _ => ident

/-- The mark `__` reserves a name for the introspection system. -/
def isReserved (name : String) : Bool :=
  ['_', '_'].isPrefixOf name.toList

/-- Joins the words between underscores; `raised` tells whether the next character starts a later
word. -/
def joinWords (raised : Bool) : List Char → List Char
  | [] => []
  | '_' :: rest => joinWords true rest
  | character :: rest =>
      (if raised then Text.uppercase character else [character]) ++ joinWords false rest

/-- The first word keeps its case, and underscores before it vanish. -/
def camelChars (characters : List Char) : List Char :=
  joinWords false (characters.dropWhile (· == '_'))

/-- Changes snake case to camel case; only a leading `__` survives. -/
def camelCase (ident : String) : String :=
  match ident.toList with
  | '_' :: '_' :: rest => String.ofList ('_' :: '_' :: camelChars rest)
  | characters => String.ofList (camelChars characters)

/-- The name under which an identifier is exposed unless a directive names it. -/
def exposed (ident : String) : String :=
  camelCase (dropRawMark ident)

@[simp] theorem joinWords_nil (raised : Bool) : joinWords raised [] = [] := by
  cases raised <;> rfl

@[simp] theorem joinWords_underscore (raised : Bool) (rest : List Char) :
    joinWords raised ('_' :: rest) = joinWords true rest := by
  cases raised <;> rfl

theorem joinWords_cons {character : Char} (other : character ≠ '_') (raised : Bool)
    (rest : List Char) :
    joinWords raised (character :: rest) =
      (if raised then Text.uppercase character else [character]) ++ joinWords false rest := by
  rw [joinWords]
  exact other

/-- No word keeps an underscore. -/
theorem underscore_notMem_joinWords (raised : Bool) (characters : List Char) :
    '_' ∉ joinWords raised characters := by
  induction characters generalizing raised with
  | nil => simp
  | cons character rest inductionHypothesis =>
      by_cases equal : character = '_'
      · subst equal
        rw [joinWords_underscore]
        exact inductionHypothesis true
      · rw [joinWords_cons equal, List.mem_append, not_or]
        refine ⟨?_, inductionHypothesis false⟩
        cases raised
        · simpa using Ne.symm equal
        · exact Text.underscore_notMem_uppercase equal

/-- Characters without an underscore are one word. -/
theorem joinWords_eq_self {characters : List Char} (absent : '_' ∉ characters) :
    joinWords false characters = characters := by
  induction characters with
  | nil => rfl
  | cons character rest inductionHypothesis =>
      simp only [List.mem_cons, not_or] at absent
      rw [joinWords_cons (Ne.symm absent.1), inductionHypothesis absent.2]
      rfl

end InterfaceContract.Name
