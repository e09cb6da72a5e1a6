/-
This file says which words a text has: its nonempty pieces between separators.
-/

import InterfaceContract.Text.Blank

namespace InterfaceContract.Text

variable {separates : Char → Bool} {characters word : List Char} {found : List (List Char)}

/-- A text has words without separators, and at least one separator between any two of them. -/
inductive HasWords (separates : Char → Bool) : List Char → List (List Char) → Prop
  | nil : HasWords separates [] []
  | skip {separator : Char} {rest : List Char} {others : List (List Char)}
      (separator_separates : separates separator = true) (remaining : HasWords separates rest others) :
      HasWords separates (separator :: rest) others
  | last {word : List Char} (nonempty : word ≠ [])
      (whole : ∀ character ∈ word, separates character = false) : HasWords separates word [word]
  | next {word : List Char} {separator : Char} {rest : List Char} {others : List (List Char)}
      (nonempty : word ≠ []) (whole : ∀ character ∈ word, separates character = false)
      (separator_separates : separates separator = true) (remaining : HasWords separates rest others) :
      HasWords separates (word ++ separator :: rest) (word :: others)

theorem words_append_cons {separator : Char} (ends : separates separator = true)
    (first rest : List Char) :
    words separates (first ++ separator :: rest) = words separates first ++ words separates rest := by
  rw [words, words, words, List.splitOnP_append_cons first rest ends, List.filter_append]

/-- A separator at the front belongs to no word. -/
theorem words_cons_separator {separator : Char} (ends : separates separator = true)
    (rest : List Char) : words separates (separator :: rest) = words separates rest := by
  have split := words_append_cons ends [] rest
  rwa [words_nil, List.nil_append, List.nil_append] at split

theorem words_of_whole (nonempty : word ≠ [])
    (whole : ∀ character ∈ word, separates character = false) : words separates word = [word] := by
  rw [words, List.splitOnP_eq_singleton whole]
  simpa using nonempty

theorem HasWords.words_eq (has : HasWords separates characters found) :
    words separates characters = found := by
  induction has with
  | nil => rfl
  | skip ends _ inductionHypothesis => rw [words_cons_separator ends, inductionHypothesis]
  | last nonempty whole => exact words_of_whole nonempty whole
  | @next word separator rest others nonempty whole ends _ inductionHypothesis =>
      rw [words_append_cons ends word rest, words_of_whole nonempty whole, inductionHypothesis]
      rfl

/-- One more character at the front belongs to the first word, or makes a word of its own. -/
theorem HasWords.exists_cons (has : HasWords separates characters found) (character : Char) :
    ∃ others, HasWords separates (character :: characters) others := by
  cases kind : separates character with
  | true => exact ⟨found, .skip kind has⟩
  | false =>
      have alone : ∀ single ∈ [character], separates single = false := by simpa using kind
      cases has with
      | nil => exact ⟨_, .last (List.cons_ne_nil _ _) alone⟩
      | skip ends remaining => exact ⟨_, .next (List.cons_ne_nil _ _) alone ends remaining⟩
      | last nonempty whole =>
          exact ⟨_, .last (List.cons_ne_nil _ _) (List.forall_mem_cons.mpr ⟨kind, whole⟩)⟩
      | next nonempty whole ends remaining =>
          exact ⟨_, .next (List.cons_ne_nil _ _) (List.forall_mem_cons.mpr ⟨kind, whole⟩) ends
            remaining⟩

theorem hasWords_words (separates : Char → Bool) (characters : List Char) :
    HasWords separates characters (words separates characters) := by
  have split : ∃ found, HasWords separates characters found := by
    induction characters with
    | nil => exact ⟨[], .nil⟩
    | cons character characters inductionHypothesis =>
        obtain ⟨found, has⟩ := inductionHypothesis
        exact has.exists_cons character
  obtain ⟨found, has⟩ := split
  rwa [has.words_eq]

/-- The words of a text are all that it has. -/
theorem hasWords_iff : HasWords separates characters found ↔ found = words separates characters := by
  constructor
  · intro has
    exact has.words_eq.symm
  · rintro rfl
    exact hasWords_words separates characters

end InterfaceContract.Text
