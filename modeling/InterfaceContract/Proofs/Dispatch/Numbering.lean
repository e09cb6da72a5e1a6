/-
This file says which tag each variant of a tagged union gets: the name of its type, or else that name
with the least number that is free.
-/

import InterfaceContract.Proofs.Dispatch.FreshTag
import InterfaceContract.Proofs.Text.Words
import InterfaceContract.Proofs.TypeExpr.Segments
import Mathlib.Data.List.DropRight

namespace InterfaceContract

namespace Tag

/-- The runs of word characters in a text. -/
def wordRuns (characters : List Char) : List (List Char) :=
  Text.words (!isWordCharacter ·) characters

/-- The runs of word characters, with one underscore between them. -/
def joinedRuns (characters : List Char) : List Char :=
  ['_'].intercalate (wordRuns characters)

section

variable {character next : Char}

theorem wordRuns_cons_of_other (other : isWordCharacter character = false) (rest : List Char) :
    wordRuns (character :: rest) = wordRuns rest :=
  Text.words_cons_separator (by simp [other]) rest

theorem joinedRuns_singleton (word : isWordCharacter character = true) :
    joinedRuns [character] = [character] := by
  have run : wordRuns [character] = [[character]] :=
    Text.words_of_whole (List.cons_ne_nil _ _) (by simp [word])
  rw [joinedRuns, run, List.intercalate_singleton]

/-- The run that a word character belongs to goes on with a word character behind it. -/
theorem joinedRuns_cons_of_word (word : isWordCharacter character = true)
    (nextWord : isWordCharacter next = true) (rest : List Char) :
    joinedRuns (character :: next :: rest) = character :: joinedRuns (next :: rest) := by
  obtain ⟨piece, pieces, split⟩ := List.exists_cons_of_ne_nil
    (List.splitOnP_ne_nil (!isWordCharacter ·) rest)
  cases runs : pieces.filter (!·.isEmpty) <;>
    simp [joinedRuns, wordRuns, Text.words, List.splitOnP_cons_eq_if_modifyHead, word, nextWord,
      split, runs, List.intercalate]

/-- It ends at any other character. -/
theorem joinedRuns_cons_of_other (word : isWordCharacter character = true)
    (other : isWordCharacter next = false) (rest : List Char) :
    joinedRuns (character :: next :: rest) =
      character :: if wordRuns rest = [] then [] else '_' :: joinedRuns rest := by
  have runs : wordRuns (character :: next :: rest) = [character] :: wordRuns rest := by
    simp [wordRuns, Text.words, List.splitOnP_cons_eq_if_modifyHead, word, other]
  rw [joinedRuns, runs]
  split
  case isTrue none => rw [none]; rfl
  case isFalse some =>
    obtain ⟨run, later, runs⟩ := List.exists_cons_of_ne_nil some
    rw [joinedRuns, runs, List.intercalate_cons_cons]
    rfl

end

/-- Behind a word character a run of others starts anew. -/
theorem squash_false_of_word {character : Char} (word : isWordCharacter character = true)
    (rest : List Char) : squash false (character :: rest) = squash true (character :: rest) := by
  simp [squash, word]

/-- Up to underscores at its end, a squashed text consists of its joined runs. -/
theorem squash_true_eq (characters : List Char) :
    ∃ ending, (∀ character ∈ ending, character = '_') ∧
      squash true characters = joinedRuns characters ++ ending := by
  -- A run ends at one of two neighbours, so the text is taken two characters at a time.
  induction characters using List.twoStepInduction with
  | nil => exact ⟨[], List.forall_mem_nil _, rfl⟩
  | singleton character =>
      refine ⟨[], List.forall_mem_nil _, ?_⟩
      cases word : isWordCharacter character with
      | true => simp [squash, word, joinedRuns_singleton word]
      | false =>
          rw [joinedRuns, wordRuns_cons_of_other word]
          simp [squash, word, wordRuns]
  | cons_cons character next rest behindNext behind =>
      cases word : isWordCharacter character with
      | false =>
          have skipped : squash true (character :: next :: rest) = squash true (next :: rest) := by
            rw [squash, if_neg (by simp [word]), if_pos rfl]
          rw [joinedRuns, wordRuns_cons_of_other word, skipped]
          exact behind next
      | true =>
          have kept : squash true (character :: next :: rest) =
              character :: squash false (next :: rest) := by
            rw [squash, if_pos word]
          rw [kept]
          cases nextWord : isWordCharacter next with
          | true =>
              obtain ⟨ending, marks, squashed⟩ := behind next
              refine ⟨ending, marks, ?_⟩
              rw [squash_false_of_word nextWord, squashed, joinedRuns_cons_of_word word nextWord,
                List.cons_append]
          | false =>
              obtain ⟨ending, marks, squashed⟩ := behindNext
              have squashedNext : squash false (next :: rest) = '_' :: squash true rest := by
                rw [squash, if_neg (by simp [nextWord]), if_neg (by simp)]
              rw [squashedNext, squashed, joinedRuns_cons_of_other word nextWord]
              split
              case isTrue none =>
                refine ⟨'_' :: ending, List.forall_mem_cons.mpr ⟨rfl, marks⟩, ?_⟩
                simp [joinedRuns, none]
              case isFalse some => exact ⟨ending, marks, by simp⟩

theorem trimUnderscores_cons_underscore (characters : List Char) :
    trimUnderscores ('_' :: characters) = trimUnderscores characters := by
  simp [trimUnderscores]

theorem trimUnderscores_append {ending : List Char} (marks : ∀ character ∈ ending, character = '_')
    (characters : List Char) :
    trimUnderscores (characters ++ ending) = trimUnderscores characters := by
  have none : ending.dropWhile (· == '_') = [] := by simpa using marks
  have noneBack : ending.reverse.dropWhile (· == '_') = [] := by simpa using marks
  rw [trimUnderscores, trimUnderscores, List.dropWhile_append]
  split
  case isTrue empty => simp [none, List.isEmpty_iff.mp empty]
  case isFalse => simp [List.dropWhile_append, noneBack]

theorem trimUnderscores_squash (characters : List Char) :
    trimUnderscores (squash false characters) = trimUnderscores (joinedRuns characters) := by
  have squashed : trimUnderscores (squash false characters) =
      trimUnderscores (squash true characters) := by
    cases characters with
    | nil => rfl
    | cons character rest =>
        cases word : isWordCharacter character with
        | true => rw [squash_false_of_word word]
        | false =>
            have first : squash false (character :: rest) = '_' :: squash true rest := by
              simp [squash, word]
            have skipped : squash true (character :: rest) = squash true rest := by
              simp [squash, word]
            rw [first, skipped, trimUnderscores_cons_underscore]
  obtain ⟨ending, marks, joined⟩ := squash_true_eq characters
  rw [squashed, joined, trimUnderscores_append marks]

/-- The tag that a type asks for: a path the last of its segments, any other type the runs of word
characters in its text with one underscore between them and no further one around them, or else
`Variant`. -/
inductive BaseOf : TypeExpr → String → Prop
  | path {name : String} {arguments : List TypeArgument} {earlier : List String} {last : String}
      (split : Segmented name (earlier ++ [last])) : BaseOf (.path name arguments) last
  | words {type : TypeExpr} {word : String} (unnamed : ∀ name arguments, type ≠ .path name arguments)
      (spelled : trimUnderscores (joinedRuns type.render.toList) = word.toList)
      (nonempty : word ≠ "") : BaseOf type word
  | blank {type : TypeExpr} (unnamed : ∀ name arguments, type ≠ .path name arguments)
      (nothing : trimUnderscores (joinedRuns type.render.toList) = []) : BaseOf type "Variant"

theorem baseOf_of_unnamed {type : TypeExpr}
    (unnamed : ∀ name arguments, type ≠ .path name arguments) (absent : type.baseName? = none) :
    BaseOf type (base type) := by
  rw [base, absent, Option.getD_none, wordTag, trimUnderscores_squash]
  split
  case h_1 nothing => exact .blank unnamed nothing
  case h_2 characters nonempty =>
    refine .words unnamed String.toList_ofList.symm ?_
    intro empty
    exact nonempty (String.ofList_eq_empty_iff.mp empty)

theorem baseOf_base (type : TypeExpr) : BaseOf type (base type) := by
  cases type with
  | path name arguments =>
      have nonempty : segments name ≠ [] := by
        simpa [segments] using segmentChars_ne_nil name.toList
      have last : (TypeExpr.path name arguments).baseName? = some ((segments name).getLast nonempty) :=
        List.getLast?_eq_some_getLast nonempty
      rw [base, last]
      exact .path (segmented_iff.mpr (List.dropLast_append_getLast nonempty))
  | reference mutable lifetime inner => exact baseOf_of_unnamed (by rintro _ _ ⟨⟩) rfl
  | tuple elements => exact baseOf_of_unnamed (by rintro _ _ ⟨⟩) rfl
  | slice element => exact baseOf_of_unnamed (by rintro _ _ ⟨⟩) rfl

/-- The tag of a type among used ones: its base, or if that is used the base with the least number from
two on that is free. One of the first numbers is. -/
inductive Chosen (used : List String) (type : TypeExpr) : String → Prop
  | base {base : String} (asked : BaseOf type base) (free : base ∉ used) : Chosen used type base
  | numbered {base : String} (asked : BaseOf type base) (taken : base ∈ used) (number : Nat)
      (from_two : 2 ≤ number) (bounded : number ≤ used.length + 1)
      (free : base ++ toString number ∉ used)
      (least : ∀ smaller, 2 ≤ smaller → smaller < number → base ++ toString smaller ∈ used) :
      Chosen used type (base ++ toString number)

/-- The base and the numbered tags in front of a free one are different, and all of them are used. -/
theorem length_le_of_taken {used : List String} {base : String} (taken : base ∈ used) {count : Nat}
    (all : ∀ index < count, base ++ toString (index + 2) ∈ used) : count + 1 ≤ used.length := by
  have apart : base ∉ Tag.numbered base count := by
    intro member
    obtain ⟨index, -, same⟩ := List.mem_map.mp member
    exact absurd same (by simp)
  have distinct : (base :: Tag.numbered base count).Nodup :=
    List.nodup_cons.mpr ⟨apart, nodup_numbered base count⟩
  by_contra shorter
  have longer : used.length < (base :: Tag.numbered base count).length := by
    rw [List.length_cons, length_numbered]
    omega
  obtain ⟨tag, member, unused⟩ := exists_mem_notMem_of_length_lt distinct longer
  rcases List.mem_cons.mp member with rfl | member
  · exact unused taken
  · obtain ⟨index, inRange, rfl⟩ := List.mem_map.mp member
    exact unused (all index (List.mem_range.mp inRange))

theorem chosen_fresh (used : List String) (type : TypeExpr) :
    Chosen used type (fresh used (Tag.base type)) := by
  rw [fresh]
  split
  case isFalse free => exact .base (baseOf_base type) free
  case isTrue taken =>
    rw [Tag.numbered, List.find?_map]
    cases found : (List.range (used.length + 1)).find?
        ((· ∉ used) ∘ fun index => Tag.base type ++ toString (index + 2)) with
    | none =>
        have all := List.find?_range_eq_none.mp found
        have tooMany : used.length + 1 + 1 ≤ used.length :=
          length_le_of_taken taken fun index inRange => by simpa using all index inRange
        omega
    | some index =>
        obtain ⟨free, -, smaller⟩ := List.find?_range_eq_some.mp found
        have all : ∀ other < index, Tag.base type ++ toString (other + 2) ∈ used :=
          fun other before => by simpa using smaller other before
        have bounded : index + 1 ≤ used.length := length_le_of_taken taken all
        refine .numbered (baseOf_base type) taken (index + 2) (by omega) (by omega)
          (by simpa using free) ?_
        intro number fromTwo before
        obtain ⟨other, rfl⟩ := Nat.exists_eq_add_of_le' fromTwo
        exact all other (by omega)

/-- The order in which the used tags were taken does not matter. -/
theorem Chosen.of_reverse {used : List String} {type : TypeExpr} {tag : String}
    (chosen : Chosen used.reverse type tag) : Chosen used type tag := by
  cases chosen with
  | base asked free => exact .base asked (by simpa using free)
  | numbered asked taken number fromTwo bounded free least =>
      exact .numbered asked (by simpa using taken) number fromTwo (by simpa using bounded)
        (by simpa using free) (by simpa using least)

theorem allocate_append (used : List String) (first second : List TypeExpr) :
    allocate used (first ++ second) =
      allocate used first ++ allocate ((allocate used first).reverse ++ used) second := by
  induction first generalizing used with
  | nil => rfl
  | cons type first inductionHypothesis => simp [allocate, inductionHypothesis]

end Tag

namespace Variant

theorem ofTypes_append (first second : List TypeExpr) :
    ofTypes (first ++ second) = ofTypes first ++
      List.zipWith mk (Tag.allocate ((ofTypes first).map (·.tag)).reverse second) second := by
  rw [tags_ofTypes, ofTypes, Tag.allocate_append, List.append_nil,
    List.zipWith_append (Tag.length_allocate [] first)]
  rfl

/-- The variants of a list of types: one for each, in their order, with a tag of its own that is chosen
among those before it. -/
structure Enumerate (types : List TypeExpr) (variants : List Variant) : Prop where
  types_eq : variants.map (·.type) = types
  nodup_tags : (variants.map (·.tag)).Nodup
  chosen : ∀ earlier variant later, variants = earlier ++ variant :: later →
    Tag.Chosen (earlier.map (·.tag)) variant.type variant.tag

theorem chosen_ofTypes {types : List TypeExpr} {earlier later : List Variant} {variant : Variant}
    (split : ofTypes types = earlier ++ variant :: later) :
    Tag.Chosen (earlier.map (·.tag)) variant.type variant.tag := by
  have typesSplit : types = earlier.map (·.type) ++ variant.type :: later.map (·.type) := by
    rw [← types_ofTypes types, split, List.map_append, List.map_cons]
  have lengths : (ofTypes (earlier.map (·.type))).length = earlier.length := by
    rw [← List.length_map (·.type), types_ofTypes, List.length_map]
  rw [typesSplit, ofTypes_append] at split
  obtain ⟨first, rest⟩ := List.append_inj split lengths
  rw [first] at rest
  rw [← (List.cons.inj rest).1]
  exact (Tag.chosen_fresh _ _).of_reverse

/-- Every list of implementers gets its variants, and further implementers leave them as they are. -/
theorem enumerate_implementers (implementers : List Implementer) :
    Enumerate (implementers.map (·.type)) (ofTypes (implementers.map (·.type))) ∧
      ∀ more : List Implementer, ofTypes (implementers.map (·.type)) <+:
        ofTypes ((implementers ++ more).map (·.type)) := by
  refine ⟨⟨types_ofTypes _, nodup_tags_ofTypes _, fun _ _ _ => chosen_ofTypes⟩, ?_⟩
  intro more
  rw [List.map_append, ofTypes_append]
  exact List.prefix_append _ _

/-- A numbered tag may be the name of another type, which then gets a number of its own. -/
example : (ofTypes [.named "sith::Human", .named "jedi::Human", .named "Human2",
    .slice (.shared (.named "dyn Human")), .unit]).map (·.tag) =
      ["Human", "Human2", "Human22", "dyn_Human", "Variant"] := by
  decide +kernel

end Variant

end InterfaceContract
