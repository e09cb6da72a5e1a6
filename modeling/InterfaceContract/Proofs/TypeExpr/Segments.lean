/-
This file says what the segments of a path name are.
-/

import InterfaceContract.TypeExpr.Query
import Mathlib.Data.List.Infix

namespace InterfaceContract

/-- The parts of a text between separators of two colons. Joined they give the text back, no part has a
separator in it, and separators are found from the left, so only the last part may end in a colon. -/
structure SegmentedChars (characters : List Char) (parts : List (List Char)) : Prop where
  nonempty : parts ≠ []
  joined : [':', ':'].intercalate parts = characters
  whole : ∀ part ∈ parts, ¬ [':', ':'] <:+: part
  leftmost : ∀ part ∈ parts.dropLast, ¬ [':'] <:+ part

namespace SegmentedChars

variable {character : Char} {characters rest part : List Char} {parts : List (List Char)}

theorem nil : SegmentedChars [] [[]] where
  nonempty := List.cons_ne_nil _ _
  joined := rfl
  whole := by simp
  leftmost := by simp

/-- A separator at the front has an empty part before it. -/
theorem nil_cons_iff (nonempty : parts ≠ []) :
    SegmentedChars characters ([] :: parts) ↔
      ∃ rest, characters = ':' :: ':' :: rest ∧ SegmentedChars rest parts := by
  constructor
  · rintro ⟨-, joined, whole, leftmost⟩
    rw [List.intercalate_cons_of_ne_nil nonempty] at joined
    rw [List.dropLast_cons_of_ne_nil nonempty] at leftmost
    exact ⟨_, joined.symm, nonempty, rfl, (List.forall_mem_cons.mp whole).2,
      (List.forall_mem_cons.mp leftmost).2⟩
  · rintro ⟨rest, rfl, -, rfl, whole, leftmost⟩
    refine ⟨List.cons_ne_nil _ _, List.intercalate_cons_of_ne_nil nonempty,
      List.forall_mem_cons.mpr ⟨by simp, whole⟩, ?_⟩
    rw [List.dropLast_cons_of_ne_nil nonempty]
    exact List.forall_mem_cons.mpr ⟨by simp, leftmost⟩

theorem intercalate_cons_cons (character : Char) (part : List Char) (parts : List (List Char)) :
    [':', ':'].intercalate ((character :: part) :: parts) =
      character :: [':', ':'].intercalate (part :: parts) := by
  cases parts <;> rfl

/-- Any other character belongs to the first part. -/
theorem cons_cons_iff (other : ∀ behind, character :: rest ≠ ':' :: ':' :: behind) :
    SegmentedChars (character :: rest) ((character :: part) :: parts) ↔
      SegmentedChars rest (part :: parts) := by
  have joined_iff : [':', ':'].intercalate ((character :: part) :: parts) = character :: rest ↔
      [':', ':'].intercalate (part :: parts) = rest := by
    rw [intercalate_cons_cons, List.cons.injEq, and_iff_right rfl]
  -- The character starts no separator, neither in its part nor with the one behind it.
  have inside (joined : [':', ':'].intercalate (part :: parts) = rest) :
      ¬ [':', ':'] <+: character :: part := by
    rintro ⟨behind, split⟩
    obtain ⟨rfl, rfl⟩ := List.cons.inj split
    cases parts with
    | nil => exact other behind (by rw [← joined, List.intercalate_singleton]; rfl)
    | cons next parts => exact other _ (by rw [← joined]; rfl)
  have behind (joined : [':', ':'].intercalate (part :: parts) = rest) (more : parts ≠ []) :
      [':'] ≠ character :: part := by
    intro alone
    obtain ⟨rfl, rfl⟩ := List.cons.inj alone
    rw [List.intercalate_cons_of_ne_nil more] at joined
    exact other _ (by rw [← joined]; rfl)
  constructor
  · rintro ⟨-, joined, whole, leftmost⟩
    rw [joined_iff] at joined
    rw [List.forall_mem_cons, List.infix_cons_iff, not_or] at whole
    refine ⟨List.cons_ne_nil _ _, joined, List.forall_mem_cons.mpr ⟨whole.1.2, whole.2⟩, ?_⟩
    cases parts with
    | nil => nofun
    | cons next parts =>
        rw [List.dropLast_cons_cons, List.forall_mem_cons, List.suffix_cons_iff, not_or] at leftmost
        exact List.forall_mem_cons.mpr ⟨leftmost.1.2, leftmost.2⟩
  · rintro ⟨-, joined, whole, leftmost⟩
    rw [List.forall_mem_cons] at whole
    refine ⟨List.cons_ne_nil _ _, joined_iff.mpr joined, ?_, ?_⟩
    · rw [List.forall_mem_cons, List.infix_cons_iff, not_or]
      exact ⟨⟨inside joined, whole.1⟩, whole.2⟩
    · cases parts with
      | nil => nofun
      | cons next parts =>
          rw [List.dropLast_cons_cons, List.forall_mem_cons] at leftmost
          rw [List.dropLast_cons_cons, List.forall_mem_cons, List.suffix_cons_iff, not_or]
          exact ⟨⟨behind joined (List.cons_ne_nil _ _), leftmost.1⟩, leftmost.2⟩

/-- A separator at the front belongs to no part. -/
theorem exists_of_separator (segmented : SegmentedChars (':' :: ':' :: rest) parts) :
    ∃ behind, parts = [] :: behind ∧ SegmentedChars rest behind := by
  rcases parts with _ | ⟨_ | ⟨character, part⟩, parts⟩
  · exact absurd rfl segmented.nonempty
  · have more : parts ≠ [] := by
      rintro rfl
      cases segmented.joined
    obtain ⟨_, ⟨⟩, behind⟩ := (nil_cons_iff more).mp segmented
    exact ⟨parts, rfl, behind⟩
  · exfalso
    obtain ⟨-, joined, whole, leftmost⟩ := segmented
    rw [intercalate_cons_cons] at joined
    obtain ⟨rfl, joinedBehind⟩ := List.cons.inj joined
    rcases part with _ | ⟨second, part⟩
    · cases parts with
      | nil => cases joinedBehind
      | cons next parts => exact leftmost [':'] (by simp) (List.suffix_refl _)
    · rw [intercalate_cons_cons] at joinedBehind
      obtain ⟨rfl, -⟩ := List.cons.inj joinedBehind
      exact whole _ List.mem_cons_self ⟨[], part, rfl⟩

/-- The parts are determined by the text. -/
theorem eq_segmentChars (segmented : SegmentedChars characters parts) :
    parts = segmentChars characters := by
  fun_induction segmentChars characters generalizing parts with
  | case1 =>
      obtain ⟨nonempty, joined, -, -⟩ := segmented
      rcases parts with _ | ⟨part, _ | ⟨next, parts⟩⟩
      · exact absurd rfl nonempty
      · rw [List.intercalate_singleton] at joined
        rw [joined]
      · simp [List.intercalate_cons_cons] at joined
  | case2 rest inductionHypothesis =>
      obtain ⟨behind, rfl, segmentedBehind⟩ := segmented.exists_of_separator
      rw [inductionHypothesis segmentedBehind]
  | case3 character rest other none inductionHypothesis => exact absurd none (segmentChars_ne_nil rest)
  | case4 character rest other segment segments split inductionHypothesis =>
      have inside : ∀ behind, character :: rest ≠ ':' :: ':' :: behind := by
        rintro behind ⟨⟩
        exact other behind rfl rfl
      rcases parts with _ | ⟨_ | ⟨first, part⟩, parts⟩
      · exact absurd rfl segmented.nonempty
      · cases parts with
        | nil => cases segmented.joined
        | cons next parts =>
            obtain ⟨behind, separated, -⟩ := (nil_cons_iff (List.cons_ne_nil _ _)).mp segmented
            exact absurd separated (inside behind)
      · have joined := segmented.joined
        rw [intercalate_cons_cons] at joined
        obtain ⟨rfl, -⟩ := List.cons.inj joined
        have same := inductionHypothesis ((cons_cons_iff inside).mp segmented)
        rw [split] at same
        obtain ⟨rfl, rfl⟩ := List.cons.inj same
        rfl

end SegmentedChars

theorem segmentedChars_segmentChars (characters : List Char) :
    SegmentedChars characters (segmentChars characters) := by
  fun_induction segmentChars characters with
  | case1 => exact .nil
  | case2 rest inductionHypothesis =>
      exact (SegmentedChars.nil_cons_iff (segmentChars_ne_nil rest)).mpr
        ⟨rest, rfl, inductionHypothesis⟩
  | case3 character rest other none inductionHypothesis => exact absurd none (segmentChars_ne_nil rest)
  | case4 character rest other segment segments split inductionHypothesis =>
      rw [split] at inductionHypothesis
      refine (SegmentedChars.cons_cons_iff ?_).mpr inductionHypothesis
      rintro behind ⟨⟩
      exact other behind rfl rfl

/-- The segments of a path name: joined by `::` they give the name back, none has `::` in it, and none
but the last ends in a colon. -/
structure Segmented (name : String) (parts : List String) : Prop where
  nonempty : parts ≠ []
  joined : "::".intercalate parts = name
  whole : ∀ part ∈ parts, ¬ "::".toList <:+: part.toList
  leftmost : ∀ part ∈ parts.dropLast, ¬ ":".toList <:+ part.toList

theorem segmented_iff_chars {name : String} {parts : List String} :
    Segmented name parts ↔ SegmentedChars name.toList (parts.map String.toList) := by
  have joined_iff : "::".intercalate parts = name ↔
      [':', ':'].intercalate (parts.map String.toList) = name.toList := by
    rw [← String.toList_inj, String.toList_intercalate]
    rfl
  constructor
  · rintro ⟨nonempty, joined, whole, leftmost⟩
    refine ⟨by simpa using nonempty, joined_iff.mp joined, List.forall_mem_map.mpr whole, ?_⟩
    rw [← List.map_dropLast]
    exact List.forall_mem_map.mpr leftmost
  · rintro ⟨nonempty, joined, whole, leftmost⟩
    rw [← List.map_dropLast] at leftmost
    refine ⟨by simpa using nonempty, joined_iff.mpr joined, ?_, ?_⟩
    · intro part member
      exact whole _ (List.mem_map_of_mem member)
    · intro part member
      exact leftmost _ (List.mem_map_of_mem member)

/-- Every name has segments of its own. -/
theorem segmented_iff {name : String} {parts : List String} :
    Segmented name parts ↔ parts = segments name := by
  rw [segmented_iff_chars, segments]
  constructor
  · intro segmented
    rw [← segmented.eq_segmentChars, List.map_map]
    exact (List.map_id'' (fun _ => String.ofList_toList) parts).symm
  · rintro rfl
    have unchanged : String.toList ∘ String.ofList = id := funext fun _ => String.toList_ofList
    rw [List.map_map, unchanged, List.map_id]
    exact segmentedChars_segmentChars name.toList

theorem getLast?_segments_eq_some_iff {name last : String} :
    (segments name).getLast? = some last ↔ ∃ earlier, Segmented name (earlier ++ [last]) := by
  simp only [segmented_iff, List.getLast?_eq_some_iff, eq_comm]

/-- A path whose last segment is `Option`. -/
inductive TypeExpr.IsOption : TypeExpr → Prop where
  | path {name : String} {earlier : List String} (last : Segmented name (earlier ++ ["Option"]))
      (arguments : List TypeArgument) : IsOption (.path name arguments)

theorem TypeExpr.isOptional_iff {type : TypeExpr} : type.isOptional = true ↔ type.IsOption := by
  rw [isOptional, beq_iff_eq]
  constructor
  · intro named
    cases type with
    | path name arguments =>
        obtain ⟨earlier, last⟩ := getLast?_segments_eq_some_iff.mp named
        exact .path last arguments
    | reference mutable lifetime inner => cases named
    | tuple elements => cases named
    | slice element => cases named
  · rintro ⟨last, arguments⟩
    exact getLast?_segments_eq_some_iff.mpr ⟨_, last⟩

end InterfaceContract
