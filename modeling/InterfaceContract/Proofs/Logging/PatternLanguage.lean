/-
This file says how patterns are written and which texts they match: those that are made of runs, one
for each piece of the pattern.
-/

import InterfaceContract.Proofs.Logging.Legibility
import Mathlib.Data.List.Forall2
import Mathlib.Data.List.Induction

namespace InterfaceContract

open Text (CodeUnit)

section

variable {α β : Type} {Takes : α → List β → Prop} {item : α} {items : List α} {text : List β}

/-- A text is made of one run for each item, in their order. -/
def InRow (Takes : α → List β → Prop) (items : List α) (text : List β) : Prop :=
  ∃ runs, List.Forall₂ Takes items runs ∧ runs.flatten = text

@[simp] theorem inRow_nil_iff : InRow Takes [] text ↔ text = [] := by
  simp [InRow, eq_comm]

theorem inRow_cons_iff : InRow Takes (item :: items) text ↔
    ∃ run rest, Takes item run ∧ InRow Takes items rest ∧ text = run ++ rest := by
  constructor
  · rintro ⟨_, related, rfl⟩
    obtain ⟨run, runs, taken, others, rfl⟩ := List.forall₂_cons_left_iff.mp related
    exact ⟨run, runs.flatten, taken, ⟨runs, others, rfl⟩, rfl⟩
  · rintro ⟨run, _, taken, ⟨runs, others, rfl⟩, rfl⟩
    exact ⟨run :: runs, .cons taken others, rfl⟩

end

/-- Every unit but the star and the question mark stands for itself. -/
def IsLiteral (unit : CodeUnit) : Prop :=
  unit ≠ 0x2A ∧ unit ≠ 0x3F

namespace PatternPiece

/-- How a piece is written. Two question marks mean what one means, and so does one behind a star. -/
def WrittenAs : PatternPiece → List CodeUnit → Prop
  | .exactly unit, text => IsLiteral unit ∧ text = [unit]
  | .optionally unit, text =>
      IsLiteral unit ∧ (text = [unit, 0x3F] ∨ text = [unit, 0x3F, 0x3F])
  | .anyRun, text => text = [0x2A] ∨ text = [0x2A, 0x3F]

/-- Which runs a piece matches. -/
def Takes : PatternPiece → List CodeUnit → Prop
  | .exactly unit, run => run = [unit]
  | .optionally unit, run => run = [] ∨ run = [unit]
  | .anyRun, run => ∀ unit ∈ run, Text.endsLine unit = false

variable {piece : PatternPiece} {pieces : List PatternPiece} {unit : CodeUnit}
  {text rest : List CodeUnit}

/-- What was written piece by piece does not start with a question mark. -/
theorem ne_mark_cons_of_written (written : InRow WrittenAs pieces text) :
    ∀ tail, text ≠ 0x3F :: tail := by
  rintro tail rfl
  cases pieces with
  | nil => simp at written
  | cons piece pieces =>
      obtain ⟨run, rest, first, -, split⟩ := inRow_cons_iff.mp written
      cases piece with
      | exactly unit =>
          obtain ⟨⟨-, noMark⟩, rfl⟩ := first
          exact noMark (List.cons.inj split).1.symm
      | optionally unit =>
          obtain ⟨⟨-, noMark⟩, rfl | rfl⟩ := first
          · exact noMark (List.cons.inj split).1.symm
          · exact noMark (List.cons.inj split).1.symm
      | anyRun =>
          obtain rfl | rfl := first
          · cases split
          · cases split

theorem parse?_star_cons (free : ∀ tail, rest ≠ 0x3F :: tail) :
    parse? (0x2A :: rest) = (parse? rest).map (.anyRun :: ·) := by
  rw [parse?]
  exact free

theorem parse?_marks_cons (literal : IsLiteral unit) :
    parse? (unit :: 0x3F :: 0x3F :: rest) = (parse? rest).map (.optionally unit :: ·) := by
  rw [parse?]
  · exact literal.2
  · exact literal.1

theorem parse?_mark_cons (literal : IsLiteral unit) (free : ∀ tail, rest ≠ 0x3F :: tail) :
    parse? (unit :: 0x3F :: rest) = (parse? rest).map (.optionally unit :: ·) := by
  rw [parse?]
  · exact literal.2
  · exact literal.1
  · exact free

theorem parse?_literal_cons (literal : IsLiteral unit) (free : ∀ tail, rest ≠ 0x3F :: tail) :
    parse? (unit :: rest) = (parse? rest).map (.exactly unit :: ·) := by
  rw [parse?]
  · exact literal.2
  · exact fun _ star _ => literal.1 star
  · exact literal.1
  · exact fun tail => free (0x3F :: tail)
  · exact free

theorem parse?_of_written (written : InRow WrittenAs pieces text) : parse? text = some pieces := by
  induction pieces generalizing text with
  | nil =>
      rw [inRow_nil_iff.mp written]
      rfl
  | cons piece pieces inductionHypothesis =>
      obtain ⟨run, rest, first, others, rfl⟩ := inRow_cons_iff.mp written
      have free := ne_mark_cons_of_written others
      have parsed := inductionHypothesis others
      cases piece with
      | exactly unit =>
          obtain ⟨literal, rfl⟩ := first
          rw [List.singleton_append, parse?_literal_cons literal free, parsed, Option.map_some]
      | optionally unit =>
          obtain ⟨literal, rfl | rfl⟩ := first
          · rw [List.cons_append, List.singleton_append, parse?_mark_cons literal free, parsed,
              Option.map_some]
          · rw [List.cons_append, List.cons_append, List.singleton_append,
              parse?_marks_cons literal, parsed, Option.map_some]
      | anyRun =>
          obtain rfl | rfl := first
          · rw [List.singleton_append, parse?_star_cons free, parsed, Option.map_some]
          · rw [List.cons_append, List.singleton_append, parse?, parsed, Option.map_some]

theorem written_cons {run : List CodeUnit} (first : piece.WrittenAs run)
    (others : InRow WrittenAs pieces rest) : InRow WrittenAs (piece :: pieces) (run ++ rest) :=
  inRow_cons_iff.mpr ⟨run, rest, first, others, rfl⟩

theorem written_of_parse? (parsed : parse? text = some pieces) : InRow WrittenAs pieces text := by
  fun_induction parse? text generalizing pieces with
  | case1 =>
      obtain rfl := Option.some.inj parsed
      simp
  | case2 rest => cases parsed
  | case3 rest inductionHypothesis =>
      obtain ⟨others, found, rfl⟩ := Option.map_eq_some_iff.mp parsed
      have star : anyRun.WrittenAs [0x2A, 0x3F] := .inr rfl
      exact written_cons star (inductionHypothesis found)
  | case4 rest free inductionHypothesis =>
      obtain ⟨others, found, rfl⟩ := Option.map_eq_some_iff.mp parsed
      have star : anyRun.WrittenAs [0x2A] := .inl rfl
      exact written_cons star (inductionHypothesis found)
  | case5 unit rest noMark noStar inductionHypothesis =>
      obtain ⟨others, found, rfl⟩ := Option.map_eq_some_iff.mp parsed
      have marked : (optionally unit).WrittenAs [unit, 0x3F, 0x3F] := ⟨⟨noStar, noMark⟩, .inr rfl⟩
      exact written_cons marked (inductionHypothesis found)
  | case6 unit rest noMark noStar free inductionHypothesis =>
      obtain ⟨others, found, rfl⟩ := Option.map_eq_some_iff.mp parsed
      have marked : (optionally unit).WrittenAs [unit, 0x3F] := ⟨⟨noStar, noMark⟩, .inl rfl⟩
      exact written_cons marked (inductionHypothesis found)
  | case7 unit rest noMark noStarMark noStar noMarks free inductionHypothesis =>
      obtain ⟨others, found, rfl⟩ := Option.map_eq_some_iff.mp parsed
      have plain : (exactly unit).WrittenAs [unit] := ⟨⟨noStar, noMark⟩, rfl⟩
      exact written_cons plain (inductionHypothesis found)

/-- A text is read as the pieces that it is written in. -/
theorem parse?_eq_some_iff : parse? text = some pieces ↔ InRow WrittenAs pieces text :=
  ⟨written_of_parse?, parse?_of_written⟩

/-! The verdict on a text stands at the head of a table whose tail holds those on its suffixes. -/

theorem tail_extend (following : List Bool) :
    (piece.extend (unit :: rest) following).tail = piece.extend rest following.tail := rfl

theorem tail_verdicts (pieces : List PatternPiece) (unit : CodeUnit) (rest : List CodeUnit) :
    (verdicts pieces (unit :: rest)).tail = verdicts pieces rest := by
  induction pieces with
  | nil => rfl
  | cons piece pieces inductionHypothesis =>
      rw [verdicts, tail_extend, inductionHypothesis]
      rfl

theorem matchesText_nil_iff : matchesText [] text = true ↔ text = [] := by
  cases text with
  | nil => exact iff_of_true rfl rfl
  | cons unit rest => exact iff_of_false nofun nofun

theorem matchesText_exactly_iff {expected : CodeUnit} :
    matchesText (.exactly expected :: pieces) text = true ↔
      ∃ rest, text = expected :: rest ∧ matchesText pieces rest = true := by
  cases text with
  | nil => simp [matchesText, verdicts, extend]
  | cons unit rest =>
      have step : matchesText (.exactly expected :: pieces) (unit :: rest) =
          (unit == expected && (verdicts pieces (unit :: rest)).tail.headD false) := rfl
      rw [step, tail_verdicts]
      simp [matchesText]

theorem matchesText_optionally_iff {expected : CodeUnit} :
    matchesText (.optionally expected :: pieces) text = true ↔
      matchesText pieces text = true ∨
        ∃ rest, text = expected :: rest ∧ matchesText pieces rest = true := by
  cases text with
  | nil => simp [matchesText, verdicts, extend]
  | cons unit rest =>
      have step : matchesText (.optionally expected :: pieces) (unit :: rest) =
          (matchesText pieces (unit :: rest) ||
            (unit == expected && (verdicts pieces (unit :: rest)).tail.headD false)) := rfl
      rw [step, tail_verdicts]
      simp [matchesText]

theorem matchesText_anyRun_nil : matchesText (.anyRun :: pieces) [] = matchesText pieces [] := rfl

theorem matchesText_anyRun_cons : matchesText (.anyRun :: pieces) (unit :: rest) =
    (matchesText pieces (unit :: rest) ||
      (!Text.endsLine unit && matchesText (.anyRun :: pieces) rest)) := by
  have step : matchesText (.anyRun :: pieces) (unit :: rest) =
      (matchesText pieces (unit :: rest) || (!Text.endsLine unit &&
        (extend .anyRun rest (verdicts pieces (unit :: rest)).tail).headD false)) := rfl
  rw [step, tail_verdicts]
  rfl

/-- A star takes some units, one after another, before the other pieces match what is left. -/
theorem matchesText_anyRun_iff : matchesText (.anyRun :: pieces) text = true ↔
    ∃ run rest, anyRun.Takes run ∧ matchesText pieces rest = true ∧ text = run ++ rest := by
  induction text with
  | nil =>
      rw [matchesText_anyRun_nil]
      constructor
      · intro matched
        exact ⟨[], [], List.forall_mem_nil _, matched, rfl⟩
      · rintro ⟨run, rest, -, matched, split⟩
        obtain ⟨rfl, rfl⟩ := List.append_eq_nil_iff.mp split.symm
        exact matched
  | cons unit text inductionHypothesis =>
      rw [matchesText_anyRun_cons, Bool.or_eq_true, Bool.and_eq_true, inductionHypothesis]
      constructor
      · rintro (matched | ⟨inLine, run, rest, taken, matched, rfl⟩)
        · exact ⟨[], unit :: text, List.forall_mem_nil _, matched, rfl⟩
        · refine ⟨unit :: run, rest, ?_, matched, rfl⟩
          exact List.forall_mem_cons.mpr ⟨by simpa using inLine, taken⟩
      · rintro ⟨run, rest, taken, matched, split⟩
        cases run with
        | nil =>
            obtain rfl := split
            exact .inl matched
        | cons first run =>
            obtain ⟨rfl, rfl⟩ := List.cons.inj split
            obtain ⟨inLine, taken⟩ := List.forall_mem_cons.mp taken
            exact .inr ⟨by simpa using inLine, run, rest, taken, matched, rfl⟩

/-- The first piece takes a run at the front, and the other pieces match what is left. -/
theorem matchesText_cons_iff : matchesText (piece :: pieces) text = true ↔
    ∃ run rest, piece.Takes run ∧ matchesText pieces rest = true ∧ text = run ++ rest := by
  cases piece with
  | exactly expected =>
      rw [matchesText_exactly_iff]
      constructor
      · rintro ⟨rest, rfl, matched⟩
        exact ⟨[expected], rest, rfl, matched, rfl⟩
      · rintro ⟨_, rest, rfl, matched, rfl⟩
        exact ⟨rest, rfl, matched⟩
  | optionally expected =>
      rw [matchesText_optionally_iff]
      constructor
      · rintro (matched | ⟨rest, rfl, matched⟩)
        · exact ⟨[], text, .inl rfl, matched, rfl⟩
        · exact ⟨[expected], rest, .inr rfl, matched, rfl⟩
      · rintro ⟨_, rest, rfl | rfl, matched, rfl⟩
        · exact .inl matched
        · exact .inr ⟨rest, rfl, matched⟩
  | anyRun => exact matchesText_anyRun_iff

/-- Pieces match the texts that are made of a run for each of them. -/
theorem matchesText_iff : matchesText pieces text = true ↔ InRow Takes pieces text := by
  induction pieces generalizing text with
  | nil => rw [matchesText_nil_iff, inRow_nil_iff]
  | cons piece pieces inductionHypothesis =>
      simp only [matchesText_cons_iff, inRow_cons_iff, inductionHypothesis]

end PatternPiece

/-- A question mark is idle if it comes first, directly behind two that follow a literal, or directly
behind one that follows a star. -/
def HasIdleMark (units : List CodeUnit) : Prop :=
  [0x3F] <+: units ∨ (∃ unit, IsLiteral unit ∧ [unit, 0x3F, 0x3F, 0x3F] <:+: units) ∨
    [0x2A, 0x3F, 0x3F] <:+: units

/-- The third question mark in a row is idle, whatever stands before the first. -/
theorem hasIdleMark_of_three (before after : List CodeUnit) :
    HasIdleMark (before ++ [0x3F, 0x3F, 0x3F] ++ after) := by
  induction before using List.reverseRecOn generalizing after with
  | nil => exact .inl ⟨[0x3F, 0x3F] ++ after, rfl⟩
  | append_singleton before unit inductionHypothesis =>
      by_cases mark : unit = 0x3F
      · subst mark
        simpa using inductionHypothesis (0x3F :: after)
      · by_cases star : unit = 0x2A
        · subst star
          exact .inr (.inr ⟨before, 0x3F :: after, by simp⟩)
        · exact .inr (.inl ⟨unit, ⟨star, mark⟩, before, after, by simp⟩)

/-- A text is malformed if it has a question mark that is idle. -/
theorem malformed_iff_hasIdleMark {units : List CodeUnit} :
    Malformed units ↔ HasIdleMark units := by
  constructor
  · rintro (first | ⟨before, after, rfl⟩ | behindStar)
    · exact .inl first
    · exact hasIdleMark_of_three before after
    · exact .inr (.inr behindStar)
  · rintro (first | ⟨unit, -, before, after, rfl⟩ | behindStar)
    · exact .inl first
    · exact .inr (.inl ⟨before ++ [unit], after, by simp⟩)
    · exact .inr (.inr behindStar)

end InterfaceContract
