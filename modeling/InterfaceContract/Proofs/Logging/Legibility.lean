/-
This file says which lists of debug patterns can be read: those in which every question mark follows
something that it makes optional.
-/

import InterfaceContract.Logging.Pattern
import Mathlib.Data.List.Infix

namespace InterfaceContract

open Text (CodeUnit)

/-- A text is malformed if a question mark has nothing to make optional: it comes first, it is the
third in a row, or the second after a star. -/
def Malformed (units : List CodeUnit) : Prop :=
  [0x3F] <+: units ∨ [0x3F, 0x3F, 0x3F] <:+: units ∨ [0x2A, 0x3F, 0x3F] <:+: units

instance (units : List CodeUnit) : Decidable (Malformed units) :=
  inferInstanceAs (Decidable (_ ∨ _ ∨ _))

namespace PatternPiece

variable {unit : CodeUnit} {rest : List CodeUnit}

theorem not_mark_prefix (free : ∀ tail, rest ≠ 0x3F :: tail) : ¬ [0x3F] <+: rest := by
  rintro ⟨tail, rfl⟩
  exact free tail rfl

theorem mark_prefix_of_marks (rest : List CodeUnit) : [0x3F, 0x3F] <+: rest → [0x3F] <+: rest :=
  (List.prefix_append [0x3F] [0x3F]).trans

theorem malformed_star_mark : Malformed (0x2A :: 0x3F :: rest) ↔ Malformed rest := by
  have fewer := mark_prefix_of_marks rest
  simp only [Malformed, List.infix_cons_iff, List.cons_prefix_cons, List.nil_prefix,
    Nat.reduceEqDiff, true_and, and_true, false_and, false_or]
  tauto

/-- What no question mark follows leaves the text behind it as it is. -/
theorem malformed_cons (other : unit ≠ 0x3F) (free : ∀ tail, rest ≠ 0x3F :: tail) :
    Malformed (unit :: rest) ↔ Malformed rest := by
  have absent := not_mark_prefix free
  have fewer := mark_prefix_of_marks rest
  simp only [Malformed, List.infix_cons_iff, List.cons_prefix_cons, other.symm, false_and, false_or]
  tauto

theorem malformed_mark_cons (other : unit ≠ 0x3F) (noStar : unit ≠ 0x2A)
    (free : ∀ tail, rest ≠ 0x3F :: tail) :
    Malformed (unit :: 0x3F :: rest) ↔ Malformed rest := by
  have absent := not_mark_prefix free
  have fewer := mark_prefix_of_marks rest
  simp only [Malformed, List.infix_cons_iff, List.cons_prefix_cons, List.nil_prefix,
    Nat.reduceEqDiff, other.symm, noStar.symm, true_and, and_true, false_and, false_or]
  tauto

theorem malformed_marks_cons (other : unit ≠ 0x3F) (noStar : unit ≠ 0x2A) :
    Malformed (unit :: 0x3F :: 0x3F :: rest) ↔ Malformed rest := by
  have fewer := mark_prefix_of_marks rest
  simp only [Malformed, List.infix_cons_iff, List.cons_prefix_cons, List.nil_prefix,
    Nat.reduceEqDiff, other.symm, noStar.symm, true_and, and_true, false_and, false_or]
  tauto

/-- A text can be read as a pattern exactly if it is not malformed. -/
theorem parse?_eq_none_iff (units : List CodeUnit) : parse? units = none ↔ Malformed units := by
  fun_induction parse? units with
  | case1 => simp [Malformed]
  | case2 rest => simp [Malformed]
  | case3 rest inductionHypothesis =>
      rw [Option.map_eq_none_iff, inductionHypothesis, malformed_star_mark]
  | case4 rest free inductionHypothesis =>
      rw [Option.map_eq_none_iff, inductionHypothesis, malformed_cons (by decide) free]
  | case5 unit rest other noStar inductionHypothesis =>
      rw [Option.map_eq_none_iff, inductionHypothesis, malformed_marks_cons other noStar]
  | case6 unit rest other noStar free inductionHypothesis =>
      rw [Option.map_eq_none_iff, inductionHypothesis, malformed_mark_cons other noStar free]
  | case7 unit rest other noStarMark noStar noMarks free inductionHypothesis =>
      rw [Option.map_eq_none_iff, inductionHypothesis, malformed_cons other free]

example : ["?a", "a???", "*??", "a??", "*?", "a?*?"].map
      (fun text => (parse? (Text.unitsOf text.toList)).isNone) =
    [true, true, true, false, false, false] := by
  decide +kernel

end PatternPiece

namespace DebugPattern

/-- A debug pattern is malformed if its text is. -/
def IsMalformed (pattern : DebugPattern) : Prop :=
  Malformed (Text.unitsOf pattern.body)

instance (pattern : DebugPattern) : Decidable pattern.IsMalformed :=
  inferInstanceAs (Decidable (Malformed _))

/-- How a malformed pattern is named by the error that it causes. -/
def asError (pattern : DebugPattern) : MalformedPattern :=
  ⟨String.ofList pattern.body⟩

variable {pattern : DebugPattern}

theorem matchesChannel_of_malformed (malformed : pattern.IsMalformed) (channel : String) :
    pattern.matchesChannel channel = .error pattern.asError := by
  have unread := (PatternPiece.parse?_eq_none_iff _).mpr malformed
  have notStar : pattern.body ≠ ['*'] := by
    intro star
    rw [IsMalformed, star] at malformed
    exact absurd malformed (by decide)
  rw [matchesChannel, if_neg notStar, unread]
  rfl

theorem matchesChannel_of_legible (legible : ¬ pattern.IsMalformed) (channel : String) :
    ∃ answer, pattern.matchesChannel channel = .ok answer := by
  rw [matchesChannel]
  split
  · exact ⟨true, rfl⟩
  · cases read : PatternPiece.parse? (Text.unitsOf pattern.body) with
    | none => exact absurd ((PatternPiece.parse?_eq_none_iff _).mp read) legible
    | some pieces => exact ⟨_, rfl⟩

theorem update_of_malformed (malformed : pattern.IsMalformed) (channel : String) (enabled : Bool) :
    update channel enabled pattern = .error pattern.asError := by
  rw [update, matchesChannel_of_malformed malformed]
  rfl

theorem update_of_legible (legible : ¬ pattern.IsMalformed) (channel : String) (enabled : Bool) :
    ∃ answer, update channel enabled pattern = .ok answer := by
  obtain ⟨matching, answered⟩ := matchesChannel_of_legible legible channel
  rw [update, answered]
  cases matching with
  | true => exact ⟨!pattern.excludes, rfl⟩
  | false => exact ⟨enabled, rfl⟩

/-- Patterns are gone through up to the first malformed one. -/
theorem foldlM_update_eq_error_iff {patterns : List DebugPattern} {channel : String}
    {enabled : Bool} {error : MalformedPattern} :
    patterns.foldlM (update channel) enabled = .error error ↔
      ∃ first, patterns.find? (·.IsMalformed) = some first ∧ error = first.asError := by
  induction patterns generalizing enabled with
  | nil => simp [pure, Except.pure]
  | cons pattern patterns inductionHypothesis =>
      rw [List.foldlM_cons, List.find?_cons]
      by_cases malformed : pattern.IsMalformed
      · rw [update_of_malformed malformed, decide_eq_true malformed]
        simp [bind, Except.bind, eq_comm]
      · obtain ⟨answer, answered⟩ := update_of_legible malformed channel enabled
        rw [answered, decide_eq_false malformed]
        exact inductionHypothesis

/-- Where no pattern is malformed, all of them are gone through. -/
theorem foldlM_update_of_legible {patterns : List DebugPattern}
    (legible : ∀ pattern ∈ patterns, ¬ pattern.IsMalformed) (channel : String) (enabled : Bool) :
    ∃ answer, patterns.foldlM (update channel) enabled = .ok answer := by
  cases answered : patterns.foldlM (update channel) enabled with
  | ok answer => exact ⟨answer, rfl⟩
  | error error =>
      obtain ⟨first, found, -⟩ := foldlM_update_eq_error_iff.mp answered
      have malformed : first.IsMalformed := by simpa using List.find?_some found
      exact absurd malformed (legible first (List.mem_of_find?_eq_some found))

end DebugPattern

/-- The question whether a channel is enabled fails exactly on the first malformed pattern. -/
theorem channelEnabled_eq_error_iff {channel : String} {debug : Option String}
    {error : MalformedPattern} :
    channelEnabled channel debug = .error error ↔
      ∃ first, (DebugPattern.readList (debug.getD "")).find? (·.IsMalformed) = some first ∧
        error = first.asError :=
  DebugPattern.foldlM_update_eq_error_iff

/-- Where no pattern is malformed, a channel is enabled or not. -/
theorem channelEnabled_eq_ok_of_legible {debug : Option String}
    (legible : ∀ pattern ∈ DebugPattern.readList (debug.getD ""), ¬ pattern.IsMalformed)
    (channel : String) : ∃ enabled, channelEnabled channel debug = .ok enabled :=
  DebugPattern.foldlM_update_of_legible legible channel false

end InterfaceContract
