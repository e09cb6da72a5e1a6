/-
This file says when a debug list enables a channel: how the patterns stand in the list, and that the last
one that matches decides.
-/

import InterfaceContract.Proofs.Logging.PatternLanguage
import InterfaceContract.Proofs.Text.Words

namespace InterfaceContract

namespace DebugPattern

/-- How a pattern stands in a debug list; only an exclusion starts with a minus. -/
def StandsAs (pattern : DebugPattern) (word : List Char) : Prop :=
  (pattern.excludes = true ∧ word = '-' :: pattern.body) ∨
    (pattern.excludes = false ∧ word = pattern.body ∧ ¬ ['-'] <+: word)

/-- A debug list consists of patterns, with blanks and commas between them. -/
def Listed (debug : String) (patterns : List DebugPattern) : Prop :=
  ∃ words, Text.HasWords (fun character => Text.isBlank character || character == ',')
    debug.toList words ∧ List.Forall₂ StandsAs patterns words

variable {pattern : DebugPattern} {patterns : List DebugPattern} {channel : String}

theorem standsAs_iff {word : List Char} : pattern.StandsAs word ↔ pattern = ofWord word := by
  rcases pattern with ⟨excludes, body⟩
  by_cases marked : ∃ rest, word = '-' :: rest
  · obtain ⟨rest, rfl⟩ := marked
    have starts : ['-'] <+: '-' :: rest := ⟨rest, rfl⟩
    simp [StandsAs, ofWord, starts, eq_comm]
  · have unmarked : ∀ rest, word ≠ '-' :: rest := not_exists.mp marked
    have free : ¬ ['-'] <+: word := by
      rintro ⟨rest, rfl⟩
      exact unmarked rest rfl
    simp [StandsAs, ofWord, unmarked, free, eq_comm]

theorem listed_iff {debug : String} : Listed debug patterns ↔ patterns = readList debug := by
  have read (words : List (List Char)) : List.Forall₂ StandsAs patterns words ↔
      patterns = words.map ofWord := by
    have stands : StandsAs = fun pattern word => pattern = ofWord word := by
      funext pattern word
      exact propext standsAs_iff
    rw [← List.forall₂_eq_eq_eq, List.forall₂_map_right_iff, stands]
  simp only [Listed, Text.hasWords_iff, read, exists_eq_left]
  rfl

/-- A pattern matches a channel if it is a lone star, or if the channel is made of a run for each piece
of the pattern. -/
def Matches (pattern : DebugPattern) (channel : String) : Prop :=
  pattern.body = ['*'] ∨ ∃ pieces, InRow PatternPiece.WrittenAs pieces (Text.unitsOf pattern.body) ∧
    InRow PatternPiece.Takes pieces (Text.unitsOf channel.toList)

/-- The last pattern of a list that matches a channel. -/
def LastMatch (channel : String) (patterns : List DebugPattern) (last : DebugPattern) : Prop :=
  ∃ before after, patterns = before ++ last :: after ∧ last.Matches channel ∧
    ∀ pattern ∈ after, ¬ pattern.Matches channel

theorem matchesChannel_eq_ok_true_iff :
    pattern.matchesChannel channel = .ok true ↔ pattern.Matches channel := by
  rw [matchesChannel, Matches]
  by_cases star : pattern.body = ['*']
  · simp [star]
  · rw [if_neg star, or_iff_right star]
    cases parsed : PatternPiece.parse? (Text.unitsOf pattern.body) with
    | none => simp [← PatternPiece.parse?_eq_some_iff, parsed]
    | some pieces =>
        simp [← PatternPiece.parse?_eq_some_iff, parsed, PatternPiece.matchesText_iff]

theorem update_of_matches (matching : pattern.Matches channel) (enabled : Bool) :
    update channel enabled pattern = .ok (!pattern.excludes) := by
  rw [update, matchesChannel_eq_ok_true_iff.mpr matching]
  rfl

theorem update_of_not_matches (legible : ¬ pattern.IsMalformed)
    (missing : ¬ pattern.Matches channel) (enabled : Bool) :
    update channel enabled pattern = .ok enabled := by
  obtain ⟨answer, answered⟩ := matchesChannel_of_legible legible channel
  cases answer with
  | true => exact absurd (matchesChannel_eq_ok_true_iff.mp answered) missing
  | false =>
      rw [update, answered]
      rfl

theorem lastMatch_concat_iff {last : DebugPattern} :
    LastMatch channel (patterns ++ [pattern]) last ↔
      (pattern.Matches channel ∧ last = pattern) ∨
        (¬ pattern.Matches channel ∧ LastMatch channel patterns last) := by
  constructor
  · rintro ⟨before, after, split, matching, unmatched⟩
    obtain rfl | ⟨others, final, rfl⟩ := after.eq_nil_or_concat'
    · obtain ⟨rfl, same⟩ := List.append_inj' split rfl
      obtain rfl := (List.cons.inj same).1
      exact .inl ⟨matching, rfl⟩
    · rw [← List.cons_append, ← List.append_assoc] at split
      obtain ⟨rfl, same⟩ := List.append_inj' split rfl
      obtain rfl := (List.cons.inj same).1
      obtain ⟨othersUnmatched, finalUnmatched⟩ := List.forall_mem_append.mp unmatched
      exact .inr ⟨finalUnmatched pattern List.mem_cons_self, before, others, rfl, matching,
        othersUnmatched⟩
  · rintro (⟨matching, rfl⟩ | ⟨unmatched, before, after, rfl, matching, others⟩)
    · exact ⟨patterns, [], rfl, matching, List.forall_mem_nil _⟩
    · refine ⟨before, after ++ [pattern], by simp, matching, ?_⟩
      exact List.forall_mem_append.mpr ⟨others, by simpa using unmatched⟩

/-- Where all patterns can be read, the last one that matches decides, and without one nothing is
enabled. -/
theorem foldlM_update_eq_ok_true_iff (legible : ∀ pattern ∈ patterns, ¬ pattern.IsMalformed) :
    patterns.foldlM (update channel) false = .ok true ↔
      ∃ last, LastMatch channel patterns last ∧ last.excludes = false := by
  induction patterns using List.reverseRecOn with
  | nil => simp [LastMatch, pure, Except.pure]
  | append_singleton patterns pattern inductionHypothesis =>
      obtain ⟨earlier, latest⟩ := List.forall_mem_append.mp legible
      have latestLegible := latest pattern List.mem_cons_self
      obtain ⟨enabled, answered⟩ := foldlM_update_of_legible earlier channel false
      have step : (patterns ++ [pattern]).foldlM (update channel) false =
          update channel enabled pattern := by
        rw [List.foldlM_append, answered]
        exact bind_pure (update channel enabled pattern)
      have earlierIff := inductionHypothesis earlier
      rw [answered] at earlierIff
      rw [step]
      by_cases matching : pattern.Matches channel
      · rw [update_of_matches matching]
        simp [lastMatch_concat_iff, matching]
      · rw [update_of_not_matches latestLegible matching, earlierIff]
        simp [lastMatch_concat_iff, matching]

/-- Whether a debug list enables a channel. There is one way to read its patterns. The question fails
exactly if one of them, a lone star apart, has an idle question mark; otherwise the last pattern that
matches decides. -/
structure Decide (channel : String) (debug : Option String) (patterns : List DebugPattern) :
    Prop where
  listed_iff : ∀ others, Listed (debug.getD "") others ↔ others = patterns
  absent : debug = none ∨ debug = some "" → channelEnabled channel debug = .ok false
  fails_iff : (∃ error, channelEnabled channel debug = .error error) ↔
    ∃ pattern ∈ patterns, pattern.body ≠ ['*'] ∧ HasIdleMark (Text.unitsOf pattern.body)
  enabled_iff : channelEnabled channel debug = .ok true ↔
    (∀ pattern ∈ patterns, pattern.body ≠ ['*'] → ¬ HasIdleMark (Text.unitsOf pattern.body)) ∧
      ∃ last, LastMatch channel patterns last ∧ last.excludes = false

theorem isMalformed_iff : pattern.IsMalformed ↔
    pattern.body ≠ ['*'] ∧ HasIdleMark (Text.unitsOf pattern.body) := by
  rw [IsMalformed, malformed_iff_hasIdleMark]
  constructor
  · intro idle
    refine ⟨?_, idle⟩
    intro star
    rw [star, ← malformed_iff_hasIdleMark] at idle
    exact absurd idle (by decide)
  · rintro ⟨-, idle⟩
    exact idle

end DebugPattern

theorem exists_channelEnabled_eq_error_iff {channel : String} {debug : Option String} :
    (∃ error, channelEnabled channel debug = .error error) ↔
      ∃ pattern ∈ DebugPattern.readList (debug.getD ""), pattern.IsMalformed := by
  constructor
  · rintro ⟨error, failed⟩
    obtain ⟨first, found, -⟩ := channelEnabled_eq_error_iff.mp failed
    exact ⟨first, List.mem_of_find?_eq_some found, by simpa using List.find?_some found⟩
  · rintro ⟨pattern, member, malformed⟩
    obtain ⟨first, found⟩ : ∃ first,
        (DebugPattern.readList (debug.getD "")).find? (·.IsMalformed) = some first := by
      rw [← Option.isSome_iff_exists, List.find?_isSome]
      exact ⟨pattern, member, by simpa using malformed⟩
    exact ⟨first.asError, channelEnabled_eq_error_iff.mpr ⟨first, found, rfl⟩⟩

/-- For every channel and every debug list the patterns on the list decide. -/
theorem channelEnabled_decide (channel : String) (debug : Option String) :
    ∃ patterns, DebugPattern.Decide channel debug patterns := by
  refine ⟨DebugPattern.readList (debug.getD ""), ?_, ?_, ?_, ?_⟩
  · intro others
    exact DebugPattern.listed_iff
  · rintro (rfl | rfl)
    · rfl
    · rfl
  · simp only [exists_channelEnabled_eq_error_iff, DebugPattern.isMalformed_iff]
  · by_cases legible : ∀ pattern ∈ DebugPattern.readList (debug.getD ""), ¬ pattern.IsMalformed
    · have readable := legible
      simp only [DebugPattern.isMalformed_iff, not_and] at readable
      rw [and_iff_right readable]
      exact DebugPattern.foldlM_update_eq_ok_true_iff legible
    · obtain ⟨pattern, member, malformed⟩ : ∃ pattern ∈ DebugPattern.readList (debug.getD ""),
          pattern.IsMalformed := by simpa using legible
      obtain ⟨error, failed⟩ :=
        exists_channelEnabled_eq_error_iff.mpr ⟨pattern, member, malformed⟩
      obtain ⟨notStar, idle⟩ := DebugPattern.isMalformed_iff.mp malformed
      refine iff_of_false ?_ ?_
      · rw [failed]
        exact nofun
      · rintro ⟨readable, -⟩
        exact readable pattern member notStar idle

/-- A later pattern outweighs an earlier one, and a dot stands for itself. -/
example : (["-*,a.c", "a.c -a??.*", "a.c,-abc", "-a.c a?c b"].map fun debug =>
      channelEnabled "a.c" (some debug)) =
    [.ok true, .ok false, .ok true, .ok false] := by
  decide +kernel

end InterfaceContract
