/-
This file collects what is found first in a list, and when the order of the list does not matter.
-/

import InterfaceContract.Proofs.List.Paired
import Mathlib.Data.List.Perm.Basic

namespace InterfaceContract

variable {α β κ : Type}

/-- Among items with different keys the one of a given key is found. -/
theorem find?_key_eq_some_iff [BEq κ] [LawfulBEq κ] {key : α → κ} {items : List α}
    (distinct : (items.map key).Nodup) {sought : κ} {item : α} :
    items.find? (key · == sought) = some item ↔ item ∈ items ∧ key item = sought := by
  constructor
  · intro found
    exact ⟨List.mem_of_find?_eq_some found, by simpa using List.find?_some found⟩
  · rintro ⟨member, rfl⟩
    cases found : items.find? (key · == key item) with
    | none => simpa using List.find?_eq_none.mp found item member
    | some other =>
        have same : key other = key item := by simpa using List.find?_some found
        rw [List.inj_on_of_nodup_map distinct (List.mem_of_find?_eq_some found) member same]

/-- Among items with different keys the order does not matter. -/
theorem find?_key_eq_of_perm [BEq κ] [LawfulBEq κ] {key : α → κ} {items reordered : List α}
    (distinct : (items.map key).Nodup) (same : reordered.Perm items) (sought : κ) :
    reordered.find? (key · == sought) = items.find? (key · == sought) := by
  have distinctReordered : (reordered.map key).Nodup := (same.map key).nodup_iff.mpr distinct
  ext item
  rw [find?_key_eq_some_iff distinct, find?_key_eq_some_iff distinctReordered, same.mem_iff]

/-- The first item of a kind is also the first one of any narrower kind that it belongs to. -/
theorem find?_eq_some_of_narrower {wide narrow : α → Bool} {items : List α} {item : α}
    (found : items.find? wide = some item) (belongs : narrow item = true)
    (narrower : ∀ other ∈ items, narrow other = true → wide other = true) :
    items.find? narrow = some item := by
  obtain ⟨-, earlier, later, rfl, avoided⟩ := List.find?_eq_some_iff_append.mp found
  refine List.find?_eq_some_iff_append.mpr ⟨belongs, earlier, later, rfl, ?_⟩
  intro other member
  cases kind : narrow other with
  | false => rfl
  | true =>
      have wideToo := narrower other (List.mem_append_left _ member) kind
      have notWide := avoided other member
      simp [wideToo] at notWide

/-- Where items exclude each other, any item that fits is the one found. -/
theorem find?_eq_some_of_exclusive {fits : α → Bool} {items : List α} {item : α}
    (exclusive : items.Pairwise fun earlier later => ¬ (fits earlier = true ∧ fits later = true))
    (member : item ∈ items) (fitting : fits item = true) : items.find? fits = some item := by
  obtain ⟨earlier, later, rfl⟩ := List.append_of_mem member
  refine List.find?_eq_some_iff_append.mpr ⟨fitting, earlier, later, rfl, ?_⟩
  intro other before
  have excluded := (List.pairwise_append.mp exclusive).2.2 other before item List.mem_cons_self
  cases kind : fits other with
  | false => rfl
  | true => exact absurd ⟨kind, fitting⟩ excluded

/-- Searches that agree on paired members find members that are paired. -/
theorem rel_find? {Relates : α → β → Prop} {items : List α} {images : List β} {fits : α → Bool}
    {imageFits : β → Bool} (agree : ∀ item image, Relates item image → fits item = imageFits image)
    (related : List.Forall₂ Relates items images) :
    Option.Rel Relates (items.find? fits) (images.find? imageFits) := by
  induction related with
  | nil => exact .none
  | @cons item image _ _ first _ inductionHypothesis =>
      have sameAnswer := agree item image first
      rw [List.find?_cons, List.find?_cons, ← sameAnswer]
      cases fits item with
      | true => exact .some first
      | false => exact inductionHypothesis

/-- Among items with different keys no other item has the key of a given one. -/
theorem key_ne_of_nodup {key : α → κ} {before after : List α} {item : α}
    (distinct : ((before ++ item :: after).map key).Nodup) :
    ∀ other ∈ before ++ after, key other ≠ key item := by
  rw [List.map_append, List.map_cons, List.nodup_middle, ← List.map_append] at distinct
  intro other member same
  exact (List.nodup_cons.mp distinct).1 (List.mem_map.mpr ⟨other, member, same⟩)

/-- Among items with different keys a given one is all that its key filters out. -/
theorem filter_key_eq_singleton [BEq κ] [LawfulBEq κ] {key : α → κ} {items : List α} {item : α}
    (distinct : (items.map key).Nodup) (member : item ∈ items) :
    items.filter (key · == key item) = [item] := by
  obtain ⟨before, after, rfl⟩ := List.append_of_mem member
  have others := key_ne_of_nodup distinct
  have noneBefore : before.filter (key · == key item) = [] :=
    List.filter_eq_nil_iff.mpr fun other present => by
      simpa using others other (List.mem_append_left after present)
  have noneAfter : after.filter (key · == key item) = [] :=
    List.filter_eq_nil_iff.mpr fun other present => by
      simpa using others other (List.mem_append_right before present)
  rw [List.filter_append, List.filter_cons_of_pos (by simp), noneBefore, noneAfter]
  rfl

theorem mem_of_lookup_eq_some [BEq κ] [LawfulBEq κ] {entries : List (κ × β)} {key : κ} {value : β}
    (found : entries.lookup key = some value) : (key, value) ∈ entries := by
  obtain ⟨earlier, later, rfl, -⟩ := List.lookup_eq_some_iff.mp found
  exact List.mem_append_right earlier List.mem_cons_self

theorem lookup_eq_none_iff_notMem [BEq κ] [LawfulBEq κ] {entries : List (κ × β)} {key : κ} :
    entries.lookup key = none ↔ key ∉ entries.map (·.1) := by
  rw [List.lookup_eq_none_iff, List.mem_map]
  constructor
  · rintro avoided ⟨entry, member, rfl⟩
    simpa using avoided entry member
  · intro absent entry member
    have different : key ≠ entry.1 := fun same => absent ⟨entry, member, same.symm⟩
    simpa using different

/-- An entry under one of several different keys is looked up. -/
theorem lookup_eq_some_iff_mem [BEq κ] [LawfulBEq κ] {entries : List (κ × β)}
    (distinct : (entries.map (·.1)).Nodup) {key : κ} {value : β} :
    entries.lookup key = some value ↔ (key, value) ∈ entries := by
  rw [List.lookup_eq_some_iff]
  constructor
  · rintro ⟨earlier, later, rfl, -⟩
    simp
  · intro member
    obtain ⟨earlier, later, rfl⟩ := List.append_of_mem member
    refine ⟨earlier, later, rfl, ?_⟩
    intro other before
    rw [List.map_append, List.nodup_append] at distinct
    have different := distinct.2.2 other.1 (List.mem_map_of_mem before) key (by simp)
    simpa using different.symm

/-- Where an insertion appends every item with a new key, items of different keys are all appended. -/
theorem foldl_insert_of_nodup {key : α → κ} {insert : List α → α → List α}
    (appends : ∀ present item, key item ∉ present.map key → insert present item = present ++ [item])
    {present items : List α} (distinct : ((present ++ items).map key).Nodup) :
    items.foldl insert present = present ++ items := by
  induction items generalizing present with
  | nil => simp
  | cons item items inductionHypothesis =>
      have unused : key item ∉ present.map key := by
        intro used
        rw [List.map_append, List.nodup_append] at distinct
        exact distinct.2.2 (key item) used (key item) List.mem_cons_self rfl
      have rest : ((present ++ [item] ++ items).map key).Nodup := by simpa using distinct
      rw [List.foldl_cons, appends present item unused, inductionHypothesis rest, List.append_assoc]
      rfl

/-- If every member has an image, so has the list. -/
theorem exists_forall₂_of_forall_mem {Relates : α → β → Prop} {items : List α}
    (served : ∀ item ∈ items, ∃ image, Relates item image) :
    ∃ images, List.Forall₂ Relates items images := by
  induction items with
  | nil => exact ⟨[], .nil⟩
  | cons item items inductionHypothesis =>
      obtain ⟨image, first⟩ := served item List.mem_cons_self
      have rest : ∀ other ∈ items, ∃ image, Relates other image :=
        fun other member => served other (List.mem_cons_of_mem item member)
      obtain ⟨images, related⟩ := inductionHypothesis rest
      exact ⟨image :: images, .cons first related⟩

/-- A check succeeds on all members if it has a result for each. -/
theorem mapM_eq_ok_of_forall₂ {ε : Type} {check : α → Except ε β} {items : List α}
    {images : List β} (checked : List.Forall₂ (fun item image => check item = .ok image) items images) :
    items.mapM check = .ok images := by
  induction checked with
  | nil => rfl
  | @cons item image items images first _ inductionHypothesis =>
      rw [List.mapM_cons, first, inductionHypothesis]
      rfl

theorem mapM_eq_ok_iff_forall₂ {ε : Type} {check : α → Except ε β} {items : List α}
    {images : List β} : items.mapM check = .ok images ↔
      List.Forall₂ (fun item image => check item = .ok image) items images :=
  ⟨forall₂_of_mapM_eq_ok, mapM_eq_ok_of_forall₂⟩

/-- A check that fails on a list fails on a first member, behind others that it accepts. -/
theorem exists_first_of_mapM_eq_error {ε : Type} {check : α → Except ε β} {items : List α}
    {problem : ε} (failed : items.mapM check = .error problem) :
    ∃ before item after, items = before ++ item :: after ∧ check item = .error problem ∧
      ∀ other ∈ before, ∃ image, check other = .ok image := by
  induction items with
  | nil => cases failed
  | cons item items inductionHypothesis =>
      rw [List.mapM_cons] at failed
      cases first : check item with
      | error found =>
          rw [first] at failed
          obtain rfl := Except.error.inj failed
          exact ⟨[], item, items, rfl, first, by simp⟩
      | ok image =>
          cases rest : items.mapM check with
          | ok images =>
              rw [first, rest] at failed
              cases failed
          | error found =>
              rw [first, rest] at failed
              obtain rfl := Except.error.inj failed
              obtain ⟨before, other, after, rfl, missed, accepted⟩ := inductionHypothesis rest
              exact ⟨item :: before, other, after, rfl, missed,
                List.forall_mem_cons.mpr ⟨⟨image, first⟩, accepted⟩⟩

theorem mapM_eq_error_of_first {ε : Type} {check : α → Except ε β} {before after : List α}
    {item : α} {problem : ε} (failed : check item = .error problem)
    (accepted : ∀ other ∈ before, ∃ image, check other = .ok image) :
    (before ++ item :: after).mapM check = .error problem := by
  induction before with
  | nil =>
      rw [List.nil_append, List.mapM_cons, failed]
      rfl
  | cons other before inductionHypothesis =>
      obtain ⟨⟨image, first⟩, rest⟩ := List.forall_mem_cons.mp accepted
      rw [List.cons_append, List.mapM_cons, first, inductionHypothesis rest]
      rfl

/-- Checks that agree on all members agree on the list. -/
theorem mapM_congr {ε : Type} {check other : α → Except ε β} {items : List α}
    (agree : ∀ item ∈ items, check item = other item) : items.mapM check = items.mapM other := by
  induction items with
  | nil => rfl
  | cons item items inductionHypothesis =>
      obtain ⟨first, rest⟩ := List.forall_mem_cons.mp agree
      rw [List.mapM_cons, List.mapM_cons, first, inductionHypothesis rest]

end InterfaceContract
