/-
This file relates two lists member by member.
-/

import Mathlib.Data.List.Forall2
import Mathlib.Data.List.Nodup
import Mathlib.Logic.Equiv.Defs
import Mathlib.Tactic.Choose

namespace InterfaceContract

variable {α β γ : Type} {Relates : α → β → Prop} {items : List α} {images : List β}

/-- Each image has a member beside it. -/
theorem exists_mem_of_forall₂ {image : β} (related : List.Forall₂ Relates items images)
    (member : image ∈ images) : ∃ item ∈ items, Relates item image := by
  induction related with
  | nil => cases member
  | @cons item _ items _ first _ inductionHypothesis =>
      rcases List.mem_cons.mp member with rfl | later
      · exact ⟨item, List.mem_cons_self, first⟩
      · obtain ⟨other, otherMember, relates⟩ := inductionHypothesis later
        exact ⟨other, List.mem_cons_of_mem item otherMember, relates⟩

/-- Two relations between the same lists are one. -/
theorem forall₂_and {Matches : α → β → Prop} (related : List.Forall₂ Relates items images)
    (matched : List.Forall₂ Matches items images) :
    List.Forall₂ (fun item image => Relates item image ∧ Matches item image) items images := by
  rw [List.forall₂_iff_zip] at related matched ⊢
  exact ⟨related.1, fun member => ⟨related.2 member, matched.2 member⟩⟩

/-- What holds of every image can be said beside the relation. -/
theorem forall₂_and_right_iff {Holds : β → Prop} :
    List.Forall₂ (fun item image => Relates item image ∧ Holds image) items images ↔
      List.Forall₂ Relates items images ∧ ∀ image ∈ images, Holds image := by
  constructor
  · intro related
    refine ⟨related.imp fun _ _ both => both.1, ?_⟩
    intro image member
    obtain ⟨item, -, -, holds⟩ := exists_mem_of_forall₂ related member
    exact holds
  · rintro ⟨related, holds⟩
    have beside := (List.forall₂_and_left images items).mpr ⟨holds, related.flip⟩
    exact beside.flip.imp fun _ _ both => ⟨both.2, both.1⟩

/-- The members that are marked stand beside the images that are kept. -/
theorem forall₂_filter_filterMap {marked : α → Bool} {keep : β → Option γ}
    (agree : ∀ item image, Relates item image → marked item = (keep image).isSome)
    (related : List.Forall₂ Relates items images) :
    List.Forall₂ (fun item kept => ∃ image, Relates item image ∧ keep image = some kept)
      (items.filter marked) (images.filterMap keep) := by
  induction related with
  | nil => exact .nil
  | @cons item image _ _ first _ inductionHypothesis =>
      have marking := agree item image first
      cases kept : keep image with
      | none =>
          rw [kept] at marking
          rwa [List.filter_cons_of_neg (by simp [marking]), List.filterMap_cons_none kept]
      | some result =>
          rw [kept] at marking
          rw [List.filter_cons_of_pos marking, List.filterMap_cons_some kept]
          exact .cons ⟨image, first, kept⟩ inductionHypothesis

/-- Items and images that lead to the same keep the same. -/
theorem filterMap_eq_of_forall₂ {keep : α → Option γ} {keepImage : β → Option γ}
    (related : List.Forall₂ (fun item image => keep item = keepImage image) items images) :
    items.filterMap keep = images.filterMap keepImage := by
  induction related with
  | nil => rfl
  | cons same _ inductionHypothesis =>
      rw [List.filterMap_cons, List.filterMap_cons, same, inductionHypothesis]

/-- Lists that are paired with the same list are paired through it. -/
theorem forall₂_through {Continues : β → γ → Prop} {results : List γ}
    (first : List.Forall₂ Relates items images) (second : List.Forall₂ Continues images results) :
    List.Forall₂ (fun item result => ∃ image, Relates item image ∧ Continues image result)
      items results := by
  induction first generalizing results with
  | nil =>
      cases second
      exact .nil
  | cons relates _ inductionHypothesis =>
      cases second with
      | cons continues rest => exact .cons ⟨_, relates, continues⟩ (inductionHypothesis rest)

/-- A check that succeeds on all members gives one value for each, in their order. -/
theorem forall₂_of_mapM_eq_ok {ε : Type} {check : α → Except ε β}
    (checked : items.mapM check = .ok images) :
    List.Forall₂ (fun item image => check item = .ok image) items images := by
  induction items generalizing images with
  | nil =>
      obtain rfl := Except.ok.inj checked
      exact .nil
  | cons item items inductionHypothesis =>
      rw [List.mapM_cons] at checked
      cases first : check item with
      | error problem =>
          rw [first] at checked
          cases checked
      | ok image =>
          cases rest : items.mapM check with
          | error problem =>
              rw [first, rest] at checked
              cases checked
          | ok later =>
              rw [first, rest] at checked
              obtain rfl := Except.ok.inj checked
              exact .cons first (inductionHypothesis rest)

/-- Where keys are distinct on both sides, members that relate by key and leave nothing out are in
bijection, and each relates to its partner alone, the one of its key. -/
theorem exists_pairing {κ : Type} {key : α → κ} {imageKey : β → κ} {Chosen : β → Prop}
    (sameKey : ∀ item image, Relates item image → key item = imageKey image)
    (distinct : (items.map key).Nodup) (distinctImages : (images.map imageKey).Nodup)
    (forward : ∀ item ∈ items, ∃ image ∈ images, Chosen image ∧ Relates item image)
    (backward : ∀ image ∈ images, Chosen image → ∃ item ∈ items, Relates item image) :
    ∃ pairing : Fin items.length ≃ {image // image ∈ images ∧ Chosen image},
      ∀ index, ∀ image ∈ images, (Relates items[index] image ↔ image = pairing index) ∧
        (key items[index] = imageKey image ↔ image = pairing index) := by
  have served : ∀ index : Fin items.length, ∃ image, (image ∈ images ∧ Chosen image) ∧
      Relates items[index] image := by
    intro index
    obtain ⟨image, member, chosen, relates⟩ := forward items[index] (List.getElem_mem index.isLt)
    exact ⟨image, ⟨member, chosen⟩, relates⟩
  choose pick member relates using served
  have alone : ∀ index, ∀ image ∈ images, key items[index] = imageKey image →
      image = pick index := by
    intro index image imageMember same
    apply List.inj_on_of_nodup_map distinctImages imageMember (member index).1
    rw [← same, sameKey _ _ (relates index)]
  let pair (index : Fin items.length) : {image // image ∈ images ∧ Chosen image} :=
    ⟨pick index, member index⟩
  have injective : Function.Injective pair := by
    intro left right same
    have samePick : pick left = pick right := congrArg Subtype.val same
    have sameItemKey : key items[left] = key items[right] := by
      rw [sameKey _ _ (relates left), sameKey _ _ (relates right), samePick]
    have sameItem : items[left] = items[right] :=
      List.inj_on_of_nodup_map distinct (List.getElem_mem left.isLt) (List.getElem_mem right.isLt)
        sameItemKey
    exact Fin.ext (distinct.of_map.getElem_inj_iff.mp sameItem)
  have surjective : Function.Surjective pair := by
    rintro ⟨image, imageMember, chosen⟩
    obtain ⟨item, itemMember, related⟩ := backward image imageMember chosen
    obtain ⟨position, bound, rfl⟩ := List.getElem_of_mem itemMember
    have partner := alone ⟨position, bound⟩ image imageMember (sameKey _ _ related)
    exact ⟨⟨position, bound⟩, Subtype.ext partner.symm⟩
  refine ⟨Equiv.ofBijective pair ⟨injective, surjective⟩, ?_⟩
  intro index image imageMember
  refine ⟨⟨?_, ?_⟩, alone index image imageMember, ?_⟩
  · intro related
    exact alone index image imageMember (sameKey _ _ related)
  · rintro rfl
    exact relates index
  · rintro rfl
    exact sameKey _ _ (relates index)

end InterfaceContract
