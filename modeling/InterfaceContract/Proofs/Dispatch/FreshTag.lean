/-
This file shows that no two variants of a tagged union have the same tag.
-/

import InterfaceContract.Dispatch.Basic
import Mathlib.Data.List.Nodup
import Mathlib.Data.List.Perm.Subperm

namespace InterfaceContract

theorem toString_injective : Function.Injective fun number : Nat => toString number := by
  intro left right same
  have sameDigits : Nat.toDigits 10 left = Nat.toDigits 10 right := by
    have sameText : (toString left).toList = (toString right).toList := congrArg String.toList same
    simpa only [Nat.toString_eq_repr, Nat.toList_repr] using sameText
  have sameValue := congrArg (fun digits => Nat.ofDigitChars 10 digits 0) sameDigits
  simpa only [Nat.ofDigitChars_ten_toDigits] using sameValue

/-- A longer list of different items holds one that the shorter list lacks. -/
theorem exists_mem_notMem_of_length_lt {α : Type} {used items : List α} (distinct : items.Nodup)
    (longer : used.length < items.length) : ∃ item ∈ items, item ∉ used := by
  by_contra covered
  push Not at covered
  have bounded : items.length ≤ used.length := (distinct.subperm covered).length_le
  omega

namespace Tag

@[simp] theorem length_numbered (base : String) (count : Nat) :
    (numbered base count).length = count := by
  simp [numbered]

theorem nodup_numbered (base : String) (count : Nat) : (numbered base count).Nodup := by
  apply List.nodup_range.map
  intro left right same
  have sameNumber : left + 2 = right + 2 :=
    toString_injective ((String.append_right_inj base).mp same)
  omega

/-- One of the numbered tags is always left. -/
theorem fresh_notMem (used : List String) (base : String) : fresh used base ∉ used := by
  rw [fresh]
  split
  · have longer : used.length < (numbered base (used.length + 1)).length := by simp
    obtain ⟨tag, member, unused⟩ := exists_mem_notMem_of_length_lt (nodup_numbered base _) longer
    cases found : (numbered base (used.length + 1)).find? (· ∉ used) with
    | none => simpa [unused] using List.find?_eq_none.mp found tag member
    | some free => simpa using List.find?_some found
  · assumption

/-- Tags avoid the used ones and each other. -/
theorem allocate_avoids (used : List String) (types : List TypeExpr) :
    (allocate used types).Nodup ∧ ∀ tag ∈ allocate used types, tag ∉ used := by
  induction types generalizing used with
  | nil => simp
  | cons type types inductionHypothesis =>
      obtain ⟨distinct, avoids⟩ := inductionHypothesis (fresh used (base type) :: used)
      rw [allocate]
      refine ⟨?_, ?_⟩
      · rw [List.nodup_cons]
        refine ⟨?_, distinct⟩
        intro repeated
        exact avoids _ repeated List.mem_cons_self
      · intro tag member
        rcases List.mem_cons.mp member with rfl | later
        · exact fresh_notMem used (base type)
        · exact fun usedBefore => avoids tag later (List.mem_cons_of_mem _ usedBefore)

end Tag

namespace Variant

theorem ofTypes_eq_map (types : List TypeExpr) :
    ofTypes types = ((Tag.allocate [] types).zip types).map fun pair => ⟨pair.1, pair.2⟩ :=
  List.map_uncurry_zip_eq_zipWith.symm

theorem tags_ofTypes (types : List TypeExpr) :
    (ofTypes types).map (·.tag) = Tag.allocate [] types := by
  have lengths : (Tag.allocate [] types).length ≤ types.length := by simp
  rw [ofTypes_eq_map, List.map_map]
  exact List.map_fst_zip lengths

theorem types_ofTypes (types : List TypeExpr) : (ofTypes types).map (·.type) = types := by
  have lengths : types.length ≤ (Tag.allocate [] types).length := by simp
  rw [ofTypes_eq_map, List.map_map]
  exact List.map_snd_zip lengths

/-- The variants of a union have different tags. -/
theorem nodup_tags_ofTypes (types : List TypeExpr) : ((ofTypes types).map (·.tag)).Nodup := by
  rw [tags_ofTypes]
  exact (Tag.allocate_avoids [] types).1

end Variant

end InterfaceContract
