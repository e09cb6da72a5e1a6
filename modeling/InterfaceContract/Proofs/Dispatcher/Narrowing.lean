/-
This file shows that wrapping a value in a tagged union and narrowing it again are inverse.
-/

import InterfaceContract.Proofs.Dispatcher.Creation

namespace InterfaceContract

/-- A variant recognizes a value through the first binding that is listed for its type. -/
def Variant.recognizes (bindings : List Binding) (value : Value) (variant : Variant) : Bool :=
  (bindings.find? (·.type == variant.type.render)).any (·.recognizes value)

namespace DispatchError

/-- Only a value whose class has a name to write is refused as one of an unknown implementer. -/
theorem ofUnrecognized_eq_unknownImplementer_iff {contract : String} {value : Value} :
    (∃ implementer, ofUnrecognized contract value = .unknownImplementer contract implementer) ↔
      value.displayName?.isSome = true := by
  rw [ofUnrecognized]
  cases value.displayName? <;> simp

end DispatchError

namespace UnionDispatcher

/-- A value that was tagged as one of a variant narrows to itself at the type of that variant, to a
null at the type of another variant, and at no other type. -/
structure NarrowsBack (dispatcher : UnionDispatcher) (variant : Variant) (value : Value) :
    Prop where
  own : dispatcher.downcast ⟨variant.tag, value⟩ variant.type.render = .ok value
  others : ∀ other ∈ dispatcher.dispatch.variants, other.type.render ≠ variant.type.render →
    dispatcher.downcast ⟨variant.tag, value⟩ other.type.render = .ok .null
  foreign : ∀ type, (∀ other ∈ dispatcher.dispatch.variants, other.type.render ≠ type) →
    dispatcher.downcast ⟨variant.tag, value⟩ type =
      .error (.unknownImplementer dispatcher.scope.contract type)

/-- Wrapping and narrowing are inverse at a value if it is refused, as one of an unknown
implementer, exactly when no variant recognizes it, and if it otherwise takes the tag of the first
variant that does and narrows back. -/
structure InvertsAt (dispatcher : UnionDispatcher) (bindings : List Binding) (value : Value) :
    Prop where
  refused : (∃ implementer, dispatcher.wrap value =
      .error (.unknownImplementer dispatcher.scope.contract implementer)) ↔
    ∀ variant ∈ dispatcher.dispatch.variants, variant.recognizes bindings value = false
  wrapped : ∀ variant,
    dispatcher.dispatch.variants.find? (Variant.recognizes bindings value) = some variant →
      dispatcher.wrap value = .ok ⟨variant.tag, value⟩ ∧ dispatcher.NarrowsBack variant value

variable {bindings : List Binding} {dispatcher : UnionDispatcher} {value : Value}

theorem BindsVariant.recognizes_eq {variant : Variant} {bound : String × Binding}
    (binds : BindsVariant bindings variant bound) (value : Value) :
    variant.recognizes bindings value = bound.2.recognizes value := by
  rw [Variant.recognizes, binds.first, Option.any_some]

/-- A dispatcher wraps a value as the first variant that recognizes it. -/
theorem wrap_of_find?_eq_some {variant : Variant}
    (bound : List.Forall₂ (BindsVariant bindings) dispatcher.dispatch.variants dispatcher.variants)
    (found : dispatcher.dispatch.variants.find? (Variant.recognizes bindings value) =
      some variant) :
    dispatcher.wrap value = .ok ⟨variant.tag, value⟩ := by
  have paired := rel_find? (fun _ _ binds => binds.recognizes_eq value) bound
  rw [found] at paired
  rw [wrap]
  cases first : dispatcher.variants.find? (·.2.recognizes value) with
  | none =>
      rw [first] at paired
      cases paired
  | some bound =>
      rw [first] at paired
      cases paired with
      | some binds => simp only [binds.tag]

theorem wrap_of_find?_eq_none
    (bound : List.Forall₂ (BindsVariant bindings) dispatcher.dispatch.variants dispatcher.variants)
    (missed : dispatcher.dispatch.variants.find? (Variant.recognizes bindings value) = none) :
    dispatcher.wrap value = .error (.ofUnrecognized dispatcher.scope.contract value) := by
  have paired := rel_find? (fun _ _ binds => binds.recognizes_eq value) bound
  rw [missed] at paired
  rw [wrap]
  cases first : dispatcher.variants.find? (·.2.recognizes value) with
  | none => rfl
  | some _ =>
      rw [first] at paired
      cases paired

/-- Variants of one rendered type share their binding, so the first of them is the first variant that
recognizes. -/
theorem find?_render_of_first {variants : List Variant} {variant : Variant}
    (found : variants.find? (Variant.recognizes bindings value) = some variant) :
    variants.find? (·.type.render == variant.type.render) = some variant := by
  have recognized := List.find?_some found
  refine find?_eq_some_of_narrower found (beq_self_eq_true variant.type.render) ?_
  intro other _ sameType
  rw [Variant.recognizes, beq_iff_eq.mp sameType]
  exact recognized

theorem narrowsBack_of_first (distinct : (dispatcher.dispatch.variants.map (·.tag)).Nodup)
    {variant : Variant}
    (found : dispatcher.dispatch.variants.find? (Variant.recognizes bindings value) =
      some variant) :
    dispatcher.NarrowsBack variant value := by
  have member := List.mem_of_find?_eq_some found
  refine ⟨?_, ?_, ?_⟩
  · rw [downcast, find?_render_of_first found]
    simp
  · intro other otherMember differs
    rw [downcast]
    cases first : dispatcher.dispatch.variants.find? (·.type.render == other.type.render) with
    | none => simpa using List.find?_eq_none.mp first other otherMember
    | some narrowed =>
        have narrowedType : narrowed.type.render = other.type.render := by
          simpa using List.find?_some first
        have otherTag : narrowed.tag ≠ variant.tag := by
          intro sameTag
          have same : narrowed = variant :=
            List.inj_on_of_nodup_map distinct (List.mem_of_find?_eq_some first) member sameTag
          rw [same] at narrowedType
          exact differs narrowedType.symm
        simp only [if_neg otherTag]
  · intro type foreign
    have missed : dispatcher.dispatch.variants.find? (·.type.render == type) = none := by
      simpa using foreign
    rw [downcast, missed]

theorem invertsAt_of_first (distinct : (dispatcher.dispatch.variants.map (·.tag)).Nodup)
    (bound : List.Forall₂ (BindsVariant bindings) dispatcher.dispatch.variants dispatcher.variants)
    {variant : Variant}
    (found : dispatcher.dispatch.variants.find? (Variant.recognizes bindings value) =
      some variant) :
    dispatcher.InvertsAt bindings value := by
  have wrapped := wrap_of_find?_eq_some bound found
  refine ⟨?_, ?_⟩
  · have recognized : ∃ variant ∈ dispatcher.dispatch.variants,
        variant.recognizes bindings value = true :=
      ⟨variant, List.mem_of_find?_eq_some found, List.find?_some found⟩
    rw [wrapped]
    simpa using recognized
  · intro first firstFound
    obtain rfl := Option.some.inj (found.symm.trans firstFound)
    exact ⟨wrapped, narrowsBack_of_first distinct found⟩

/-- A value that no variant recognizes is refused as it should be if it can be named. -/
theorem invertsAt_iff_of_unrecognized
    (bound : List.Forall₂ (BindsVariant bindings) dispatcher.dispatch.variants dispatcher.variants)
    (unrecognized : ∀ variant ∈ dispatcher.dispatch.variants,
      variant.recognizes bindings value = false) :
    dispatcher.InvertsAt bindings value ↔ value.displayName?.isSome = true := by
  have missed : dispatcher.dispatch.variants.find? (Variant.recognizes bindings value) = none := by
    simpa using unrecognized
  rw [← DispatchError.ofUnrecognized_eq_unknownImplementer_iff]
  have refused := wrap_of_find?_eq_none bound missed
  constructor
  · intro inverts
    obtain ⟨implementer, named⟩ := inverts.refused.mpr unrecognized
    rw [refused] at named
    exact ⟨implementer, Except.error.inj named⟩
  · rintro ⟨implementer, named⟩
    refine ⟨iff_of_true ⟨implementer, ?_⟩ unrecognized, ?_⟩
    · rw [refused, named]
    · intro variant found
      rw [missed] at found
      cases found

/-- Bindings of different types may be listed in any order. -/
theorem create_of_perm {scope : CallScope} {dispatch : UnionDispatch} {reordered : List Binding}
    (distinct : (bindings.map (·.type)).Nodup) (same : reordered.Perm bindings)
    (created : create scope dispatch bindings = .ok dispatcher) :
    create scope dispatch reordered = .ok dispatcher := by
  obtain ⟨belong, variants, bound, rfl⟩ := create_eq_ok_iff.mp created
  refine create_eq_ok_iff.mpr ⟨?_, variants, ?_, rfl⟩
  · intro binding member
    exact belong binding (same.mem_iff.mp member)
  · apply bound.imp
    intro variant variantBound binds
    refine ⟨binds.tag, ?_⟩
    rw [find?_key_eq_of_perm distinct same]
    exact binds.first

end UnionDispatcher

/-- What holds of a union that was made for a contract from a list of bindings: its variants are the
implementers in their order, it inverts wrapping at every value that some variant recognizes and at
every other value whose class has a name to write, and bindings of different types may be listed in
any order. -/
structure UnionDispatcher.InvertsWrapping (contract : CompiledContract)
    (defaults : List (String × Body)) (bindings : List Binding) (dispatcher : UnionDispatcher) :
    Prop where
  variants : dispatcher.dispatch.variants.map (·.type) = contract.model.implementers.map (·.type)
  invertsAt_iff : ∀ value, dispatcher.InvertsAt bindings value ↔
    (∃ variant ∈ dispatcher.dispatch.variants, variant.recognizes bindings value = true) ∨
      value.displayName?.isSome = true
  reorder : (bindings.map (·.type)).Nodup → ∀ reordered : List Binding, reordered.Perm bindings →
    UnionDispatcher.create ⟨contract, defaults⟩ dispatcher.dispatch reordered = .ok dispatcher

namespace ContractDeclaration

/-- Every union that is made for a compiled contract inverts wrapping. -/
theorem compile_invertsWrapping {declaration : ContractDeclaration} {options : CompilationOptions}
    {contract : CompiledContract} {dispatch : UnionDispatch} {defaults : List (String × Body)}
    {bindings : List Binding} {dispatcher : UnionDispatcher}
    (compiled : declaration.compile options = .compiled contract)
    (closed : contract.dispatch = .closedUnion dispatch)
    (created : UnionDispatcher.create ⟨contract, defaults⟩ dispatch bindings = .ok dispatcher) :
    dispatcher.InvertsWrapping contract defaults bindings := by
  have exposes := exposes_of_compiled compiled closed
  obtain ⟨-, rfl, bound⟩ := UnionDispatcher.forall₂_of_create exposes.tags created
  refine ⟨exposes.types, ?_, ?_⟩
  · intro value
    cases found : dispatcher.dispatch.variants.find? (Variant.recognizes bindings value) with
    | some variant =>
        have recognized : ∃ variant ∈ dispatcher.dispatch.variants,
            variant.recognizes bindings value = true :=
          ⟨variant, List.mem_of_find?_eq_some found, List.find?_some found⟩
        exact iff_of_true (UnionDispatcher.invertsAt_of_first exposes.tags bound found)
          (.inl recognized)
    | none =>
        have unrecognized : ∀ variant ∈ dispatcher.dispatch.variants,
            variant.recognizes bindings value = false := by
          simpa using found
        rw [UnionDispatcher.invertsAt_iff_of_unrecognized bound unrecognized]
        simp +contextual [unrecognized]
  · intro distinct reordered same
    exact UnionDispatcher.create_of_perm distinct same created

/-- Takes whatever has a serial number for a droid, humans included. -/
def serialBinding : Binding where
  type := "model::Droid"
  recognizes value := (value.entry? "serial").isSome
  methods := []

theorem compile_invertsWrapping_character :
    character.compile = .compiled characterContract ∧
      characterContract.dispatch = .closedUnion characterUnion ∧
      UnionDispatcher.create ⟨characterContract, []⟩ characterUnion
        [serialBinding, humanBinding] = .ok (characterDispatcher serialBinding) ∧
      (characterDispatcher serialBinding).InvertsWrapping characterContract []
        [serialBinding, humanBinding] :=
  ⟨compile_character, dispatch_characterContract, create_characterDispatcher rfl,
    compile_invertsWrapping compile_character dispatch_characterContract
      (create_characterDispatcher rfl)⟩

/-- A record whose class is named by something that cannot be written. -/
def unwritable : Value :=
  .ofEntries [("constructor", .ofEntries [("name", .record .bare [])])]

/-- No variant recognizes such a record, and yet it is not refused as one of an unknown
implementer. -/
theorem unwritable_not_invertsAt :
    (∀ variant ∈ (characterDispatcher serialBinding).dispatch.variants,
      variant.recognizes [serialBinding, humanBinding] unwritable = false) ∧
      (characterDispatcher serialBinding).wrap unwritable = .error .unwritableName ∧
      ¬ (characterDispatcher serialBinding).InvertsAt [serialBinding, humanBinding]
        unwritable := by
  have unrecognized : ∀ variant ∈ (characterDispatcher serialBinding).dispatch.variants,
      variant.recognizes [serialBinding, humanBinding] unwritable = false := by
    change ∀ variant ∈ characterUnion.variants, _
    rw [variants_characterUnion]
    decide +kernel
  have refused :
      (characterDispatcher serialBinding).wrap unwritable = .error .unwritableName := rfl
  refine ⟨unrecognized, refused, ?_⟩
  intro inverts
  obtain ⟨implementer, named⟩ := inverts.refused.mpr unrecognized
  rw [refused] at named
  cases named

end ContractDeclaration

end InterfaceContract
