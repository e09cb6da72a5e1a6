/-
This file says which bindings a dispatcher is created from and what it holds then.
-/

import InterfaceContract.Dispatcher.Creation
import InterfaceContract.Proofs.Contract.Dispatch
import InterfaceContract.Proofs.List.Search

namespace InterfaceContract

/-- A step succeeds after another exactly if both do. -/
theorem bind_eq_ok_iff {ε α β : Type} {first : Except ε α} {next : α → Except ε β} {result : β} :
    first >>= next = .ok result ↔ ∃ value, first = .ok value ∧ next value = .ok result := by
  cases first with
  | error problem =>
      change Except.error problem = .ok result ↔ _
      simp
  | ok value =>
      change next value = .ok result ↔ _
      simp

namespace UnionDispatcher

theorem any_tag_iff {variants : List (String × Binding)} {tag : String} :
    variants.any (·.1 == tag) = true ↔ tag ∈ variants.map (·.1) := by
  simp only [List.any_eq_true, List.mem_map, beq_iff_eq]

theorem bindTag_of_notMem (variants : List (String × Binding)) (variant : String × Binding)
    (unused : variant.1 ∉ variants.map (·.1)) : bindTag variants variant = variants ++ [variant] := by
  rw [bindTag, if_neg (mt any_tag_iff.mp unused)]

theorem tags_bindTag_of_mem {variants : List (String × Binding)} {variant : String × Binding}
    (used : variant.1 ∈ variants.map (·.1)) :
    (bindTag variants variant).map (·.1) = variants.map (·.1) := by
  rw [bindTag, if_pos (any_tag_iff.mpr used), List.map_map]
  apply List.map_congr_left
  intro bound _
  by_cases same : bound.1 = variant.1 <;> simp [same]

/-- However tags clash, each is bound once. -/
theorem nodup_tags_bindTag {variants : List (String × Binding)}
    (distinct : (variants.map (·.1)).Nodup) (variant : String × Binding) :
    ((bindTag variants variant).map (·.1)).Nodup := by
  by_cases used : variant.1 ∈ variants.map (·.1)
  · rwa [tags_bindTag_of_mem used]
  · rw [bindTag_of_notMem variants variant used, List.map_append]
    refine distinct.append (List.nodup_singleton _) ?_
    simpa using used

theorem nodup_tags_foldl_bindTag (variants : List (String × Binding)) :
    ((variants.foldl bindTag []).map (·.1)).Nodup := by
  apply List.foldlRecOn variants bindTag (motive := fun bound => (bound.map (·.1)).Nodup)
  · exact List.nodup_nil
  · intro bound distinct variant _
    exact nodup_tags_bindTag distinct variant

variable {scope : CallScope} {dispatch : UnionDispatch} {bindings : List Binding}
  {dispatcher : UnionDispatcher}

theorem checkBindings_eq_ok_iff : checkBindings scope dispatch bindings = .ok () ↔
    ∀ binding ∈ bindings, ∃ variant ∈ dispatch.variants, variant.type.render = binding.type := by
  induction bindings with
  | nil => simp [checkBindings, pure, Except.pure]
  | cons binding bindings inductionHypothesis =>
      have first : checkBindings scope dispatch (binding :: bindings) =
          ((if dispatch.variants.any (·.type.render == binding.type) then .ok ()
            else .error (.unknownImplementer scope.contract binding.type)) >>=
              fun _ => checkBindings scope dispatch bindings) := rfl
      rw [first, bind_eq_ok_iff, List.forall_mem_cons, inductionHypothesis]
      simp

/-- A variant is bound by its tag to the first binding for its type. -/
structure BindsVariant (bindings : List Binding) (variant : Variant) (bound : String × Binding) :
    Prop where
  tag : bound.1 = variant.tag
  first : bindings.find? (·.type == variant.type.render) = some bound.2

theorem bindVariant_eq_ok_iff {variant : Variant} {bound : String × Binding} :
    bindVariant scope bindings variant = .ok bound ↔ BindsVariant bindings variant bound := by
  rcases bound with ⟨tag, binding⟩
  rw [bindVariant]
  cases found : bindings.find? (·.type == variant.type.render) with
  | none =>
      constructor
      · intro bound
        cases bound
      · intro binds
        rw [binds.first] at found
        cases found
  | some first =>
      constructor
      · rintro ⟨⟩
        exact ⟨rfl, found⟩
      · rintro ⟨rfl, sameBinding⟩
        rw [found] at sameBinding
        obtain rfl := Option.some.inj sameBinding
        rfl

/-- A union takes exactly the bindings of its variants, and needs one for each. -/
theorem create_eq_ok_iff : create scope dispatch bindings = .ok dispatcher ↔
    (∀ binding ∈ bindings, ∃ variant ∈ dispatch.variants, variant.type.render = binding.type) ∧
      ∃ variants, List.Forall₂ (BindsVariant bindings) dispatch.variants variants ∧
        dispatcher = ⟨scope, dispatch, variants.foldl bindTag []⟩ := by
  have bound (variants : List (String × Binding)) :
      dispatch.variants.mapM (bindVariant scope bindings) = .ok variants ↔
        List.Forall₂ (BindsVariant bindings) dispatch.variants variants := by
    rw [mapM_eq_ok_iff_forall₂]
    simp only [bindVariant_eq_ok_iff]
  rw [create]
  simp only [bind_eq_ok_iff, bound]
  constructor
  · rintro ⟨⟨⟩, checked, variants, related, created⟩
    exact ⟨checkBindings_eq_ok_iff.mp checked, variants, related, (Except.ok.inj created).symm⟩
  · rintro ⟨belong, variants, related, rfl⟩
    exact ⟨(), checkBindings_eq_ok_iff.mpr belong, variants, related, rfl⟩

/-- A list that binds the types of all variants, and no others, is taken. -/
theorem exists_create
    (belong : ∀ binding ∈ bindings, ∃ variant ∈ dispatch.variants,
      variant.type.render = binding.type)
    (complete : ∀ variant ∈ dispatch.variants, ∃ binding ∈ bindings,
      binding.type = variant.type.render) (scope : CallScope) :
    ∃ dispatcher, create scope dispatch bindings = .ok dispatcher := by
  have served : ∀ variant ∈ dispatch.variants, ∃ bound, BindsVariant bindings variant bound := by
    intro variant member
    obtain ⟨binding, bindingMember, typed⟩ := complete variant member
    cases first : bindings.find? (·.type == variant.type.render) with
    | none => simpa [typed] using List.find?_eq_none.mp first binding bindingMember
    | some found => exact ⟨(variant.tag, found), rfl, first⟩
  obtain ⟨variants, related⟩ := exists_forall₂_of_forall_mem served
  exact ⟨_, create_eq_ok_iff.mpr ⟨belong, variants, related, rfl⟩⟩

theorem BindsVariant.mem {variant : Variant} {bound : String × Binding}
    (binds : BindsVariant bindings variant bound) : bound.2 ∈ bindings :=
  List.mem_of_find?_eq_some binds.first

theorem BindsVariant.type_eq {variant : Variant} {bound : String × Binding}
    (binds : BindsVariant bindings variant bound) : bound.2.type = variant.type.render := by
  simpa using List.find?_some binds.first

theorem scope_of_create (created : create scope dispatch bindings = .ok dispatcher) :
    dispatcher.scope = scope := by
  obtain ⟨-, variants, -, rfl⟩ := create_eq_ok_iff.mp created
  rfl

/-- Every dispatcher binds each tag once, whatever its union is. -/
theorem nodup_tags_of_create (created : create scope dispatch bindings = .ok dispatcher) :
    (dispatcher.variants.map (·.1)).Nodup := by
  obtain ⟨-, variants, -, rfl⟩ := create_eq_ok_iff.mp created
  exact nodup_tags_foldl_bindTag variants

/-- A tag is bound to one binding. -/
theorem binding_of_mem (distinct : (dispatcher.variants.map (·.1)).Nodup) {tag : String}
    {binding : Binding} (member : (tag, binding) ∈ dispatcher.variants) :
    dispatcher.binding tag = .ok binding := by
  rw [UnionDispatcher.binding, (lookup_eq_some_iff_mem distinct).mpr member]

/-- The tags of a compiled union do not clash, so that its dispatcher binds them as they stand. -/
theorem forall₂_of_create (distinct : (dispatch.variants.map (·.tag)).Nodup)
    (created : create scope dispatch bindings = .ok dispatcher) :
    dispatcher.scope = scope ∧ dispatcher.dispatch = dispatch ∧
      List.Forall₂ (BindsVariant bindings) dispatch.variants dispatcher.variants := by
  obtain ⟨-, variants, related, rfl⟩ := create_eq_ok_iff.mp created
  have sameTags : variants.map (·.1) = dispatch.variants.map (·.tag) := by
    rw [← List.forall₂_eq_eq_eq, List.forall₂_map_left_iff, List.forall₂_map_right_iff]
    exact related.flip.imp fun _ _ binds => binds.tag
  have unchanged : variants.foldl bindTag [] = variants :=
    foldl_insert_of_nodup bindTag_of_notMem (by rwa [List.nil_append, sameTags])
  refine ⟨rfl, rfl, ?_⟩
  rwa [unchanged]

end UnionDispatcher

namespace HandleDispatcher

theorem addBinding_of_notMem (bindings : List Binding) (binding : Binding)
    (unused : binding.type ∉ bindings.map (·.type)) :
    addBinding bindings binding = bindings ++ [binding] := by
  have kept : bindings.filter (·.type != binding.type) = bindings := by
    rw [List.filter_eq_self]
    intro other member
    have different : other.type ≠ binding.type := by
      intro same
      exact unused (List.mem_map.mpr ⟨other, member, same⟩)
    simpa using different
  rw [addBinding, kept]

end HandleDispatcher

namespace Dispatcher

/-- A dispatcher is of the form that its contract was compiled for. -/
theorem form_of_create {contract : CompiledContract} {parts : DispatcherParts}
    {dispatcher : Dispatcher} (created : create contract parts = .ok dispatcher) :
    (∃ dispatch, contract.dispatch = .openHandle dispatch ∧
      dispatcher = .openHandle
        (.create ⟨contract, parts.defaults⟩ dispatch parts.externals parts.bindings)) ∨
    ∃ dispatch union, contract.dispatch = .closedUnion dispatch ∧
      UnionDispatcher.create ⟨contract, parts.defaults⟩ dispatch parts.bindings = .ok union ∧
      dispatcher = .closedUnion union := by
  rw [create] at created
  cases form : contract.dispatch with
  | openHandle dispatch =>
      simp only [form] at created
      exact .inl ⟨dispatch, rfl, (Except.ok.inj created).symm⟩
  | closedUnion dispatch =>
      simp only [form] at created
      cases made : UnionDispatcher.create ⟨contract, parts.defaults⟩ dispatch parts.bindings with
      | error problem =>
          rw [made] at created
          cases created
      | ok union =>
          rw [made] at created
          exact .inr ⟨dispatch, union, rfl, made, (Except.ok.inj created).symm⟩

end Dispatcher

section

def humanBinding : Binding where
  type := "Human<'a>"
  recognizes := Value.isInstanceOf "Human"
  methods := [("home_planet", fun self _ => .value ((self.entry? "planet").getD .missing))]

def droidBinding : Binding where
  type := "model::Droid"
  recognizes := Value.isInstanceOf "Droid"
  methods := []

/-- The sample union with some binding of droids. -/
def characterDispatcher (droids : Binding) : UnionDispatcher where
  scope := ⟨characterContract, []⟩
  dispatch := characterUnion
  variants := [("Human", humanBinding), ("Droid", droids)]

theorem create_characterDispatcher {droids : Binding} (typed : droids.type = "model::Droid") :
    UnionDispatcher.create ⟨characterContract, []⟩ characterUnion [droids, humanBinding] =
      .ok (characterDispatcher droids) := by
  refine UnionDispatcher.create_eq_ok_iff.mpr ⟨?_, (characterDispatcher droids).variants, ?_, rfl⟩
  · rw [variants_characterUnion]
    simp [typed, humanBinding, render_human, render_droid]
  · rw [variants_characterUnion]
    refine .cons ⟨rfl, ?_⟩ (.cons ⟨rfl, ?_⟩ .nil)
    · simp [typed, humanBinding, render_human]
    · simp [typed, render_droid]

def dynamicDirectives : ContractDirectives :=
  { characterDirectives with dispatch := some (.openHandle ⟨"DynCharacter", ⟨1, 1⟩⟩) }

/-- The sample contract, dispatched through dynamic handles. -/
def dynamicCharacter : ContractDeclaration :=
  character.withDispatch dynamicDirectives.dispatch

theorem compile_dynamicCharacter :
    dynamicCharacter.compile = .compiled (dynamicCharacter.assembled dynamicDirectives {}) :=
  ContractDeclaration.compile_eq_compiled_iff.mpr
    ⟨dynamicDirectives, rfl, by decide +kernel, by decide +kernel, rfl⟩

/-- Its dispatcher for humans and droids. -/
def characterHandles : HandleDispatcher where
  scope.compiled := dynamicCharacter.assembled dynamicDirectives {}
  scope.defaults := []
  dispatch.ident := "DynCharacter"
  dispatch.contract := "Character"
  dispatch.scalar := characterContract.model.scalar
  dispatch.context := characterContract.model.context
  externals := []
  bindings := [droidBinding, humanBinding]

end

end InterfaceContract
