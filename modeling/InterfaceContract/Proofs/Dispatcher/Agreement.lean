/-
This file shows that a contract dispatched through a tagged union and through dynamic handles does the
same.
-/

import InterfaceContract.Dispatcher.Form
import InterfaceContract.Proofs.Dispatcher.Narrowing

namespace InterfaceContract

open DispatchForm

/-- Wrapped values of two forms of dispatch operate alike if nothing that can be asked of them tells
them apart: no field, no method of the contract, no constant, and no downcast to an implementer
unless a declared downcast goes to its type. -/
structure OperatesAlike {δ η δ' η' : Type} [DispatchForm δ η] [DispatchForm δ' η']
    (methods : List Method) (implementers : List Implementer) (left : δ) (handle : η) (right : δ')
    (other : η') : Prop where
  readField : ∀ name supplied environment,
    readField left handle name supplied environment =
      readField right other name supplied environment
  call : ∀ method ∈ methods, ∀ parameters,
    call left handle method.ident parameters = call right other method.ident parameters
  constant : ∀ name, constant left handle name = constant right other name
  downcast : ∀ implementer ∈ implementers,
    (∀ same ∈ implementers, same.type.render = implementer.type.render → same.downcast = none) →
      ∀ context, downcast left handle implementer.type.render context =
        downcast right other implementer.type.render context

/-- Both answers are the same error, or both are values that are related. -/
def SameErrorOr {ε α β : Type} (Related : α → β → Prop) : Except ε α → Except ε β → Prop
  | .ok value, .ok other => Related value other
  | .error error, .error other => error = other
  | _, _ => False

namespace CallScope

/-- Two scopes come to the same for every call. -/
structure Alike (left right : CallScope) : Prop where
  interface : left.compiled.SameInterface right.compiled
  defaults : left.defaults = right.defaults

variable {left right : CallScope}

theorem Alike.contract_eq (alike : left.Alike right) : left.contract = right.contract :=
  alike.interface.name

theorem Alike.field_eq (alike : left.Alike right) (name : String) :
    left.field name = right.field name := by
  rw [field, field, field?, field?, alike.interface.fields, alike.contract_eq]

theorem Alike.runBody_eq (alike : left.Alike right) : left.runBody = right.runBody := by
  funext binding method self parameters
  rw [runBody, runBody, alike.defaults]

theorem Alike.asynchronous_eq (alike : left.Alike right) :
    left.asynchronous = right.asynchronous := by
  rw [asynchronous, asynchronous, alike.interface.adaptation]

theorem Alike.runField_eq (alike : left.Alike right) : left.runField = right.runField := by
  funext binding field self supplied environment
  rw [runField, runField, alike.asynchronous_eq, alike.runBody_eq]

theorem Alike.runMethod_eq (alike : left.Alike right) : left.runMethod = right.runMethod := by
  funext binding method self parameters
  rw [runMethod, runMethod, alike.asynchronous_eq, alike.runBody_eq]

end CallScope

/-- A union and a dispatcher of handles serve one contract through one list of bindings, with one
binding for each rendered type and no value that two of them recognize. -/
structure ServeTogether (bindings : List Binding) (union : UnionDispatcher)
    (handles : HandleDispatcher) : Prop where
  scopes : union.scope.Alike handles.scope
  exposes : union.dispatch.Exposes union.scope.compiled
  bound : List.Forall₂ (UnionDispatcher.BindsVariant bindings) union.dispatch.variants union.variants
  tags : (union.variants.map (·.1)).Nodup
  sameBindings : handles.bindings = bindings
  types : (bindings.map (·.type)).Nodup
  belong : ∀ binding ∈ bindings, ∃ variant ∈ union.dispatch.variants,
    variant.type.render = binding.type
  exclusive : ∀ value, bindings.Pairwise fun earlier later =>
    ¬ (earlier.recognizes value = true ∧ later.recognizes value = true)

namespace ServeTogether

variable {bindings : List Binding} {union : UnionDispatcher} {handles : HandleDispatcher}
  {value : Value} {variant : Variant}

/-- What the union wraps as its first variant, the handles wrap with the binding of that variant. -/
theorem exists_binding (together : ServeTogether bindings union handles)
    (found : union.dispatch.variants.find? (Variant.recognizes bindings value) = some variant) :
    ∃ binding, union.binding variant.tag = .ok binding ∧ binding.type = variant.type.render ∧
      handles.wrap value = .ok ⟨binding, value⟩ := by
  obtain ⟨⟨tag, binding⟩, boundMember, binds⟩ :
      ∃ bound ∈ union.variants, UnionDispatcher.BindsVariant bindings variant bound :=
    exists_mem_of_forall₂ together.bound.flip (List.mem_of_find?_eq_some found)
  obtain rfl : tag = variant.tag := binds.tag
  have recognized : binding.recognizes value = true := by
    rw [← binds.recognizes_eq value]
    exact List.find?_some found
  refine ⟨binding, UnionDispatcher.binding_of_mem together.tags boundMember, binds.type_eq, ?_⟩
  rw [HandleDispatcher.wrap, together.sameBindings,
    find?_eq_some_of_exclusive (together.exclusive value) binds.mem recognized]

/-- What no variant recognizes, no binding recognizes. -/
theorem unrecognized (together : ServeTogether bindings union handles)
    (missed : union.dispatch.variants.find? (Variant.recognizes bindings value) = none) :
    ∀ binding ∈ bindings, binding.recognizes value = false := by
  intro binding member
  obtain ⟨variant, variantMember, typed⟩ := together.belong binding member
  have bound : bindings.find? (·.type == variant.type.render) = some binding :=
    (find?_key_eq_some_iff together.types).mpr ⟨member, typed.symm⟩
  have ignored : variant.recognizes bindings value = false := by
    simpa using List.find?_eq_none.mp missed variant variantMember
  rwa [Variant.recognizes, bound, Option.any_some] at ignored

theorem downcast_eq (together : ServeTogether bindings union handles)
    (found : union.dispatch.variants.find? (Variant.recognizes bindings value) = some variant)
    {binding : Binding} (typed : binding.type = variant.type.render) {implementer : Implementer}
    (member : implementer ∈ union.scope.compiled.model.implementers)
    (undeclared : ∀ same ∈ union.scope.compiled.model.implementers,
      same.type.render = implementer.type.render → same.downcast = none) (context : Value) :
    Outcome.lookup (union.downcast ⟨variant.tag, value⟩ implementer.type.render) .value =
      handles.downcast ⟨binding, value⟩ implementer.type.render context := by
  have unrouted : (handles.scope.implementer? implementer.type.render).bind (·.downcast) = none := by
    rw [CallScope.implementer?, ← together.scopes.interface.implementers]
    cases first : union.scope.compiled.model.implementers.find?
        (·.type.render == implementer.type.render) with
    | none => rfl
    | some same =>
        have sameType : same.type.render = implementer.type.render := by
          simpa using List.find?_some first
        exact undeclared same (List.mem_of_find?_eq_some first) sameType
  have narrows := UnionDispatcher.narrowsBack_of_first together.exposes.tags found
  -- Only handles look at declared downcasts; without one both go by the type of the binding.
  rw [HandleDispatcher.downcast, unrouted]
  by_cases own : implementer.type.render = variant.type.render
  · rw [own, narrows.own]
    simp [typed]
  · have typeMember : implementer.type ∈ union.dispatch.variants.map (·.type) := by
      rw [together.exposes.types]
      exact List.mem_map_of_mem member
    obtain ⟨other, otherMember, otherType⟩ := List.mem_map.mp typeMember
    rw [← otherType] at own ⊢
    rw [narrows.others other otherMember own]
    simp [typed, Ne.symm own]

/-- Whatever is asked of what they wrapped, both answer the same. -/
theorem operatesAlike (together : ServeTogether bindings union handles)
    (found : union.dispatch.variants.find? (Variant.recognizes bindings value) = some variant)
    {binding : Binding} (bound : union.binding variant.tag = .ok binding)
    (typed : binding.type = variant.type.render) {methods : List Method}
    (declared : ∀ method ∈ methods, union.dispatch.methods.any (·.ident == method.ident) = true) :
    OperatesAlike methods union.scope.compiled.model.implementers union
      (⟨variant.tag, value⟩ : TaggedValue) handles (⟨binding, value⟩ : DynamicHandle) where
  readField name supplied environment := by
    change union.readField _ _ _ _ = handles.readField _ _ _ _
    simp only [UnionDispatcher.readField, HandleDispatcher.readField, bound, Outcome.lookup_ok,
      together.scopes.field_eq, together.scopes.runField_eq]
  call method member parameters := by
    change union.call _ _ _ = handles.call _ _ _
    rw [UnionDispatcher.call, HandleDispatcher.call, if_pos (declared method member)]
    simp only [bound, Outcome.lookup_ok, together.scopes.runMethod_eq]
  constant name := by
    change union.constant _ _ = _
    rw [UnionDispatcher.constant, bound]
    rfl
  downcast implementer member undeclared context :=
    together.downcast_eq found typed member undeclared context

theorem refusal (together : ServeTogether bindings union handles) {error : DispatchError}
    (refused : wrap union value = .error error) :
    error = .ofUnrecognized union.scope.contract value := by
  change union.wrap value = .error error at refused
  cases found : union.dispatch.variants.find? (Variant.recognizes bindings value) with
  | some variant =>
      rw [UnionDispatcher.wrap_of_find?_eq_some together.bound found] at refused
      cases refused
  | none =>
      rw [UnionDispatcher.wrap_of_find?_eq_none together.bound found] at refused
      exact (Except.error.inj refused).symm

/-- Both refuse a value for the same reason, or both wrap it and answer alike. -/
theorem agree (together : ServeTogether bindings union handles) {methods : List Method}
    (declared : ∀ method ∈ methods, union.dispatch.methods.any (·.ident == method.ident) = true)
    (value : Value) :
    SameErrorOr (fun tagged handle => OperatesAlike methods
        union.scope.compiled.model.implementers union tagged handles handle)
      (wrap union value) (wrap handles value) := by
  change SameErrorOr _ (union.wrap value) (handles.wrap value)
  cases found : union.dispatch.variants.find? (Variant.recognizes bindings value) with
  | some variant =>
      obtain ⟨binding, bound, typed, wrapped⟩ := together.exists_binding found
      rw [UnionDispatcher.wrap_of_find?_eq_some together.bound found, wrapped]
      exact together.operatesAlike found bound typed declared
  | none =>
      have missed : handles.bindings.find? (·.recognizes value) = none := by
        rw [together.sameBindings]
        simpa using together.unrecognized found
      rw [UnionDispatcher.wrap_of_find?_eq_none together.bound found, HandleDispatcher.wrap, missed,
        together.scopes.contract_eq]
      rfl

end ServeTogether

/-- Dispatchers of both forms that are made from one list of bindings serve together. -/
theorem serveTogether_of_create {unionContract handleContract : CompiledContract}
    {dispatch : UnionDispatch} {defaults externals : List (String × Body)} {bindings : List Binding}
    {union : UnionDispatcher} (exposes : dispatch.Exposes unionContract)
    (same : unionContract.SameInterface handleContract) (types : (bindings.map (·.type)).Nodup)
    (exclusive : ∀ value, bindings.Pairwise fun earlier later =>
      ¬ (earlier.recognizes value = true ∧ later.recognizes value = true))
    (created : UnionDispatcher.create ⟨unionContract, defaults⟩ dispatch bindings = .ok union)
    (opened : HandleDispatch) :
    ServeTogether bindings union
      (.create ⟨handleContract, defaults⟩ opened externals bindings) := by
  have tags := UnionDispatcher.nodup_tags_of_create created
  have belong := (UnionDispatcher.create_eq_ok_iff.mp created).1
  obtain ⟨sameScope, rfl, bound⟩ := UnionDispatcher.forall₂_of_create exposes.tags created
  have kept : bindings.foldl HandleDispatcher.addBinding [] = bindings :=
    foldl_insert_of_nodup HandleDispatcher.addBinding_of_notMem (by simpa using types)
  refine ⟨⟨?_, ?_⟩, ?_, bound, tags, kept, types, belong, exclusive⟩
  · rwa [sameScope]
  · rw [sameScope]
    rfl
  · rwa [sameScope]

namespace ContractDeclaration

/-- A list with one binding for each rendered implementer type makes a union. -/
theorem exists_create_union {contract : CompiledContract} {dispatch : UnionDispatch}
    (exposes : dispatch.Exposes contract) {bindings : List Binding}
    (bound : ∀ type, type ∈ bindings.map (·.type) ↔
      type ∈ contract.model.implementers.map (·.type.render)) (scope : CallScope) :
    ∃ union, UnionDispatcher.create scope dispatch bindings = .ok union := by
  have rendered (type : String) : type ∈ bindings.map (·.type) ↔
      ∃ variant ∈ dispatch.variants, variant.type.render = type := by
    have sameTypes : contract.model.implementers.map (·.type.render) =
        (dispatch.variants.map (·.type)).map TypeExpr.render := by
      rw [exposes.types, List.map_map]
      rfl
    rw [bound, sameTypes]
    simp
  apply UnionDispatcher.exists_create
  · intro binding member
    exact (rendered binding.type).mp (List.mem_map_of_mem member)
  · intro variant member
    exact List.mem_map.mp ((rendered variant.type.render).mpr ⟨variant, member, rfl⟩)

/-- A contract that compiles does so for both forms of dispatch, and a list with one binding for each
rendered implementer type makes dispatchers of both forms. -/
theorem exists_serveTogether {declaration : ContractDeclaration} {options : CompilationOptions}
    {contract : CompiledContract} (compiled : declaration.compile options = .compiled contract)
    {request : Option DispatchRequest} (closed : ∀ name, request ≠ some (.openHandle name))
    (handleName : Located String) {bindings : List Binding}
    (types : (bindings.map (·.type)).Nodup)
    (bound : ∀ type, type ∈ bindings.map (·.type) ↔
      type ∈ contract.model.implementers.map (·.type.render))
    (exclusive : ∀ value, bindings.Pairwise fun earlier later =>
      ¬ (earlier.recognizes value = true ∧ later.recognizes value = true))
    (externals defaults : List (String × Body)) :
    ∃ unionContract handleContract union handles,
      (declaration.withDispatch request).compile options = .compiled unionContract ∧
      (declaration.withDispatch (some (.openHandle handleName))).compile options =
        .compiled handleContract ∧
      Dispatcher.create unionContract ⟨bindings, externals, defaults⟩ =
        .ok (.closedUnion union) ∧
      Dispatcher.create handleContract ⟨bindings, externals, defaults⟩ =
        .ok (.openHandle handles) ∧
      contract.SameInterface union.scope.compiled ∧ ServeTogether bindings union handles := by
  obtain ⟨unionContract, unionCompiled, sameUnion, unionDispatch⟩ :=
    compile_withDispatch compiled request
  obtain ⟨handleContract, handleCompiled, sameHandle, handleDispatch⟩ :=
    compile_withDispatch compiled (some (.openHandle handleName))
  obtain ⟨dispatch, selected⟩ := Dispatch.exists_closedUnion_of_select declaration closed
    unionContract.model.implementers unionContract.model.scalar unionContract.model.context
    unionContract.adaptation.methods
  obtain ⟨opened, selectedHandle⟩ : ∃ opened, handleContract.dispatch = .openHandle opened :=
    ⟨_, handleDispatch⟩
  rw [selected] at unionDispatch
  rw [sameUnion.implementers] at bound
  have exposes := exposes_of_compiled unionCompiled unionDispatch
  obtain ⟨union, created⟩ := exists_create_union exposes bound ⟨unionContract, defaults⟩
  have sameScope := (UnionDispatcher.forall₂_of_create exposes.tags created).1
  refine ⟨unionContract, handleContract, union,
    .create ⟨handleContract, defaults⟩ opened externals bindings, unionCompiled, handleCompiled,
    ?_, ?_, ?_, ?_⟩
  · simp only [Dispatcher.create, unionDispatch, created]
    rfl
  · simp only [Dispatcher.create, selectedHandle]
  · rwa [sameScope]
  · exact serveTogether_of_create exposes (sameUnion.symm.trans sameHandle) types exclusive created
      opened

/-- A contract behaves the same in both forms if it compiles for both and both make dispatchers from
the bindings, such that every value is refused by both for the same reason, or wrapped by both and
answers alike. The reason is an unknown implementer unless the value cannot even be named. -/
def FormsAgree (declaration : ContractDeclaration) (options : CompilationOptions)
    (contract : CompiledContract) (request : Option DispatchRequest)
    (handleName : Located String) (parts : DispatcherParts) : Prop :=
  ∃ unionContract handleContract union handles,
    (declaration.withDispatch request).compile options = .compiled unionContract ∧
    (declaration.withDispatch (some (.openHandle handleName))).compile options =
      .compiled handleContract ∧
    Dispatcher.create unionContract parts = .ok (.closedUnion union) ∧
    Dispatcher.create handleContract parts = .ok (.openHandle handles) ∧
    ∀ value,
      SameErrorOr (fun tagged handle => OperatesAlike declaration.methods
          contract.model.implementers union tagged handles handle)
        (wrap union value) (wrap handles value) ∧
      ∀ error, wrap union value = .error error →
        ((∃ implementer, error = .unknownImplementer contract.model.name implementer) ↔
          value.displayName?.isSome = true)

/-- Every contract that compiles behaves the same behind a tagged union and behind dynamic handles. -/
theorem compile_formsAgree {declaration : ContractDeclaration} {options : CompilationOptions}
    {contract : CompiledContract} (compiled : declaration.compile options = .compiled contract)
    {request : Option DispatchRequest} (closed : ∀ name, request ≠ some (.openHandle name))
    (handleName : Located String) {bindings : List Binding}
    (types : (bindings.map (·.type)).Nodup)
    (bound : ∀ type, type ∈ bindings.map (·.type) ↔
      type ∈ contract.model.implementers.map (·.type.render))
    (exclusive : ∀ value, bindings.Pairwise fun earlier later =>
      ¬ (earlier.recognizes value = true ∧ later.recognizes value = true))
    (externals defaults : List (String × Body)) :
    declaration.FormsAgree options contract request handleName
      ⟨bindings, externals, defaults⟩ := by
  obtain ⟨unionContract, handleContract, union, handles, unionCompiled, handleCompiled,
    unionCreated, handleCreated, same, together⟩ :=
      exists_serveTogether compiled closed handleName types bound exclusive externals defaults
  refine ⟨unionContract, handleContract, union, handles, unionCompiled, handleCompiled,
    unionCreated, handleCreated, ?_⟩
  have declared : ∀ method ∈ declaration.methods,
      union.dispatch.methods.any (·.ident == method.ident) = true := by
    intro method member
    rw [together.exposes.methods, ← same.adaptation, signatures_of_compiled compiled]
    simp only [List.any_map, List.any_eq_true]
    exact ⟨method, member, beq_self_eq_true method.ident⟩
  intro value
  refine ⟨?_, ?_⟩
  · rw [same.implementers]
    exact together.agree declared value
  · intro error refused
    rw [together.refusal refused, ← DispatchError.ofUnrecognized_eq_unknownImplementer_iff]
    rw [CallScope.contract, ← same.name]

theorem exclusive_droid_human (value : Value) :
    [droidBinding, humanBinding].Pairwise fun earlier later =>
      ¬ (earlier.recognizes value = true ∧ later.recognizes value = true) := by
  simp only [List.pairwise_pair]
  rintro ⟨isDroid, isHuman⟩
  cases value with
  | record origin entries =>
      cases origin with
      | ofClass name =>
          simp only [droidBinding, humanBinding, Value.isInstanceOf, beq_iff_eq] at isDroid isHuman
          simp [isDroid] at isHuman
      | plain => cases isDroid
      | bare => cases isDroid
  | _ => cases isDroid

theorem compile_formsAgree_character :
    character.compile = .compiled characterContract ∧
      (∀ name, (none : Option DispatchRequest) ≠ some (.openHandle name)) ∧
      ([droidBinding, humanBinding].map (·.type)).Nodup ∧
      (∀ type, type ∈ [droidBinding, humanBinding].map (·.type) ↔
        type ∈ characterContract.model.implementers.map (·.type.render)) ∧
      (∀ value, [droidBinding, humanBinding].Pairwise fun earlier later =>
        ¬ (earlier.recognizes value = true ∧ later.recognizes value = true)) ∧
      character.FormsAgree {} characterContract none ⟨"DynCharacter", ⟨1, 1⟩⟩
        ⟨[droidBinding, humanBinding], [], []⟩ := by
  have closed : ∀ name, (none : Option DispatchRequest) ≠ some (.openHandle name) := by
    intro name
    exact nofun
  have types : ([droidBinding, humanBinding].map (·.type)).Nodup := by decide
  have bound : ∀ type, type ∈ [droidBinding, humanBinding].map (·.type) ↔
      type ∈ characterContract.model.implementers.map (·.type.render) := by
    have rendered : characterContract.model.implementers.map (·.type.render) =
        ["Human<'a>", "model::Droid"] := by decide +kernel
    intro type
    rw [rendered]
    simp [droidBinding, humanBinding, or_comm]
  exact ⟨compile_character, closed, types, bound, exclusive_droid_human,
    compile_formsAgree compile_character closed _ types bound exclusive_droid_human [] []⟩

/-- Both forms refuse a record whose class has no name to write, and neither as one of an unknown
implementer. -/
theorem unwritable_refused :
    dynamicCharacter.compile = .compiled characterHandles.scope.compiled ∧
      Dispatcher.create characterContract ⟨[droidBinding, humanBinding], [], []⟩ =
        .ok (.closedUnion (characterDispatcher droidBinding)) ∧
      Dispatcher.create characterHandles.scope.compiled ⟨[droidBinding, humanBinding], [], []⟩ =
        .ok (.openHandle characterHandles) ∧
      ¬ ((∃ tagged handle, wrap (characterDispatcher droidBinding) unwritable = .ok tagged ∧
          wrap characterHandles unwritable = .ok handle) ∨
        ∃ contract implementer,
          wrap (characterDispatcher droidBinding) unwritable =
            .error (.unknownImplementer contract implementer) ∧
          wrap characterHandles unwritable =
            .error (.unknownImplementer contract implementer)) := by
  have created : UnionDispatcher.create ⟨characterContract, []⟩ characterUnion
      [droidBinding, humanBinding] = .ok (characterDispatcher droidBinding) :=
    create_characterDispatcher rfl
  have union : wrap (characterDispatcher droidBinding) unwritable = .error .unwritableName := rfl
  refine ⟨compile_dynamicCharacter, ?_, ?_, ?_⟩
  · simp only [Dispatcher.create, dispatch_characterContract, created]
    rfl
  · rfl
  · rw [union]
    simp

end ContractDeclaration

end InterfaceContract
