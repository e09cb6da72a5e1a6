/-
This file says which calls an asynchronous contract refuses at once, and shows that it defers all
others.
-/

import InterfaceContract.Proofs.Dispatcher.Deferral

namespace InterfaceContract

open HistoryForm

namespace Outcome

def Deferred (outcome : Outcome) : Prop :=
  ∃ result, outcome = .deferred result

/-- An outcome is deferred unless the call is refused before it starts. -/
def DeferredUnless (refusal : Option DispatchError) (outcome : Outcome) : Prop :=
  match refusal with
  | none => outcome.Deferred
  | some error => outcome = .refuse error

theorem deferred_deferIf {asynchronous : Bool} (forced : asynchronous = true) (outcome : Outcome) :
    (deferIf asynchronous outcome).Deferred := by
  rw [forced]
  exact ⟨_, rfl⟩

end Outcome

/-- A name that no field has is refused before the call starts. -/
def InterfaceModel.fieldRefusal (model : InterfaceModel) (name : String) : Option DispatchError :=
  if name ∈ model.fields.map (·.name) then none else some (.unknownField model.name name)

/-- So is a method that a union does not expose. Handles refuse no method. -/
def Dispatch.methodRefusal : Dispatch → String → Option DispatchError
  | .openHandle _, _ => none
  | .closedUnion dispatch, method =>
      if method ∈ dispatch.methods.map (·.ident) then none
      else some (.unknownMethod dispatch.ident method)

/-- The calls on a wrapped value are deferred unless their name is refused. -/
structure DefersUnlessRefused {δ η : Type} [DispatchForm δ η]
    (contract : CompiledContract) (dispatcher : δ) (wrapped : η) : Prop where
  readField : ∀ name supplied environment,
    (DispatchForm.readField dispatcher wrapped name supplied environment).DeferredUnless
      (contract.model.fieldRefusal name)
  call : ∀ method parameters,
    (DispatchForm.call dispatcher wrapped method parameters).DeferredUnless
      (contract.dispatch.methodRefusal method)

namespace CallScope

variable {scope : CallScope} {name : String} {next : Field → Outcome}

theorem lookup_field_deferredUnless (deferred : ∀ field, (next field).Deferred) :
    (Outcome.lookup (scope.field name) next).DeferredUnless
      (scope.compiled.model.fieldRefusal name) := by
  rw [InterfaceModel.fieldRefusal]
  by_cases known : name ∈ scope.compiled.model.fields.map (·.name)
  · obtain ⟨field, member, rfl⟩ := List.mem_map.mp known
    obtain ⟨found, named⟩ := exists_field member
    rw [if_pos known, named]
    exact deferred found
  · rw [if_neg known, field_of_unknown known]
    rfl

end CallScope

/-- What is called on a live value is deferred once its name has been looked up. -/
theorem HistoryForm.Live.defersUnlessRefused {δ η ρ : Type} [HistoryForm δ η ρ] [StableForm δ]
    {dispatcher : δ} {wrapped : η} {bound : BoundValue} (live : Live dispatcher wrapped bound)
    (forced : (scope dispatcher).asynchronous = true)
    (exposed : ∀ method (outcome : Outcome), outcome.Deferred →
      (Outcome.lookup (checkMethod dispatcher method) fun _ => outcome).DeferredUnless
        ((scope dispatcher).compiled.dispatch.methodRefusal method)) :
    DefersUnlessRefused (scope dispatcher).compiled dispatcher wrapped where
  readField := by
    intro name supplied environment
    rw [live.readField]
    exact CallScope.lookup_field_deferredUnless fun field => Outcome.deferred_deferIf forced _
  call := by
    intro method parameters
    rw [live.call]
    exact exposed method _ (Outcome.deferred_deferIf forced _)

/-- Whatever a dispatcher wraps in the course of a history, the calls on it are deferred from then on
unless their name is refused. -/
def DefersHistoriesUnlessRefused {δ η ρ : Type} [HistoryForm δ η ρ] (contract : CompiledContract)
    (dispatcher : δ) : Prop :=
  ∀ (earlier later : List ρ) (request : ρ) (wrapped : η),
    answer (run dispatcher earlier) request = some (.ok wrapped) →
      DefersUnlessRefused contract (run dispatcher (earlier ++ request :: later)) wrapped

namespace HandleDispatcher

theorem defersHistoriesUnlessRefused {dispatcher : HandleDispatcher} {dispatch : HandleDispatch}
    (forced : dispatcher.scope.asynchronous = true)
    (opened : dispatcher.scope.compiled.dispatch = .openHandle dispatch) :
    DefersHistoriesUnlessRefused dispatcher.scope.compiled dispatcher := by
  intro earlier later request handle answered
  obtain ⟨bound, -, live⟩ := live_of_answer answered
  have sameScope : HistoryForm.scope (run dispatcher (earlier ++ request :: later)) =
      dispatcher.scope := scope_run dispatcher _
  rw [← sameScope] at forced opened ⊢
  apply (live.later request later).defersUnlessRefused forced
  intro method outcome deferred
  rw [opened]
  exact deferred

end HandleDispatcher

namespace UnionDispatcher

/-- A union checks a method against those that it exposes. -/
theorem lookup_checkMethod_deferredUnless {dispatcher : UnionDispatcher} {method : String}
    {outcome : Outcome} (deferred : outcome.Deferred) :
    (Outcome.lookup (dispatcher.checkMethod method) fun _ => outcome).DeferredUnless
      ((Dispatch.closedUnion dispatcher.dispatch).methodRefusal method) := by
  have exposed : dispatcher.dispatch.methods.any (·.ident == method) = true ↔
      method ∈ dispatcher.dispatch.methods.map (·.ident) := by
    simp
  rw [checkMethod, Dispatch.methodRefusal]
  by_cases known : method ∈ dispatcher.dispatch.methods.map (·.ident)
  · rw [if_pos known, if_pos (exposed.mpr known)]
    exact deferred
  · rw [if_neg known, if_neg (mt exposed.mp known)]
    rfl

theorem defersHistoriesUnlessRefused {dispatcher : UnionDispatcher}
    (distinct : (dispatcher.variants.map (·.1)).Nodup)
    (forced : dispatcher.scope.asynchronous = true)
    (closed : dispatcher.scope.compiled.dispatch = .closedUnion dispatcher.dispatch) :
    DefersHistoriesUnlessRefused dispatcher.scope.compiled dispatcher := by
  intro earlier later request tagged answered
  rw [run_eq] at answered ⊢
  obtain ⟨bound, -, live⟩ := live_of_answer distinct (Option.some.inj answered)
  apply live.defersUnlessRefused forced
  intro method outcome deferred
  change Outcome.DeferredUnless (dispatcher.scope.compiled.dispatch.methodRefusal method) _
  rw [closed]
  exact lookup_checkMethod_deferredUnless deferred

end UnionDispatcher

namespace Dispatcher

/-- A dispatcher of either form defers its calls unless their name is refused. -/
def DefersUnlessRefused (contract : CompiledContract) : Dispatcher → Prop
  | .openHandle handles => DefersHistoriesUnlessRefused contract handles
  | .closedUnion union => DefersHistoriesUnlessRefused contract union

/-- Every dispatcher of an asynchronous contract defers what is called on its values, whatever comes
of it, unless the name that is called is refused at once. -/
theorem create_defersUnlessRefused {contract : CompiledContract} {parts : DispatcherParts}
    {dispatcher : Dispatcher} (asynchronous : contract.adaptation.asynchronous = true)
    (created : create contract parts = .ok dispatcher) :
    dispatcher.DefersUnlessRefused contract := by
  obtain ⟨dispatch, opened, rfl⟩ | ⟨dispatch, union, closed, made, rfl⟩ := form_of_create created
  · exact HandleDispatcher.defersHistoriesUnlessRefused asynchronous opened
  · have distinct := UnionDispatcher.nodup_tags_of_create made
    obtain ⟨-, variants, -, rfl⟩ := UnionDispatcher.create_eq_ok_iff.mp made
    exact UnionDispatcher.defersHistoriesUnlessRefused distinct asynchronous closed

/-- The sample union, once its contract is forced to be asynchronous. -/
def asynchronousUnion : UnionDispatcher :=
  (characterDispatcher droidBinding).asAsync

theorem create_asynchronousUnion :
    create characterContract.asAsync ⟨[droidBinding, humanBinding], [], []⟩ =
      .ok (.closedUnion asynchronousUnion) := by
  have made : UnionDispatcher.create ⟨characterContract, []⟩ characterUnion
      [droidBinding, humanBinding] = .ok (characterDispatcher droidBinding) :=
    create_characterDispatcher rfl
  rw [create_asAsync, create]
  simp only [dispatch_characterContract, made]
  rfl

theorem create_defersUnlessRefused_character :
    characterContract.asAsync.adaptation.asynchronous = true ∧
      create characterContract.asAsync ⟨[droidBinding, humanBinding], [], []⟩ =
        .ok (.closedUnion asynchronousUnion) ∧
      DefersUnlessRefused characterContract.asAsync (.closedUnion asynchronousUnion) :=
  ⟨rfl, create_asynchronousUnion, create_defersUnlessRefused rfl create_asynchronousUnion⟩

/-- An asynchronous contract refuses an unknown field and an unknown method at once, where it promises
an answer later on. -/
theorem asynchronousUnion_not_deferred :
    (character.forceAsync ⟨1, 1⟩).compile = .compiled characterContract.asAsync ∧
      characterContract.asAsync.adaptation.asynchronous = true ∧
      create characterContract.asAsync ⟨[droidBinding, humanBinding], [], []⟩ =
        .ok (.closedUnion asynchronousUnion) ∧
      asynchronousUnion.wrap settler = .ok ⟨"Human", settler⟩ ∧
      ¬ (asynchronousUnion.readField ⟨"Human", settler⟩ "height" [] {}).Deferred ∧
      ¬ (asynchronousUnion.call ⟨"Human", settler⟩ "height" []).Deferred := by
  have found : character.directives = .found characterDirectives := rfl
  have forced := ContractDeclaration.compile_forceAsync found rfl ⟨1, 1⟩ {}
  rw [compile_character] at forced
  have unknownField : "height" ∉ characterContract.model.fields.map (·.name) := by decide +kernel
  have unknownMethod : ¬ asynchronousUnion.dispatch.methods.any (·.ident == "height") = true := by
    decide +kernel
  refine ⟨forced, rfl, create_asynchronousUnion, rfl, ?_, ?_⟩
  · rw [UnionDispatcher.readField, CallScope.field_of_unknown unknownField]
    rintro ⟨result, ⟨⟩⟩
  · rw [UnionDispatcher.call, if_neg unknownMethod]
    rintro ⟨result, ⟨⟩⟩

end Dispatcher

end InterfaceContract
