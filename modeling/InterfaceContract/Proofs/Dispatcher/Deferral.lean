/-
This file shows that forcing a contract to be asynchronous defers what its dispatchers answer to calls,
and changes nothing else about them.
-/

import InterfaceContract.Proofs.Contract.Asynchrony
import InterfaceContract.Proofs.Dispatcher.Agreement
import InterfaceContract.Proofs.Dispatcher.History

namespace InterfaceContract

open HistoryForm

namespace Outcome

def Prompt (outcome : Outcome) : Prop :=
  ∃ result, outcome = .immediate result

/-- An outcome defers another if it comes to the same, a value or an error, but later on. -/
def Defers (deferred prompt : Outcome) : Prop :=
  ∃ result, prompt = .immediate result ∧ deferred = .deferred result

theorem prompt_refuse (error : DispatchError) : (refuse error).Prompt :=
  ⟨_, rfl⟩

theorem prompt_lookup {α : Type} (found : Except DispatchError α) {next : α → Outcome}
    (prompt : ∀ value, (next value).Prompt) : (lookup found next).Prompt := by
  cases found with
  | ok value => exact prompt value
  | error error => exact prompt_refuse error

theorem Prompt.defers_deferIf {outcome : Outcome} (prompt : outcome.Prompt) :
    (deferIf true outcome).Defers (deferIf false outcome) := by
  obtain ⟨result, rfl⟩ := prompt
  exact ⟨result, rfl, rfl⟩

end Outcome

/-- A body is prompt if it answers at once, whatever it is called with. -/
def Body.Prompt (body : Body) : Prop :=
  ∀ self parameters, (body self parameters).Prompt

def Binding.Prompt (binding : Binding) : Prop :=
  ∀ entry ∈ binding.methods, entry.2.Prompt

/-- All methods that a dispatcher is created with are prompt. Downcast functions need not be. -/
structure DispatcherParts.Prompt (parts : DispatcherParts) : Prop where
  bindings : ∀ binding ∈ parts.bindings, binding.Prompt
  defaults : ∀ entry ∈ parts.defaults, entry.2.Prompt

namespace CallScope

/-- The same scope over asynchronous signatures. -/
def asAsync (scope : CallScope) : CallScope where
  compiled := scope.compiled.asAsync
  defaults := scope.defaults

variable {scope : CallScope} {bound : BoundValue}

theorem prompt_serve (defaults : ∀ entry ∈ scope.defaults, entry.2.Prompt)
    (methods : bound.binding.Prompt) (method : String) (parameters : List Value) :
    (scope.serve bound method parameters).Prompt := by
  rw [serve]
  cases found : scope.body? bound.binding method with
  | none => exact Outcome.prompt_refuse _
  | some body =>
      rw [body?, Option.or_eq_some_iff] at found
      rcases found with own | ⟨-, fallback⟩
      · exact methods _ (mem_of_lookup_eq_some own) bound.value parameters
      · exact defaults _ (mem_of_lookup_eq_some fallback) bound.value parameters

end CallScope

/-- The calls on a wrapped value are deferred if one dispatcher answers each at once, and another one
answers the same later on. -/
structure DefersCalls {δ η : Type} [DispatchForm δ η] (model : InterfaceModel)
    (methods : List Method) (prompt deferring : δ) (wrapped : η) : Prop where
  readField : ∀ field ∈ model.fields, ∀ supplied environment,
    (DispatchForm.readField deferring wrapped field.name supplied environment).Defers
      (DispatchForm.readField prompt wrapped field.name supplied environment)
  call : ∀ method ∈ methods, ∀ parameters,
    (DispatchForm.call deferring wrapped method.ident parameters).Defers
      (DispatchForm.call prompt wrapped method.ident parameters)

/-- A dispatcher only defers what another one does if, after every history, it answers requests alike
and treats wrapped values alike, but for the calls, which it defers. Only prompt bindings may be added
before a value is wrapped. -/
structure DefersHistories {δ η ρ : Type} [HistoryForm δ η ρ] (promptRequest : ρ → Prop)
    (model : InterfaceModel) (methods : List Method) (prompt deferring : δ) : Prop where
  answer : ∀ history request,
    answer (run deferring history) request = answer (run prompt history) request
  implementerName : ∀ history (wrapped : η),
    DispatchForm.implementerName (run deferring history) wrapped =
      DispatchForm.implementerName (run prompt history) wrapped
  constant : ∀ history (wrapped : η) name,
    DispatchForm.constant (run deferring history) wrapped name =
      DispatchForm.constant (run prompt history) wrapped name
  downcast : ∀ history (wrapped : η) type context,
    DispatchForm.downcast (run deferring history) wrapped type context =
      DispatchForm.downcast (run prompt history) wrapped type context
  calls : ∀ earlier request later (wrapped : η),
    (∀ before ∈ earlier, promptRequest before) →
      HistoryForm.answer (run prompt earlier) request = some (.ok wrapped) →
        DefersCalls model methods (run prompt (earlier ++ request :: later))
          (run deferring (earlier ++ request :: later)) wrapped

/-- What both dispatchers serve alike, the asynchronous one defers. -/
theorem HistoryForm.Live.defersCalls {δ η ρ : Type} [HistoryForm δ η ρ] [StableForm δ]
    {prompt deferring : δ} {wrapped : η} {bound : BoundValue} (live : Live prompt wrapped bound)
    (liveDeferring : Live deferring wrapped bound)
    (scopes : scope deferring = (scope prompt).asAsync)
    (synchronous : (scope prompt).asynchronous = false)
    (defaults : ∀ entry ∈ (scope prompt).defaults, entry.2.Prompt) (own : bound.binding.Prompt)
    {methods : List Method}
    (checked : ∀ method ∈ methods, checkMethod prompt method.ident = .ok () ∧
      checkMethod deferring method.ident = .ok ()) :
    DefersCalls (scope prompt).compiled.model methods prompt deferring wrapped where
  readField := by
    intro field member supplied environment
    obtain ⟨found, named⟩ := CallScope.exists_field member
    have namedDeferring : (scope deferring).field field.name = .ok found := by
      rw [scopes]
      exact named
    rw [live.readField, liveDeferring.readField, named, namedDeferring, scopes, synchronous]
    exact (Outcome.prompt_lookup _ fun parameters =>
      CallScope.prompt_serve defaults own found.method parameters).defers_deferIf
  call := by
    intro method member parameters
    obtain ⟨exposed, exposedDeferring⟩ := checked method member
    rw [live.call, liveDeferring.call, exposed, exposedDeferring, scopes, synchronous]
    exact (CallScope.prompt_serve defaults own method.ident parameters).defers_deferIf

namespace HandleDispatcher

variable {dispatcher : HandleDispatcher}

/-- The same dispatcher over asynchronous signatures. -/
def asAsync (dispatcher : HandleDispatcher) : HandleDispatcher :=
  { dispatcher with scope := dispatcher.scope.asAsync }

theorem live_asAsync {handle : DynamicHandle} {bound : BoundValue}
    (live : Live dispatcher handle bound) : Live dispatcher.asAsync handle bound :=
  ⟨live.served, live.recognized⟩

/-- A request is prompt unless it adds a binding that is not. -/
def Request.Prompt : Request → Prop
  | .wrap _ => True
  | .add binding => binding.Prompt

theorem run_asAsync (dispatcher : HandleDispatcher) (history : List Request) :
    run dispatcher.asAsync history = (run dispatcher history).asAsync := by
  induction history generalizing dispatcher with
  | nil => rfl
  | cons request history inductionHypothesis =>
      cases request with
      | wrap value => exact inductionHypothesis dispatcher
      | add binding => exact inductionHypothesis (dispatcher.add binding)

theorem prompt_addBinding {bindings : List Binding} {binding : Binding}
    (prompt : ∀ bound ∈ bindings, bound.Prompt) (added : binding.Prompt) :
    ∀ bound ∈ addBinding bindings binding, bound.Prompt := by
  intro bound member
  rcases List.mem_append.mp member with kept | last
  · exact prompt bound (List.mem_of_mem_filter kept)
  · rwa [List.mem_singleton.mp last]

theorem prompt_foldl_addBinding {bindings : List Binding}
    (prompt : ∀ binding ∈ bindings, binding.Prompt) :
    ∀ bound ∈ bindings.foldl addBinding [], bound.Prompt := by
  apply List.foldlRecOn bindings addBinding (motive := fun kept => ∀ bound ∈ kept, bound.Prompt)
  · exact List.forall_mem_nil _
  · intro kept promptKept binding member
    exact prompt_addBinding promptKept (prompt binding member)

/-- Prompt requests leave the bindings prompt. -/
theorem prompt_run (prompt : ∀ binding ∈ dispatcher.bindings, binding.Prompt)
    {history : List Request} (requests : ∀ request ∈ history, request.Prompt) :
    ∀ binding ∈ (run dispatcher history).bindings, binding.Prompt := by
  induction history generalizing dispatcher with
  | nil => exact prompt
  | cons request history inductionHypothesis =>
      obtain ⟨first, rest⟩ := List.forall_mem_cons.mp requests
      cases request with
      | wrap value => exact inductionHypothesis prompt rest
      | add binding =>
          have promptAdded : ∀ bound ∈ (dispatcher.add binding).bindings, bound.Prompt :=
            prompt_addBinding prompt first
          exact inductionHypothesis promptAdded rest

/-- What recognizes a value is one of the bindings. -/
theorem mem_of_recognition {request : Request} {bound : BoundValue}
    (recognized : dispatcher.recognition request = some bound) :
    bound.binding ∈ dispatcher.bindings := by
  cases request with
  | wrap value =>
      obtain ⟨binding, found, rfl⟩ := Option.map_eq_some_iff.mp recognized
      exact List.mem_of_find?_eq_some found
  | add binding => cases recognized

/-- A dispatcher of handles over asynchronous signatures only defers. -/
theorem defersHistories (dispatcher : HandleDispatcher)
    (synchronous : dispatcher.scope.asynchronous = false)
    (defaults : ∀ entry ∈ dispatcher.scope.defaults, entry.2.Prompt)
    (bindings : ∀ binding ∈ dispatcher.bindings, binding.Prompt) (methods : List Method) :
    DefersHistories Request.Prompt dispatcher.scope.compiled.model methods dispatcher
      dispatcher.asAsync where
  answer history request := by
    rw [run_asAsync]
    cases request <;> rfl
  implementerName history handle := rfl
  constant history handle name := rfl
  downcast history handle type context := by
    rw [run_asAsync]
    rfl
  calls := by
    intro earlier request later handle requests answered
    obtain ⟨bound, recognized, live⟩ := live_of_answer answered
    have own := prompt_run bindings requests bound.binding (mem_of_recognition recognized)
    have sameScope : HistoryForm.scope (run dispatcher (earlier ++ request :: later)) =
        dispatcher.scope := scope_run dispatcher _
    have liveLater := live.later request later
    rw [run_asAsync, ← sameScope]
    apply liveLater.defersCalls (live_asAsync liveLater) rfl
    · rwa [sameScope]
    · rwa [sameScope]
    · exact own
    · exact fun method _ => ⟨rfl, rfl⟩

end HandleDispatcher

namespace UnionDispatcher

variable {scope : CallScope} {dispatch : UnionDispatch} {bindings : List Binding}
  {dispatcher : UnionDispatcher}

/-- The same dispatcher over asynchronous signatures. -/
def asAsync (dispatcher : UnionDispatcher) : UnionDispatcher where
  scope := dispatcher.scope.asAsync
  dispatch := dispatcher.dispatch.asAsync
  variants := dispatcher.variants

/-- The bindings of a union do not depend on its signatures. -/
theorem create_asAsync (scope : CallScope) (dispatch : UnionDispatch) (bindings : List Binding) :
    create scope.asAsync dispatch.asAsync bindings =
      (create scope dispatch bindings).map asAsync := by
  have checked : checkBindings scope.asAsync dispatch.asAsync bindings =
      checkBindings scope dispatch bindings := rfl
  have bound : dispatch.asAsync.variants.mapM (bindVariant scope.asAsync bindings) =
      dispatch.variants.mapM (bindVariant scope bindings) := rfl
  rw [create, create, checked, bound]
  cases checkBindings scope dispatch bindings with
  | error problem => rfl
  | ok _ =>
      cases dispatch.variants.mapM (bindVariant scope bindings) with
      | error problem => rfl
      | ok variants => rfl

theorem live_asAsync {tagged : TaggedValue} {bound : BoundValue}
    (live : Live dispatcher tagged bound) : Live dispatcher.asAsync tagged bound :=
  ⟨live.served, live.recognized⟩

theorem checkMethod_asAsync (dispatcher : UnionDispatcher) (method : String) :
    dispatcher.asAsync.checkMethod method = dispatcher.checkMethod method := by
  simp [checkMethod, asAsync, UnionDispatch.asAsync, Signature.asAsync, Function.comp_def]

/-- What recognizes a value is the binding of a variant. -/
theorem mem_of_recognition {request : Request} {bound : BoundValue}
    (recognized : dispatcher.recognition request = some bound) :
    ∃ variant ∈ dispatcher.variants, variant.2 = bound.binding := by
  cases request with
  | wrap value =>
      obtain ⟨variant, found, rfl⟩ := Option.map_eq_some_iff.mp recognized
      exact ⟨variant, List.mem_of_find?_eq_some found, rfl⟩
  | ofVariant tag value =>
      obtain ⟨binding, kept, rfl⟩ := Option.map_eq_some_iff.mp recognized
      obtain ⟨found, -⟩ := Option.filter_eq_some_iff.mp kept
      exact ⟨(tag, binding), mem_of_lookup_eq_some found, rfl⟩

/-- A union over asynchronous signatures only defers. -/
theorem defersHistories (distinct : (dispatcher.variants.map (·.1)).Nodup)
    (synchronous : dispatcher.scope.asynchronous = false)
    (defaults : ∀ entry ∈ dispatcher.scope.defaults, entry.2.Prompt)
    (bindings : ∀ variant ∈ dispatcher.variants, variant.2.Prompt) {methods : List Method}
    (exposed : ∀ method ∈ methods, dispatcher.checkMethod method.ident = .ok ()) :
    DefersHistories (fun _ => True) dispatcher.scope.compiled.model methods dispatcher
      dispatcher.asAsync where
  answer history request := by
    rw [run_eq, run_eq]
    cases request <;> rfl
  implementerName history tagged := rfl
  constant history tagged name := by
    rw [run_eq, run_eq]
    rfl
  downcast history tagged type context := by
    rw [run_eq, run_eq]
    rfl
  calls := by
    intro earlier request later tagged _ answered
    rw [run_eq] at answered
    rw [run_eq, run_eq]
    obtain ⟨bound, recognized, live⟩ := live_of_answer distinct (Option.some.inj answered)
    obtain ⟨variant, member, own⟩ := mem_of_recognition recognized
    apply live.defersCalls (live_asAsync live) rfl synchronous defaults
    · rw [← own]
      exact bindings variant member
    · intro method declared
      have checked := exposed method declared
      exact ⟨checked, (checkMethod_asAsync dispatcher method.ident).trans checked⟩

end UnionDispatcher

namespace Dispatcher

def asAsync : Dispatcher → Dispatcher
  | .openHandle dispatcher => .openHandle dispatcher.asAsync
  | .closedUnion dispatcher => .closedUnion dispatcher.asAsync

theorem create_asAsync (contract : CompiledContract) (parts : DispatcherParts) :
    create contract.asAsync parts = (create contract parts).map asAsync := by
  rcases contract with ⟨model, dispatch, adaptation⟩
  cases dispatch with
  | openHandle dispatch => rfl
  | closedUnion dispatch =>
      let scope : CallScope := ⟨⟨model, .closedUnion dispatch, adaptation⟩, parts.defaults⟩
      change closedUnion <$> UnionDispatcher.create scope.asAsync dispatch.asAsync parts.bindings =
        (closedUnion <$> UnionDispatcher.create scope dispatch parts.bindings).map asAsync
      rw [UnionDispatcher.create_asAsync]
      cases UnionDispatcher.create scope dispatch parts.bindings with
      | error problem => rfl
      | ok union => rfl

/-- A dispatcher only defers what another one of the same form does. -/
def OnlyDefers (model : InterfaceModel) (methods : List Method) : Dispatcher → Dispatcher → Prop
  | .openHandle prompt, .openHandle deferring =>
      DefersHistories HandleDispatcher.Request.Prompt model methods prompt deferring
  | .closedUnion prompt, .closedUnion deferring =>
      DefersHistories (fun _ => True) model methods prompt deferring
  | _, _ => False

/-- What is created for a contract with asynchronous signatures only defers. -/
theorem onlyDefers_asAsync {contract : CompiledContract} {parts : DispatcherParts}
    {dispatcher : Dispatcher} {methods : List Method} (prompt : parts.Prompt)
    (synchronous : contract.adaptation.asynchronous = false)
    (exposes : ∀ dispatch, contract.dispatch = .closedUnion dispatch → dispatch.Exposes contract)
    (declared : ∀ method ∈ methods, ∃ signature ∈ contract.adaptation.methods,
      signature.ident = method.ident)
    (created : create contract parts = .ok dispatcher) :
    OnlyDefers contract.model methods dispatcher dispatcher.asAsync := by
  obtain ⟨dispatch, -, rfl⟩ | ⟨dispatch, union, closed, made, rfl⟩ := form_of_create created
  · exact HandleDispatcher.defersHistories
      (.create ⟨contract, parts.defaults⟩ dispatch parts.externals parts.bindings) synchronous
      prompt.defaults (HandleDispatcher.prompt_foldl_addBinding prompt.bindings) methods
  · have exposed := exposes dispatch closed
    have distinct := UnionDispatcher.nodup_tags_of_create made
    obtain ⟨sameScope, sameDispatch, bound⟩ := UnionDispatcher.forall₂_of_create exposed.tags made
    have model : contract.model = union.scope.compiled.model := by rw [sameScope]
    rw [model]
    apply UnionDispatcher.defersHistories distinct
    · rwa [sameScope]
    · rw [sameScope]
      exact prompt.defaults
    · intro variant member
      obtain ⟨_, -, binds⟩ := exists_mem_of_forall₂ bound member
      exact prompt.bindings variant.2 binds.mem
    · intro method member
      obtain ⟨signature, listed, sameIdent⟩ := declared method member
      rw [UnionDispatcher.checkMethod, sameDispatch, exposed.methods, if_pos]
      exact List.any_eq_true.mpr ⟨signature, listed, beq_iff_eq.mpr sameIdent⟩

end Dispatcher

/-- A compiled contract only defers what another one does if both differ in their signatures alone,
and in what their dispatchers do where all methods are prompt. -/
structure CompiledContract.OnlyDefers (methods : List Method)
    (prompt deferring : CompiledContract) : Prop where
  model : deferring.model = prompt.model
  dispatch : deferring.dispatch = prompt.dispatch.asAsync
  adaptation : deferring.adaptation = prompt.adaptation.asAsync
  dispatchers : ∀ parts : DispatcherParts, parts.Prompt →
    SameErrorOr (Dispatcher.OnlyDefers prompt.model methods) (Dispatcher.create prompt parts)
      (Dispatcher.create deferring parts)

namespace ContractDeclaration

/-- A contract without asynchronous methods, once it is forced to be asynchronous, is rejected for the
same reasons, or compiles to one that only defers. -/
theorem forceAsync_onlyDefers {declaration : ContractDeclaration} {directives : ContractDirectives}
    (found : declaration.directives = .found directives)
    (unforced : directives.asynchronous = none)
    (prompt : ∀ method ∈ declaration.methods, method.isAsync = false) (span : Span)
    (options : CompilationOptions) :
    Compilation.SameRejectionOr (CompiledContract.OnlyDefers declaration.methods)
      (declaration.compile options) ((declaration.forceAsync span).compile options) := by
  rw [compile_forceAsync found unforced]
  refine Compilation.sameRejectionOr_map fun contract compiled => ⟨rfl, rfl, rfl, ?_⟩
  intro parts promptParts
  rw [Dispatcher.create_asAsync]
  have signatures := signatures_of_compiled compiled
  have synchronous : contract.adaptation.asynchronous = false := by
    obtain ⟨_, same, -, rfl⟩ := clean_of_compiled compiled
    obtain rfl := Extraction.found.inj (found.symm.trans same)
    change Adaptation.isAsynchronous directives.asynchronous.isSome declaration.methods = false
    rw [unforced]
    exact Adaptation.isAsynchronous_eq_false prompt
  have declared : ∀ method ∈ declaration.methods, ∃ signature ∈ contract.adaptation.methods,
      signature.ident = method.ident := by
    intro method member
    rw [signatures]
    exact ⟨_, List.mem_map_of_mem member, rfl⟩
  cases created : Dispatcher.create contract parts with
  | error problem => rfl
  | ok dispatcher =>
      exact Dispatcher.onlyDefers_asAsync promptParts synchronous
        (fun dispatch closed => exposes_of_compiled compiled closed) declared created

theorem forceAsync_onlyDefers_character :
    character.directives = .found characterDirectives ∧ characterDirectives.asynchronous = none ∧
      (∀ method ∈ character.methods, method.isAsync = false) ∧
      DispatcherParts.Prompt ⟨[droidBinding, humanBinding], [], []⟩ ∧
      Compilation.SameRejectionOr (CompiledContract.OnlyDefers character.methods)
        character.compile ((character.forceAsync ⟨1, 1⟩).compile) := by
  have prompt : ∀ method ∈ character.methods, method.isAsync = false := by
    simp [character, methods, ContractDeclaration.ofOutline, ContractItem.method?, Method.ofOutline]
  refine ⟨rfl, rfl, prompt, ⟨?_, List.forall_mem_nil _⟩,
    forceAsync_onlyDefers rfl rfl prompt ⟨1, 1⟩ {}⟩
  simp only [List.forall_mem_cons]
  refine ⟨List.forall_mem_nil _, ?_, List.forall_mem_nil _⟩
  intro entry member self parameters
  obtain rfl := List.mem_singleton.mp member
  exact ⟨_, rfl⟩

end ContractDeclaration

end InterfaceContract
