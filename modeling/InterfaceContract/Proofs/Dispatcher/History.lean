/-
This file shows that a value which a dispatcher has wrapped stays usable, whatever the dispatcher is
asked to do afterwards.
-/

import InterfaceContract.Dispatcher.Form
import InterfaceContract.Proofs.Dispatcher.Creation
import InterfaceContract.Proofs.Dispatcher.Service

namespace InterfaceContract

/-- A form of dispatch with the requests that its histories consist of. A request may wrap a value,
and it may change the dispatcher. -/
class HistoryForm (δ : Type) (η ρ : outParam Type) extends DispatchForm δ η where
  scope : δ → CallScope
  /-- Whether a method can be called at all. -/
  checkMethod : δ → String → Except DispatchError Unit
  /-- The value behind a wrapped one, with the binding that serves it. -/
  boundOf : δ → η → Except DispatchError BoundValue
  /-- What a request returns, if it wraps a value. -/
  answer : δ → ρ → Option (Except DispatchError η)
  /-- The value that a request wraps, with the binding that recognizes it. -/
  recognition : δ → ρ → Option BoundValue
  /-- The dispatcher as a request leaves it. -/
  after : δ → ρ → δ

open HistoryForm

/-- A form is stable if calls depend on nothing that a request can change. -/
class StableForm (δ : Type) {η ρ : outParam Type} [HistoryForm δ η ρ] : Prop where
  readField_eq : ∀ (dispatcher : δ) (wrapped : η) name supplied environment,
    DispatchForm.readField dispatcher wrapped name supplied environment =
      .lookup ((scope dispatcher).field name) fun field =>
        .lookup (boundOf dispatcher wrapped) fun bound =>
          (scope dispatcher).runField bound.binding field bound.value supplied environment
  call_eq : ∀ (dispatcher : δ) (wrapped : η) method parameters,
    DispatchForm.call dispatcher wrapped method parameters =
      .lookup (checkMethod dispatcher method) fun _ =>
        .lookup (boundOf dispatcher wrapped) fun bound =>
          (scope dispatcher).runMethod bound.binding method bound.value parameters
  not_rejectsValue_of_checkMethod : ∀ (dispatcher : δ) method error,
    checkMethod dispatcher method = .error error → ¬ error.RejectsValue
  scope_after : ∀ (dispatcher : δ) (request : ρ),
    scope (after dispatcher request) = scope dispatcher
  boundOf_after : ∀ (dispatcher : δ) (request : ρ),
    boundOf (after dispatcher request) = boundOf dispatcher

namespace HistoryForm

variable {δ η ρ : Type} [HistoryForm δ η ρ]

/-- The dispatcher as a history leaves it. -/
def run (dispatcher : δ) (history : List ρ) : δ :=
  history.foldl after dispatcher

theorem run_append (dispatcher : δ) (earlier later : List ρ) :
    run dispatcher (earlier ++ later) = run (run dispatcher earlier) later :=
  List.foldl_append

/-- A wrapped value is live if the binding that serves it recognizes it. -/
structure Live (dispatcher : δ) (wrapped : η) (bound : BoundValue) : Prop where
  served : boundOf dispatcher wrapped = .ok bound
  recognized : bound.binding.recognizes bound.value = true

variable [StableForm δ] {dispatcher : δ} {wrapped : η} {bound : BoundValue}

/-- No request changes the binding of a wrapped value. -/
theorem Live.after (live : Live dispatcher wrapped bound) (request : ρ) :
    Live (after dispatcher request) wrapped bound where
  served := by rw [StableForm.boundOf_after, live.served]
  recognized := live.recognized

theorem Live.run (live : Live dispatcher wrapped bound) (history : List ρ) :
    Live (run dispatcher history) wrapped bound := by
  induction history generalizing dispatcher with
  | nil => exact live
  | cons request history inductionHypothesis => exact inductionHypothesis (live.after request)

/-- What is live when a request is answered is live however the history goes on. -/
theorem Live.later {earlier : List ρ} (live : Live (HistoryForm.run dispatcher earlier) wrapped bound)
    (request : ρ) (later : List ρ) :
    Live (HistoryForm.run dispatcher (earlier ++ request :: later)) wrapped bound := by
  rw [run_append]
  exact live.run (request :: later)

theorem scope_run (dispatcher : δ) (history : List ρ) :
    scope (run dispatcher history) = scope dispatcher := by
  induction history generalizing dispatcher with
  | nil => rfl
  | cons request history inductionHypothesis =>
      rw [run, List.foldl_cons]
      exact (inductionHypothesis _).trans (StableForm.scope_after dispatcher request)

end HistoryForm

/-- A wrapped value is served by a binding if every field and every method runs the body of that
binding, or else the default body, on the value. Nothing but such a body rejects the value. -/
structure ServedBy {δ η ρ : Type} [HistoryForm δ η ρ] (scope : CallScope) (dispatcher : δ)
    (wrapped : η) (bound : BoundValue) : Prop where
  readField : ∀ name supplied environment,
    DispatchForm.readField dispatcher wrapped name supplied environment =
      .lookup (scope.field name) fun field => .deferIf scope.asynchronous
        (.lookup (field.bindArguments supplied environment) fun parameters =>
          scope.serve bound field.method parameters)
  call : ∀ method parameters,
    DispatchForm.call dispatcher wrapped method parameters =
      .lookup (checkMethod dispatcher method) fun _ =>
        .deferIf scope.asynchronous (scope.serve bound method parameters)
  readField_raises : ∀ name supplied environment error, error.RejectsValue →
    (DispatchForm.readField dispatcher wrapped name supplied environment).Raises error →
      ∃ field parameters body, scope.field name = .ok field ∧
        field.bindArguments supplied environment = .ok parameters ∧
        scope.body? bound.binding field.method = some body ∧
        (body bound.value parameters).Raises error
  call_raises : ∀ method parameters error, error.RejectsValue →
    (DispatchForm.call dispatcher wrapped method parameters).Raises error →
      ∃ body, scope.body? bound.binding method = some body ∧
        (body bound.value parameters).Raises error

namespace HistoryForm

variable {δ η ρ : Type} [HistoryForm δ η ρ] [StableForm δ] {dispatcher : δ} {wrapped : η}
  {bound : BoundValue}

theorem Live.readField (live : Live dispatcher wrapped bound) (name : String)
    (supplied : List (String × Value)) (environment : Environment) :
    DispatchForm.readField dispatcher wrapped name supplied environment =
      .lookup ((scope dispatcher).field name) fun field =>
        .deferIf (scope dispatcher).asynchronous
          (.lookup (field.bindArguments supplied environment) fun parameters =>
            (scope dispatcher).serve bound field.method parameters) := by
  rw [StableForm.readField_eq, live.served]
  simp only [Outcome.lookup_ok, CallScope.runField, CallScope.runBody_eq_serve live.recognized]

theorem Live.call (live : Live dispatcher wrapped bound) (method : String)
    (parameters : List Value) :
    DispatchForm.call dispatcher wrapped method parameters =
      .lookup (checkMethod dispatcher method) fun _ =>
        .deferIf (scope dispatcher).asynchronous
          ((scope dispatcher).serve bound method parameters) := by
  rw [StableForm.call_eq, live.served]
  simp only [Outcome.lookup_ok, CallScope.runMethod, CallScope.runBody_eq_serve live.recognized]

/-- A live value is served by its binding. -/
theorem Live.servedBy (live : Live dispatcher wrapped bound) :
    ServedBy (scope dispatcher) dispatcher wrapped bound where
  readField := live.readField
  call := live.call
  readField_raises := by
    intro name supplied environment error rejects raised
    rw [live.readField] at raised
    obtain ⟨field, found, ran⟩ := Outcome.exists_of_raises_lookup rejects
      (fun _ => CallScope.not_rejectsValue_of_field) raised
    rw [Outcome.raises_deferIf_iff] at ran
    obtain ⟨parameters, supplies, served⟩ := Outcome.exists_of_raises_lookup rejects
      (fun _ => Field.not_rejectsValue_of_bindArguments) ran
    obtain ⟨body, provided, blamed⟩ := CallScope.exists_body_of_raises_serve rejects served
    exact ⟨field, parameters, body, found, supplies, provided, blamed⟩
  call_raises := by
    intro method parameters error rejects raised
    rw [live.call] at raised
    obtain ⟨_, -, ran⟩ := Outcome.exists_of_raises_lookup rejects
      (StableForm.not_rejectsValue_of_checkMethod dispatcher method) raised
    rw [Outcome.raises_deferIf_iff] at ran
    exact CallScope.exists_body_of_raises_serve rejects ran

end HistoryForm

/-- Whatever a dispatcher wraps in the course of a history is served from then on, whatever else is
requested, by the binding that recognized it when it was wrapped. -/
def ServesHistories {δ η ρ : Type} [HistoryForm δ η ρ] (scope : CallScope) (dispatcher : δ) : Prop :=
  ∀ (earlier later : List ρ) (request : ρ) (wrapped : η),
    answer (run dispatcher earlier) request = some (.ok wrapped) →
      ∃ bound, recognition (run dispatcher earlier) request = some bound ∧
        ServedBy scope (run dispatcher (earlier ++ request :: later)) wrapped bound

/-- It is enough that what a dispatcher wraps is live at that moment. -/
theorem servesHistories_of_live {δ η ρ : Type} [HistoryForm δ η ρ] [StableForm δ] {dispatcher : δ}
    (issues : ∀ (earlier : List ρ) (request : ρ) (wrapped : η),
      answer (run dispatcher earlier) request = some (.ok wrapped) →
        ∃ bound, recognition (run dispatcher earlier) request = some bound ∧
          Live (run dispatcher earlier) wrapped bound) :
    ServesHistories (scope dispatcher) dispatcher := by
  intro earlier later request wrapped answered
  obtain ⟨bound, recognized, live⟩ := issues earlier request wrapped answered
  refine ⟨bound, recognized, ?_⟩
  have served := (live.run (request :: later)).servedBy
  rwa [← run_append, scope_run] at served

namespace UnionDispatcher

/-- The requests that wrap a value in a union. -/
inductive Request where
  | wrap (value : Value)
  | ofVariant (tag : String) (value : Value)

/-- The check whether the union exposes a method. -/
def checkMethod (dispatcher : UnionDispatcher) (method : String) : Except DispatchError Unit :=
  if dispatcher.dispatch.methods.any (·.ident == method) then .ok ()
  else .error (.unknownMethod dispatcher.dispatch.ident method)

def answer (dispatcher : UnionDispatcher) : Request → Except DispatchError TaggedValue
  | .wrap value => dispatcher.wrap value
  | .ofVariant tag value => dispatcher.ofVariant tag value

/-- The binding of the first variant that recognizes a value, or the one of a given tag. -/
def recognition (dispatcher : UnionDispatcher) : Request → Option BoundValue
  | .wrap value =>
      (dispatcher.variants.find? (·.2.recognizes value)).map fun variant => ⟨variant.2, value⟩
  | .ofVariant tag value =>
      ((dispatcher.variants.lookup tag).filter (·.recognizes value)).map fun binding =>
        ⟨binding, value⟩

/-- The tag leads to the binding. -/
def boundOf (dispatcher : UnionDispatcher) (tagged : TaggedValue) :
    Except DispatchError BoundValue :=
  (dispatcher.binding tagged.tag).map fun binding => ⟨binding, tagged.value⟩

/-- The bindings of a union are settled when it is created. -/
instance : HistoryForm UnionDispatcher TaggedValue Request where
  scope := scope
  checkMethod := checkMethod
  boundOf := boundOf
  answer dispatcher request := some (dispatcher.answer request)
  recognition := recognition
  after dispatcher _ := dispatcher

theorem readField_eq (dispatcher : UnionDispatcher) (tagged : TaggedValue) (name : String)
    (supplied : List (String × Value)) (environment : Environment) :
    dispatcher.readField tagged name supplied environment =
      .lookup (dispatcher.scope.field name) fun field =>
        .lookup (dispatcher.boundOf tagged) fun bound =>
          dispatcher.scope.runField bound.binding field bound.value supplied environment := by
  rw [readField, boundOf]
  cases dispatcher.binding tagged.tag with
  | ok binding => rfl
  | error problem => rfl

theorem call_eq (dispatcher : UnionDispatcher) (tagged : TaggedValue) (method : String)
    (parameters : List Value) :
    dispatcher.call tagged method parameters =
      .lookup (dispatcher.checkMethod method) fun _ =>
        .lookup (dispatcher.boundOf tagged) fun bound =>
          dispatcher.scope.runMethod bound.binding method bound.value parameters := by
  rw [call, checkMethod, boundOf]
  split
  · cases dispatcher.binding tagged.tag with
    | ok binding => rfl
    | error problem => rfl
  · rfl

theorem not_rejectsValue_of_checkMethod (dispatcher : UnionDispatcher) (method : String)
    (error : DispatchError) (failed : dispatcher.checkMethod method = .error error) :
    ¬ error.RejectsValue := by
  rw [checkMethod] at failed
  split at failed
  · cases failed
  · cases failed
    exact id

instance : StableForm UnionDispatcher where
  readField_eq := readField_eq
  call_eq := call_eq
  not_rejectsValue_of_checkMethod := not_rejectsValue_of_checkMethod
  scope_after _ _ := rfl
  boundOf_after _ _ := rfl

theorem run_eq (dispatcher : UnionDispatcher) (history : List Request) :
    run dispatcher history = dispatcher := by
  induction history with
  | nil => rfl
  | cons request history inductionHypothesis => exact inductionHypothesis

/-- What a union wraps is live if no two of its tags clash. -/
theorem live_of_answer {dispatcher : UnionDispatcher}
    (distinct : (dispatcher.variants.map (·.1)).Nodup) {request : Request} {tagged : TaggedValue}
    (answered : dispatcher.answer request = .ok tagged) :
    ∃ bound, dispatcher.recognition request = some bound ∧ Live dispatcher tagged bound := by
  cases request with
  | wrap value =>
      rw [answer, wrap] at answered
      rw [recognition]
      cases found : dispatcher.variants.find? (·.2.recognizes value) with
      | none =>
          rw [found] at answered
          cases answered
      | some variant =>
          rw [found] at answered
          obtain rfl := Except.ok.inj answered
          have recognized : variant.2.recognizes value = true := by
            simpa using List.find?_some found
          refine ⟨⟨variant.2, value⟩, rfl, ?_, recognized⟩
          change dispatcher.boundOf ⟨variant.1, value⟩ = _
          rw [boundOf, binding_of_mem distinct (List.mem_of_find?_eq_some found)]
          rfl
  | ofVariant tag value =>
      rw [answer, ofVariant] at answered
      obtain ⟨binding, bound, checked⟩ := bind_eq_ok_iff.mp answered
      have found : dispatcher.variants.lookup tag = some binding := by
        rw [UnionDispatcher.binding] at bound
        split at bound
        · cases bound
          assumption
        · cases bound
      by_cases recognized : binding.recognizes value = true
      · rw [if_pos recognized] at checked
        obtain rfl := Except.ok.inj checked
        refine ⟨⟨binding, value⟩, ?_, ?_, recognized⟩
        · rw [recognition, found]
          simp [recognized]
        · change dispatcher.boundOf ⟨tag, value⟩ = _
          rw [boundOf, bound]
          rfl
      · rw [if_neg recognized] at checked
        cases checked

theorem servesHistories {dispatcher : UnionDispatcher}
    (distinct : (dispatcher.variants.map (·.1)).Nodup) :
    ServesHistories dispatcher.scope dispatcher := by
  refine servesHistories_of_live fun earlier request tagged answered => ?_
  rw [run_eq] at answered ⊢
  exact live_of_answer distinct (Option.some.inj answered)

end UnionDispatcher

namespace HandleDispatcher

/-- The requests to a dispatcher of handles: it wraps values and takes bindings. -/
inductive Request where
  | wrap (value : Value)
  | add (binding : Binding)

def answer (dispatcher : HandleDispatcher) :
    Request → Option (Except DispatchError DynamicHandle)
  | .wrap value => some (dispatcher.wrap value)
  | .add _ => none

/-- The first binding that recognizes a value at this moment. -/
def recognition (dispatcher : HandleDispatcher) : Request → Option BoundValue
  | .wrap value =>
      (dispatcher.bindings.find? (·.recognizes value)).map fun binding => ⟨binding, value⟩
  | .add _ => none

def after (dispatcher : HandleDispatcher) : Request → HandleDispatcher
  | .wrap _ => dispatcher
  | .add binding => dispatcher.add binding

/-- A handle keeps its binding, whatever bindings are added. -/
instance : HistoryForm HandleDispatcher DynamicHandle Request where
  scope := scope
  checkMethod _ _ := .ok ()
  boundOf _ handle := .ok ⟨handle.binding, handle.value⟩
  answer := answer
  recognition := recognition
  after := after

theorem scope_after (dispatcher : HandleDispatcher) (request : Request) :
    (dispatcher.after request).scope = dispatcher.scope := by
  cases request with
  | wrap value => rfl
  | add binding => rfl

instance : StableForm HandleDispatcher where
  readField_eq _ _ _ _ _ := rfl
  call_eq _ _ _ _ := rfl
  not_rejectsValue_of_checkMethod _ _ _ failed := nomatch failed
  scope_after := scope_after
  boundOf_after _ _ := rfl

/-- What a dispatcher of handles wraps is live. -/
theorem live_of_answer {dispatcher : HandleDispatcher} {request : Request} {handle : DynamicHandle}
    (answered : dispatcher.answer request = some (.ok handle)) :
    ∃ bound, dispatcher.recognition request = some bound ∧ Live dispatcher handle bound := by
  cases request with
  | add binding => cases answered
  | wrap value =>
      have wrapped : dispatcher.wrap value = .ok handle := Option.some.inj answered
      rw [wrap] at wrapped
      rw [recognition]
      cases found : dispatcher.bindings.find? (·.recognizes value) with
      | none =>
          rw [found] at wrapped
          cases wrapped
      | some binding =>
          rw [found] at wrapped
          obtain rfl := Except.ok.inj wrapped
          have recognized : binding.recognizes value = true := by
            simpa using List.find?_some found
          exact ⟨⟨binding, value⟩, rfl, rfl, recognized⟩

theorem servesHistories (dispatcher : HandleDispatcher) :
    ServesHistories dispatcher.scope dispatcher :=
  servesHistories_of_live fun _ _ _ answered => live_of_answer answered

end HandleDispatcher

namespace Dispatcher

/-- A dispatcher of either form serves its histories. -/
def KeepsServing (scope : CallScope) : Dispatcher → Prop
  | .openHandle handles => ServesHistories scope handles
  | .closedUnion union => ServesHistories scope union

/-- Every dispatcher that is created for a compiled contract keeps serving what it wraps. -/
theorem create_keepsServing {contract : CompiledContract} {parts : DispatcherParts}
    {dispatcher : Dispatcher} (created : create contract parts = .ok dispatcher) :
    dispatcher.KeepsServing ⟨contract, parts.defaults⟩ := by
  rw [create] at created
  cases form : contract.dispatch with
  | openHandle dispatch =>
      simp only [form] at created
      obtain rfl := Except.ok.inj created
      exact servesHistories_of_live fun earlier request wrapped answered =>
        HandleDispatcher.live_of_answer answered
  | closedUnion dispatch =>
      simp only [form] at created
      cases made : UnionDispatcher.create ⟨contract, parts.defaults⟩ dispatch parts.bindings with
      | error problem =>
          rw [made] at created
          cases created
      | ok union =>
          rw [made] at created
          obtain rfl := Except.ok.inj created
          rw [← UnionDispatcher.scope_of_create made]
          refine servesHistories_of_live fun earlier request tagged answered => ?_
          rw [UnionDispatcher.run_eq] at answered ⊢
          exact UnionDispatcher.live_of_answer (UnionDispatcher.nodup_tags_of_create made)
            (Option.some.inj answered)

theorem create_keepsServing_character :
    create characterHandles.scope.compiled ⟨[droidBinding, humanBinding], [], []⟩ =
        .ok (.openHandle characterHandles) ∧
      KeepsServing characterHandles.scope (.openHandle characterHandles) := by
  have created : create characterHandles.scope.compiled ⟨[droidBinding, humanBinding], [], []⟩ =
      .ok (.openHandle characterHandles) := rfl
  exact ⟨created, create_keepsServing created⟩

end Dispatcher

section

def settler : Value :=
  .record (.ofClass "Human") [("planet", .text "Tatooine")]

/-- Takes the place of `humanBinding` and knows no planets. -/
def exileBinding : Binding :=
  { humanBinding with methods := [("home_planet", fun _ _ => .value .null)] }

example : characterHandles.wrap settler = .ok ⟨humanBinding, settler⟩ ∧
    (characterHandles.add exileBinding).wrap settler = .ok ⟨exileBinding, settler⟩ ∧
    (characterHandles.add exileBinding).call ⟨humanBinding, settler⟩ "home_planet" [] =
      .value (.text "Tatooine") :=
  ⟨rfl, rfl, rfl⟩

end

end InterfaceContract
