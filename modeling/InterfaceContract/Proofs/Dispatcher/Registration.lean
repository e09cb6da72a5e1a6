/-
This file says what a dispatcher of handles holds after any history of registrations, and when the
order of the registrations does not matter.
-/

import InterfaceContract.Proofs.Dispatcher.History
import InterfaceContract.Proofs.Dispatcher.Narrowing
import Mathlib.Data.List.Induction

namespace InterfaceContract

namespace HandleDispatcher

/-- A binding lasts if none is registered for its type later on. -/
def lasting : List Binding → List Binding
  | [] => []
  | binding :: later =>
      if later.any (·.type == binding.type) then lasting later else binding :: lasting later

/-- The binding that was registered last for a type. -/
def lastOf (history : List Binding) (type : String) : Option Binding :=
  (history.filter (·.type == type)).getLast?

/-- A dispatcher with some initial bindings, once further ones were added. -/
def registered (scope : CallScope) (dispatch : HandleDispatch) (externals : List (String × Body))
    (initial later : List Binding) : HandleDispatcher :=
  later.foldl add (create scope dispatch externals initial)

/-- After a history of registrations a dispatcher wraps a value with the first lasting binding that
recognizes it, and refuses exactly the values that none recognizes: as ones of an unknown implementer,
if their class has a name to write. -/
structure FollowsHistory (dispatcher : HandleDispatcher) (history : List Binding) : Prop where
  bindings : dispatcher.bindings = lasting history
  wrapped : ∀ value handle, dispatcher.wrap value = .ok handle ↔
    ∃ binding, (lasting history).find? (·.recognizes value) = some binding ∧
      handle = ⟨binding, value⟩
  refused : ∀ value, (∃ error, dispatcher.wrap value = .error error) ↔
    ∀ binding ∈ lasting history, binding.recognizes value = false
  named : ∀ value, (∃ implementer, dispatcher.wrap value =
      .error (.unknownImplementer dispatcher.scope.contract implementer)) ↔
    (∀ binding ∈ lasting history, binding.recognizes value = false) ∧
      value.displayName?.isSome = true

/-- Lasting bindings of different types never recognize one value. -/
def ExclusiveAt (value : Value) (history : List Binding) : Prop :=
  ∀ binding ∈ lasting history, ∀ other ∈ lasting history, binding.type ≠ other.type →
    ¬ (binding.recognizes value = true ∧ other.recognizes value = true)

variable {history reordered : List Binding} {binding : Binding} {value : Value}

theorem lastOf_cons (first : Binding) (later : List Binding) (type : String) :
    lastOf (first :: later) type =
      (lastOf later type).or (if first.type = type then some first else none) := by
  rw [lastOf, lastOf, List.filter_cons]
  by_cases same : first.type = type
  · rw [if_pos (by simpa using same), if_pos same, List.getLast?_cons]
    cases (later.filter (·.type == type)).getLast? <;> rfl
  · rw [if_neg (by simpa using same), if_neg same, Option.or_none]

theorem lastOf_eq_none_iff {type : String} :
    lastOf history type = none ↔ ∀ binding ∈ history, binding.type ≠ type := by
  simp [lastOf]

/-- The lasting bindings are those that were registered last for their types. -/
theorem mem_lasting_iff : binding ∈ lasting history ↔
    lastOf history binding.type = some binding := by
  induction history with
  | nil => simp [lasting, lastOf]
  | cons first later inductionHypothesis =>
      rw [lasting, lastOf_cons]
      by_cases replaced : ∃ other ∈ later, other.type = first.type
      · have followed : later.any (·.type == first.type) = true := by simpa using replaced
        rw [if_pos followed, inductionHypothesis]
        by_cases same : first.type = binding.type
        · obtain ⟨other, member, typed⟩ := replaced
          have present : lastOf later binding.type ≠ none := by
            intro absent
            exact lastOf_eq_none_iff.mp absent other member (typed.trans same)
          obtain ⟨last, found⟩ := Option.ne_none_iff_exists'.mp present
          rw [found, Option.some_or]
        · rw [if_neg same, Option.or_none]
      · have alone : ¬ later.any (·.type == first.type) = true := by simpa using replaced
        rw [if_neg alone, List.mem_cons, inductionHypothesis]
        by_cases same : first.type = binding.type
        · have absent : lastOf later binding.type = none := by
            refine lastOf_eq_none_iff.mpr fun other member typed => ?_
            exact replaced ⟨other, member, typed.trans same.symm⟩
          simp [absent, same, eq_comm]
        · have different : binding ≠ first := by
            rintro rfl
            exact same rfl
          simp [different, same]

theorem lasting_sublist (history : List Binding) : (lasting history).Sublist history := by
  induction history with
  | nil => exact .slnil
  | cons first later inductionHypothesis =>
      rw [lasting]
      split
      · exact inductionHypothesis.cons first
      · exact inductionHypothesis.cons_cons first

/-- No type has two lasting bindings. -/
theorem pairwise_type_ne_lasting (history : List Binding) :
    (lasting history).Pairwise fun earlier later => earlier.type ≠ later.type := by
  induction history with
  | nil => exact .nil
  | cons first later inductionHypothesis =>
      rw [lasting]
      split
      case isTrue replaced => exact inductionHypothesis
      case isFalse alone =>
        refine .cons ?_ inductionHypothesis
        intro other member same
        refine alone (List.any_eq_true.mpr ⟨other, (lasting_sublist later).mem member, ?_⟩)
        simp [same]

/-- One more registration replaces the lasting binding of its type and comes last. -/
theorem lasting_concat (history : List Binding) (binding : Binding) :
    lasting (history ++ [binding]) = addBinding (lasting history) binding := by
  induction history with
  | nil => rfl
  | cons first later inductionHypothesis =>
      rw [List.cons_append, lasting, lasting, List.any_append]
      by_cases replaced : later.any (·.type == first.type) = true
      · rw [if_pos (by simp [replaced]), if_pos replaced, inductionHypothesis]
      · rw [if_neg replaced]
        by_cases same : binding.type = first.type
        · rw [if_pos (by simp [same]), inductionHypothesis]
          simp [addBinding, same]
        · rw [if_neg (by simp [replaced, same]), inductionHypothesis]
          simp [addBinding, Ne.symm same]

/-- What a dispatcher holds are the lasting ones of all its bindings, initial ones or not. -/
theorem registered_eq (scope : CallScope) (dispatch : HandleDispatch)
    (externals : List (String × Body)) (initial later : List Binding) :
    registered scope dispatch externals initial later =
      ⟨scope, dispatch, externals, lasting (initial ++ later)⟩ := by
  have created : initial.foldl addBinding [] = lasting initial := by
    induction initial using List.reverseRecOn with
    | nil => rfl
    | append_singleton initial binding inductionHypothesis =>
        rw [List.foldl_concat, inductionHypothesis, lasting_concat]
  induction later using List.reverseRecOn with
  | nil => rw [registered, List.foldl_nil, create, created, List.append_nil]
  | append_singleton later binding inductionHypothesis =>
      rw [registered] at inductionHypothesis ⊢
      rw [List.foldl_concat, inductionHypothesis, ← List.append_assoc, lasting_concat]
      rfl

theorem wrap_eq_ok_iff {dispatcher : HandleDispatcher} {handle : DynamicHandle} :
    dispatcher.wrap value = .ok handle ↔
      ∃ binding, dispatcher.bindings.find? (·.recognizes value) = some binding ∧
        handle = ⟨binding, value⟩ := by
  rw [wrap]
  cases dispatcher.bindings.find? (·.recognizes value) with
  | none => simp
  | some binding => simp [eq_comm]

theorem wrap_eq_error_iff {dispatcher : HandleDispatcher} {error : DispatchError} :
    dispatcher.wrap value = .error error ↔
      (∀ binding ∈ dispatcher.bindings, binding.recognizes value = false) ∧
        error = .ofUnrecognized dispatcher.scope.contract value := by
  rw [wrap]
  cases found : dispatcher.bindings.find? (·.recognizes value) with
  | none =>
      have unrecognized : ∀ binding ∈ dispatcher.bindings, binding.recognizes value = false := by
        simpa using found
      rw [and_iff_right unrecognized, Except.error.injEq, eq_comm]
  | some binding =>
      have recognized := List.find?_some found
      have member := List.mem_of_find?_eq_some found
      constructor
      · rintro ⟨⟩
      · rintro ⟨unrecognized, -⟩
        simp [unrecognized binding member] at recognized

theorem followsHistory_registered (scope : CallScope) (dispatch : HandleDispatch)
    (externals : List (String × Body)) (initial later : List Binding) :
    (registered scope dispatch externals initial later).FollowsHistory (initial ++ later) := by
  rw [registered_eq]
  refine ⟨rfl, ?_, ?_, ?_⟩
  · intro value handle
    exact wrap_eq_ok_iff
  · intro value
    simp only [wrap_eq_error_iff, exists_and_left, exists_eq, and_true]
  · intro value
    have writable : (∃ implementer, DispatchError.unknownImplementer scope.contract implementer =
        .ofUnrecognized scope.contract value) ↔ value.displayName?.isSome = true :=
      (exists_congr fun _ => eq_comm).trans
        DispatchError.ofUnrecognized_eq_unknownImplementer_iff
    simp only [wrap_eq_error_iff, exists_and_left]
    rw [writable]

/-- Among bindings that exclude each other the one that fits is found, wherever it stands. -/
theorem find?_lasting_eq_some_iff (exclusive : ExclusiveAt value history) :
    (lasting history).find? (·.recognizes value) = some binding ↔
      lastOf history binding.type = some binding ∧ binding.recognizes value = true := by
  rw [← mem_lasting_iff]
  constructor
  · intro found
    have recognized := List.find?_some found
    exact ⟨List.mem_of_find?_eq_some found, recognized⟩
  · rintro ⟨member, recognized⟩
    refine find?_eq_some_of_exclusive ?_ member recognized
    refine (pairwise_type_ne_lasting history).imp_of_mem ?_
    intro earlier later earlierLasts laterLasts different
    exact exclusive earlier earlierLasts later laterLasts different

/-- If each type was last registered with the same binding, the same one is found for a value. -/
theorem find?_lasting_eq_of_lastOf_eq (same : ∀ type, lastOf reordered type = lastOf history type)
    (exclusive : ExclusiveAt value history) :
    (lasting reordered).find? (·.recognizes value) =
      (lasting history).find? (·.recognizes value) := by
  have members (binding : Binding) : binding ∈ lasting reordered ↔ binding ∈ lasting history := by
    rw [mem_lasting_iff, mem_lasting_iff, same]
  have exclusiveToo : ExclusiveAt value reordered := by
    intro binding member other otherMember
    exact exclusive binding ((members binding).mp member) other ((members other).mp otherMember)
  ext binding
  rw [find?_lasting_eq_some_iff exclusive, find?_lasting_eq_some_iff exclusiveToo, same]

/-- A value that lasting bindings of different types never share is wrapped alike after every history
that registers the same binding last for each type, in whatever order. -/
def OrderIrrelevant (dispatcher : HandleDispatcher) (history : List Binding) : Prop :=
  ∀ value, ExclusiveAt value history → ∀ initial later : List Binding,
    (∀ type, lastOf (initial ++ later) type = lastOf history type) →
      (registered dispatcher.scope dispatcher.dispatch dispatcher.externals initial later).wrap
        value = dispatcher.wrap value

theorem orderIrrelevant_registered (scope : CallScope) (dispatch : HandleDispatch)
    (externals : List (String × Body)) (initial later : List Binding) :
    (registered scope dispatch externals initial later).OrderIrrelevant (initial ++ later) := by
  intro value exclusive otherInitial otherLater same
  rw [registered_eq, registered_eq, wrap, wrap, find?_lasting_eq_of_lastOf_eq same exclusive]

/-- Whatever was registered, and whenever, a dispatcher follows its history; and where bindings exclude
each other, only the last registration of each type matters. -/
theorem register_history (scope : CallScope) (dispatch : HandleDispatch)
    (externals : List (String × Body)) (initial later : List Binding) :
    (registered scope dispatch externals initial later).FollowsHistory (initial ++ later) ∧
      (registered scope dispatch externals initial later).OrderIrrelevant (initial ++ later) :=
  ⟨followsHistory_registered scope dispatch externals initial later,
    orderIrrelevant_registered scope dispatch externals initial later⟩

/-- A second binding for humans leaves the one for droids first. -/
example : lasting [humanBinding, droidBinding, exileBinding] = [droidBinding, exileBinding] := rfl

/-- No binding that was ever registered recognizes a record whose class is named by something that
cannot be written, and yet the record is not refused as one of an unknown implementer. -/
theorem unwritable_not_named :
    (∀ binding ∈ [droidBinding, humanBinding] ++ [exileBinding],
      binding.recognizes ContractDeclaration.unwritable = false) ∧
      (registered characterHandles.scope characterHandles.dispatch [] [droidBinding, humanBinding]
        [exileBinding]).wrap ContractDeclaration.unwritable = .error .unwritableName ∧
      ¬ ∃ contract implementer,
        (registered characterHandles.scope characterHandles.dispatch []
          [droidBinding, humanBinding] [exileBinding]).wrap ContractDeclaration.unwritable =
            .error (.unknownImplementer contract implementer) := by
  have unrecognized : ∀ binding ∈ [droidBinding, humanBinding] ++ [exileBinding],
      binding.recognizes ContractDeclaration.unwritable = false := by
    simp only [List.cons_append, List.nil_append, List.forall_mem_cons]
    exact ⟨rfl, rfl, rfl, List.forall_mem_nil _⟩
  have refused : (registered characterHandles.scope characterHandles.dispatch []
      [droidBinding, humanBinding] [exileBinding]).wrap ContractDeclaration.unwritable =
        .error .unwritableName := rfl
  refine ⟨unrecognized, refused, ?_⟩
  rintro ⟨contract, implementer, named⟩
  rw [refused] at named
  cases named

end HandleDispatcher

end InterfaceContract
