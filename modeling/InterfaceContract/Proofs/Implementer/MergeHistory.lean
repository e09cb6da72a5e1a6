/-
This file follows a registry through its merges: what becomes of every request, and what stays.
-/

import InterfaceContract.Proofs.Diagnostic.Wording
import InterfaceContract.Proofs.Implementer.Merge
import Mathlib.Data.List.Induction

namespace InterfaceContract

/-- One merge of downcasts into a registry. -/
inductive DowncastMerge where
  | external (downcasts : List NarrowingFunction)
  | methods (downcasts : List NarrowingMethod)

namespace DowncastMerge

/-- The downcasts of a merge in their order. A free function is requested where it is named, a method
where it is declared. -/
def requests : DowncastMerge → List DowncastRequest
  | .external downcasts => downcasts.map fun downcast =>
      { target := downcast.type
        source := ⟨.external downcast.function.value, downcast.function.span⟩
        contextType := none }
  | .methods downcasts => downcasts.map fun downcast =>
      { target := downcast.type
        source := ⟨.method downcast.method downcast.withContext, downcast.span⟩
        contextType := downcast.contextType }

def apply (registry : Registry) : DowncastMerge → Reporting Registry
  | .external downcasts => registry.acceptExternal downcasts
  | .methods downcasts => registry.acceptMethods downcasts

end DowncastMerge

namespace DowncastRequest

variable {declared : List (Located TypeExpr)} {earlier : List DowncastRequest}
  {request : DowncastRequest} {answer : List Diagnostic}

/-- What is reported about a request into declared implementers, given the requests before it. -/
inductive Answered (declared : List (Located TypeExpr)) (earlier : List DowncastRequest)
    (request : DowncastRequest) : List Diagnostic → Prop where
  /-- The first request into an implementer is attached to it. -/
  | attached (implementer : Located TypeExpr) (known : implementer ∈ declared)
      (typed : (implementer.value == request.target) = true)
      (first : earlier.find? (·.target == request.target) = none) :
      Answered declared earlier request []
  | unknown {report : Diagnostic}
      (missing : ∀ implementer ∈ declared, (implementer.value == request.target) = false)
      (reported : (Problem.unknownDowncastTarget request.source.span).ReportedAs report)
      (code : report.code = .nonImplementerTarget) (place : report.span = request.source.span)
      (unrelated : report.related = none) : Answered declared earlier request [report]
  /-- A later request is reported at its own place, and refers to the place of the one attached. -/
  | duplicate {report : Diagnostic} (implementer : Located TypeExpr) (known : implementer ∈ declared)
      (typed : (implementer.value == request.target) = true) (holder : DowncastRequest)
      (held : earlier.find? (·.target == request.target) = some holder)
      (reported : (Problem.duplicateDowncast request.source holder.source request.target).ReportedAs
        report)
      (code : report.code = .duplicateDowncast) (place : report.span = request.source.span)
      (related : report.related.map (·.span) = some holder.source.span) :
      Answered declared earlier request [report]

/-- The reports about a list of requests, one request after another. -/
inductive AllAnswered (declared : List (Located TypeExpr)) :
    List DowncastRequest → List Diagnostic → Prop where
  | nil : AllAnswered declared [] []
  | snoc {earlier : List DowncastRequest} {request : DowncastRequest}
      {reports answer : List Diagnostic} (before : AllAnswered declared earlier reports)
      (answered : Answered declared earlier request answer) :
      AllAnswered declared (earlier ++ [request]) (reports ++ answer)

end DowncastRequest

namespace Registry

variable {declared : List (Located TypeExpr)} {registry : Registry}

/-- Applies merges one after another. -/
def mergeAll (registry : Registry) (merges : List DowncastMerge) : Reporting Registry :=
  merges.foldlM DowncastMerge.apply registry

/-- Merges are one merge of all their requests. -/
theorem mergeAll_eq_acceptAll (registry : Registry) (merges : List DowncastMerge) :
    registry.mergeAll merges = registry.acceptAll (merges.flatMap DowncastMerge.requests) := by
  induction merges generalizing registry with
  | nil => rfl
  | cons merge merges inductionHypothesis =>
      rw [List.flatMap_cons, acceptAll, List.foldlM_append, mergeAll, List.foldlM_cons]
      cases merge with
      | external downcasts => exact bind_congr inductionHypothesis
      | methods downcasts => exact bind_congr inductionHypothesis

/-- The registry of some declared implementers after a list of requests. -/
def after (declared : List (Located TypeExpr)) (requests : List DowncastRequest) : Registry :=
  ⟨(ofDeclared declared).entries.map (RegistryEntry.offer requests)⟩

theorem distinct_after (declared : List (Located TypeExpr)) (requests : List DowncastRequest) :
    (after declared requests).Distinct :=
  distinct_offer (distinct_ofDeclared declared) requests

theorem result_acceptAll_ofDeclared (declared : List (Located TypeExpr))
    (requests : List DowncastRequest) :
    ((ofDeclared declared).acceptAll requests).result = after declared requests :=
  result_acceptAll (distinct_ofDeclared declared) requests

theorem find?_foldl_declare_eq_none_iff {type : TypeExpr} :
    (declared.foldl declare registry).find? type = none ↔
      registry.find? type = none ∧ ∀ implementer ∈ declared, implementer.value ≠ type := by
  induction declared generalizing registry with
  | nil => simp
  | cons implementer declared inductionHypothesis =>
      rw [List.foldl_cons, inductionHypothesis, List.forall_mem_cons, ← and_assoc]
      apply and_congr_left
      intro _
      cases found : registry.find? implementer.value with
      | some entry =>
          rw [declare_of_some found]
          refine ⟨fun absent => ⟨absent, ?_⟩, And.left⟩
          rintro rfl
          rw [found] at absent
          cases absent
      | none =>
          have added := isNone_find?_declare found type
          rw [← Option.isNone_iff_eq_none, added, Bool.and_eq_true, Option.isNone_iff_eq_none,
            Bool.not_eq_true', beq_eq_false_iff_ne, and_comm, ne_comm]

/-- A type is held as soon as it is declared. -/
theorem find?_ofDeclared_eq_none_iff {type : TypeExpr} :
    (ofDeclared declared).find? type = none ↔
      ∀ implementer ∈ declared, implementer.value ≠ type := by
  rw [ofDeclared, find?_foldl_declare_eq_none_iff]
  exact and_iff_right rfl

theorem find?_after (declared : List (Located TypeExpr)) (requests : List DowncastRequest)
    (type : TypeExpr) : (after declared requests).find? type =
      ((ofDeclared declared).find? type).map (RegistryEntry.offer requests) :=
  List.find?_map

/-- A declared implementer carries the first request into its type. -/
theorem attached_of_find?_after {requests : List DowncastRequest} {type : TypeExpr}
    {entry : RegistryEntry} (found : (after declared requests).find? type = some entry) :
    entry.type = type ∧ entry.attached = requests.find? (·.target == type) ∧
      ∃ implementer ∈ declared, implementer.value = type := by
  have typed : entry.type = type := by simpa using List.find?_some found
  rw [find?_after] at found
  obtain ⟨original, present, rfl⟩ := Option.map_eq_some_iff.mp found
  have member := List.mem_of_find?_eq_some present
  rw [entries_ofDeclared] at member
  obtain ⟨implementer, -, rfl⟩ := List.mem_map.mp member
  refine ⟨typed, ?_, ?_⟩
  · rw [← typed]
    rfl
  · by_contra missing
    push Not at missing
    rw [find?_ofDeclared_eq_none_iff.mpr missing] at present
    cases present

/-- One more request is answered as it should be. -/
theorem answered_accept (declared : List (Located TypeExpr)) (earlier : List DowncastRequest)
    (request : DowncastRequest) :
    request.Answered declared earlier ((after declared earlier).accept request).reports := by
  rw [reports_accept]
  cases found : (after declared earlier).find? request.target with
  | none =>
      rw [attach, found]
      rw [find?_after, Option.map_eq_none_iff, find?_ofDeclared_eq_none_iff] at found
      refine .unknown ?_ (Problem.reportedAs_toDiagnostic _) rfl rfl rfl
      intro implementer member
      simpa using found implementer member
  | some entry =>
      obtain ⟨typed, carried, implementer, known, same⟩ := attached_of_find?_after found
      have declaredType : (implementer.value == request.target) = true := by simpa using same
      cases attached : entry.attached with
      | none =>
          rw [attach_eq_ok_iff.mpr ⟨⟨entry, found, attached⟩, rfl⟩]
          exact .attached implementer known declaredType (carried.symm.trans attached)
      | some holder =>
          simp only [attach, found, attached, typed]
          exact .duplicate implementer known declaredType holder (carried.symm.trans attached)
            (Problem.reportedAs_toDiagnostic _) rfl rfl rfl

theorem worded_of_mem_acceptAll {requests : List DowncastRequest} {report : Diagnostic}
    (member : report ∈ (registry.acceptAll requests).reports) : report.Worded := by
  obtain ⟨before, request, problem, -, rfl⟩ := exists_attach_of_mem_acceptAll member
  exact ⟨problem, problem.reportedAs_toDiagnostic⟩

/-- All requests are answered as they should be, in their order. -/
theorem allAnswered_acceptAll (declared : List (Located TypeExpr))
    (requests : List DowncastRequest) :
    DowncastRequest.AllAnswered declared requests
      ((ofDeclared declared).acceptAll requests).reports := by
  -- A request is answered by what is attached before it, so the last request is split off.
  induction requests using List.reverseRecOn with
  | nil => exact .nil
  | append_singleton earlier request inductionHypothesis =>
      have last : (after declared earlier).acceptAll [request] =
          (after declared earlier).accept request := by
        rw [acceptAll, List.foldlM_cons]
        exact bind_pure _
      rw [reports_acceptAll_append, result_acceptAll_ofDeclared, last]
      exact .snoc inductionHypothesis (answered_accept declared earlier request)

theorem implementers_after (declared : List (Located TypeExpr)) (requests : List DowncastRequest) :
    (after declared requests).implementers = (firstOfEachType declared).map fun implementer =>
      ((RegistryEntry.ofDeclared implementer).offer requests).toImplementer := by
  rw [implementers, after, entries_ofDeclared, List.map_map, List.map_map]
  rfl

end Registry

/-- A later state of an implementer has its type, its place and the downcast that it had, if any. -/
structure Implementer.KeptBy (later implementer : Implementer) : Prop where
  type : later.type = implementer.type
  span : later.span = implementer.span
  downcast : ∀ route, implementer.downcast = some route →
    later.downcast = some route ∧ later.contextType = implementer.contextType

theorem RegistryEntry.keptBy_offer (requests : List DowncastRequest) (entry : RegistryEntry) :
    (entry.offer requests).toImplementer.KeptBy entry.toImplementer where
  type := rfl
  span := rfl
  downcast := by
    intro route present
    obtain ⟨request, attached, rfl⟩ := Option.map_eq_some_iff.mp present
    simp [toImplementer, offer, attached]

namespace Registry

variable {declared : List (Located TypeExpr)} {registry : Registry}

/-- Whatever is merged into a registry, its implementers are kept one by one. -/
theorem forall₂_keptBy_mergeAll (distinct : registry.Distinct) (merges : List DowncastMerge)
    (sink : Sink) :
    List.Forall₂ Implementer.KeptBy ((registry.mergeAll merges).run sink).1.implementers
      registry.implementers := by
  rw [mergeAll_eq_acceptAll, appendOnly_acceptAll, result_acceptAll distinct, implementers,
    List.map_map, implementers, List.forall₂_map_left_iff, List.forall₂_map_right_iff,
    List.forall₂_same]
  intro entry _
  exact entry.keptBy_offer _

/-- The implementers of a registry are the first ones declared of each type, each with the first
downcast into its type, and every request was answered. -/
structure MergedFrom (registry : Registry) (declared : List (Located TypeExpr))
    (requests : List DowncastRequest) (reports : List Diagnostic) : Prop where
  places : (registry.implementers.map fun implementer =>
    (⟨implementer.type, implementer.span⟩ : Located TypeExpr)) = firstOfEachType declared
  downcasts : ∀ implementer ∈ registry.implementers,
    implementer.downcast =
        (requests.find? (·.target == implementer.type)).map (·.source.route) ∧
      implementer.contextType =
        (requests.find? (·.target == implementer.type)).bind (·.contextType)
  answered : DowncastRequest.AllAnswered declared requests reports

theorem mergedFrom_after (declared : List (Located TypeExpr)) (requests : List DowncastRequest) :
    (after declared requests).MergedFrom declared requests
      ((ofDeclared declared).acceptAll requests).reports where
  places := by
    rw [implementers_after, List.map_map]
    exact List.map_id' _
  downcasts := by
    intro implementer member
    rw [implementers_after] at member
    obtain ⟨original, -, rfl⟩ := List.mem_map.mp member
    exact ⟨rfl, rfl⟩
  answered := allAnswered_acceptAll declared requests

/-- Merges into declared implementers attach the first downcast of each type and report every other
one, and no later merge replaces what is attached. -/
theorem mergeAll_ofDeclared (declared : List (Located TypeExpr)) (merges : List DowncastMerge)
    (sink : Sink) :
    ∃ registry reports,
      ((ofDeclared declared).mergeAll merges).run sink =
          (registry, ⟨sink.diagnostics ++ reports⟩) ∧
        registry.MergedFrom declared (merges.flatMap DowncastMerge.requests) reports ∧
        ∀ (later : List DowncastMerge) (other : Sink),
          List.Forall₂ Implementer.KeptBy ((registry.mergeAll later).run other).1.implementers
            registry.implementers := by
  refine ⟨_, _, ?_, mergedFrom_after declared _, ?_⟩
  · rw [mergeAll_eq_acceptAll, appendOnly_acceptAll, result_acceptAll_ofDeclared]
  · exact forall₂_keptBy_mergeAll (distinct_after declared _)

end Registry

end InterfaceContract
