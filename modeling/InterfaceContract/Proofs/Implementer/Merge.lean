/-
This file shows what a registry holds after its downcast requests: the first of each type stays.
-/

import InterfaceContract.Implementer.Registry
import InterfaceContract.Proofs.Diagnostic.AppendOnly
import InterfaceContract.Proofs.List.Search

namespace InterfaceContract

/-- The first of the declared implementers of each type, in their order. -/
def firstOfEachType (declared : List (Located TypeExpr)) : List (Located TypeExpr) :=
  declared.eraseDupsBy fun later earlier => later.value == earlier.value

namespace RegistryEntry

/-- An implementer that no request was attached to. -/
def ofDeclared (declared : Located TypeExpr) : RegistryEntry where
  type := declared.value
  span := declared.span

/-- An entry keeps what is attached to it, and otherwise takes the first request of its type. -/
def offer (requests : List DowncastRequest) (entry : RegistryEntry) : RegistryEntry :=
  { entry with attached := entry.attached <|> requests.find? (·.target == entry.type) }

@[simp] theorem type_offer (requests : List DowncastRequest) (entry : RegistryEntry) :
    (offer requests entry).type = entry.type := rfl

@[simp] theorem offer_nil (entry : RegistryEntry) : offer [] entry = entry := by
  cases entry with
  | mk type span attached => cases attached <;> rfl

theorem offer_cons (request : DowncastRequest) (requests : List DowncastRequest)
    (entry : RegistryEntry) :
    offer (request :: requests) entry = offer requests (offer [request] entry) := by
  cases attached : entry.attached with
  | some existing => simp [offer, attached]
  | none =>
      cases same : request.target == entry.type <;> simp [offer, attached, same]

theorem offer_of_ne {request : DowncastRequest} {entry : RegistryEntry}
    (different : entry.type ≠ request.target) : offer [request] entry = entry := by
  have unequal : (request.target == entry.type) = false := by simpa using Ne.symm different
  cases entry with
  | mk type span attached => cases attached <;> simp_all [offer]

theorem offer_of_attached {request existing : DowncastRequest} {entry : RegistryEntry}
    (attached : entry.attached = some existing) : offer [request] entry = entry := by
  cases entry with
  | mk type span attached' =>
      cases attached
      rfl

/-- An offer leaves an entry free only if the entry was free and of another type. -/
theorem attached_offer_eq_none_iff {request : DowncastRequest} {entry : RegistryEntry} :
    (offer [request] entry).attached = none ↔
      entry.attached = none ∧ entry.type ≠ request.target := by
  cases attached : entry.attached with
  | some existing => simp [offer, attached]
  | none =>
      by_cases same : entry.type = request.target
      · simp [offer, attached, same]
      · simp [offer, attached, same, Ne.symm same]

end RegistryEntry

namespace Registry

/-- A registry holds each type once. -/
def Distinct (registry : Registry) : Prop :=
  (registry.entries.map (·.type)).Nodup

variable {registry : Registry} {request : DowncastRequest}

theorem find?_eq_some_iff (distinct : registry.Distinct) {type : TypeExpr} {entry : RegistryEntry} :
    registry.find? type = some entry ↔ entry ∈ registry.entries ∧ entry.type = type :=
  find?_key_eq_some_iff distinct

theorem find?_eq_none_iff {type : TypeExpr} :
    registry.find? type = none ↔ ∀ entry ∈ registry.entries, entry.type ≠ type := by
  simp [find?, List.find?_eq_none]

/-- A request is attached to the entry of its type exactly if nothing is attached to it. -/
theorem attach_eq_ok_iff {merged : Registry} :
    registry.attach request = .ok merged ↔
      (∃ entry, registry.find? request.target = some entry ∧ entry.attached = none) ∧
        merged = ⟨registry.entries.map (attachTo request)⟩ := by
  rw [attach]
  cases found : registry.find? request.target with
  | none => simp
  | some entry => cases attached : entry.attached <;> simp [attached, eq_comm]

/-- Whether a request fits or not, every entry takes what it is offered. -/
theorem attach_getD (distinct : registry.Distinct) :
    (registry.attach request).toOption.getD registry =
      ⟨registry.entries.map (RegistryEntry.offer [request])⟩ := by
  cases outcome : registry.attach request with
  | ok merged =>
      obtain ⟨⟨entry, found, unattached⟩, rfl⟩ := attach_eq_ok_iff.mp outcome
      obtain ⟨member, typed⟩ := (find?_eq_some_iff distinct).mp found
      change Registry.mk _ = _
      congr 1
      apply List.map_congr_left
      intro other otherMember
      by_cases same : other.type = request.target
      · have equal : other = entry :=
          List.inj_on_of_nodup_map distinct otherMember member (same.trans typed.symm)
        rw [equal]
        simp [attachTo, RegistryEntry.offer, typed, unattached]
      · rw [RegistryEntry.offer_of_ne same, attachTo, if_neg (by simpa using same)]
  | error problem =>
      have unchanged : ∀ entry ∈ registry.entries, RegistryEntry.offer [request] entry = entry := by
        intro entry member
        by_cases same : entry.type = request.target
        · have found := (find?_eq_some_iff distinct).mpr ⟨member, same⟩
          cases attached : entry.attached with
          | some existing => exact RegistryEntry.offer_of_attached attached
          | none =>
              rw [attach_eq_ok_iff.mpr ⟨⟨entry, found, attached⟩, rfl⟩] at outcome
              cases outcome
        · exact RegistryEntry.offer_of_ne same
      change registry = _
      rw [List.map_congr_left unchanged, List.map_id']

theorem appendOnly_accept (registry : Registry) (request : DowncastRequest) :
    (registry.accept request).AppendOnly :=
  (Reporting.appendOnly_attempt _).bind fun _ => Reporting.appendOnly_pure _

theorem reports_accept (registry : Registry) (request : DowncastRequest) :
    (registry.accept request).reports = Reporting.reportsOf (registry.attach request) := by
  rw [accept, Reporting.reports_bind fun _ => Reporting.appendOnly_pure _,
    Reporting.reports_attempt, Reporting.reports_pure, List.append_nil]

theorem result_accept (distinct : registry.Distinct) (request : DowncastRequest) :
    (registry.accept request).result =
      ⟨registry.entries.map (RegistryEntry.offer [request])⟩ := by
  rw [accept, Reporting.result_bind fun _ => Reporting.appendOnly_pure _, Reporting.result_attempt,
    Reporting.result_pure, attach_getD distinct]

theorem distinct_offer (distinct : registry.Distinct) (requests : List DowncastRequest) :
    Distinct ⟨registry.entries.map (RegistryEntry.offer requests)⟩ := by
  rw [Distinct, List.map_map]
  exact distinct

theorem appendOnly_acceptAll (registry : Registry) (requests : List DowncastRequest) :
    (registry.acceptAll requests).AppendOnly :=
  Reporting.AppendOnly.foldlM appendOnly_accept requests registry

/-- Later requests are merged into what the first ones left, and reported behind them. -/
theorem reports_acceptAll_append (registry : Registry) (first second : List DowncastRequest) :
    (registry.acceptAll (first ++ second)).reports =
      (registry.acceptAll first).reports ++
        ((registry.acceptAll first).result.acceptAll second).reports := by
  rw [acceptAll, List.foldlM_append]
  exact Reporting.reports_bind (fun reached => appendOnly_acceptAll reached second) _

theorem result_acceptAll_append (registry : Registry) (first second : List DowncastRequest) :
    (registry.acceptAll (first ++ second)).result =
      ((registry.acceptAll first).result.acceptAll second).result := by
  rw [acceptAll, List.foldlM_append]
  exact Reporting.result_bind (fun reached => appendOnly_acceptAll reached second) _

/-- Every report of a merge is that of a request that does not fit. -/
theorem exists_attach_of_mem_acceptAll {requests : List DowncastRequest} {diagnostic : Diagnostic}
    (member : diagnostic ∈ (registry.acceptAll requests).reports) :
    ∃ (before : Registry) (request : DowncastRequest) (problem : Problem),
      before.attach request = .error problem ∧ diagnostic = problem.toDiagnostic := by
  obtain ⟨before, request, -, reported⟩ := Reporting.mem_reports_foldlM appendOnly_accept member
  rw [reports_accept] at reported
  exact ⟨before, request, Reporting.mem_reportsOf reported⟩

/-- After a list of requests every entry has taken what it was offered. -/
theorem result_acceptAll (distinct : registry.Distinct) (requests : List DowncastRequest) :
    (registry.acceptAll requests).result =
      ⟨registry.entries.map (RegistryEntry.offer requests)⟩ := by
  induction requests generalizing registry with
  | nil =>
      rw [funext RegistryEntry.offer_nil, List.map_id']
      rfl
  | cons request requests inductionHypothesis =>
      rw [acceptAll, Reporting.result_foldlM_cons appendOnly_accept, result_accept distinct]
      rw [← acceptAll, inductionHypothesis (distinct_offer distinct [request]), List.map_map]
      rw [funext (RegistryEntry.offer_cons request requests)]
      rfl

/-- Requests that are not reported have different targets, each an entry without a request. -/
theorem targets_of_clean (distinct : registry.Distinct) {requests : List DowncastRequest}
    (clean : (registry.acceptAll requests).reports = []) :
    (requests.map (·.target)).Nodup ∧ ∀ request ∈ requests, ∃ entry ∈ registry.entries,
      entry.type = request.target ∧ entry.attached = none := by
  induction requests generalizing registry with
  | nil => simp
  | cons request requests inductionHypothesis =>
      rw [acceptAll, Reporting.reports_foldlM_cons appendOnly_accept, result_accept distinct,
        reports_accept] at clean
      obtain ⟨first, rest⟩ := List.append_eq_nil_iff.mp clean
      obtain ⟨merged, outcome⟩ := (Reporting.reportsOf_eq_nil_iff _).mp first
      obtain ⟨⟨entry, found, unattached⟩, -⟩ := attach_eq_ok_iff.mp outcome
      obtain ⟨member, typed⟩ := (find?_eq_some_iff distinct).mp found
      obtain ⟨distinctTargets, targets⟩ :=
        inductionHypothesis (distinct_offer distinct [request]) rest
      -- A later request meets an entry that the first one was offered to and not attached to.
      have later : ∀ other ∈ requests, other.target ≠ request.target ∧
          ∃ entry ∈ registry.entries, entry.type = other.target ∧ entry.attached = none := by
        intro other otherMember
        obtain ⟨offered, offeredMember, offeredTyped, free⟩ := targets other otherMember
        obtain ⟨original, originalMember, rfl⟩ := List.mem_map.mp offeredMember
        obtain ⟨unattached, different⟩ := RegistryEntry.attached_offer_eq_none_iff.mp free
        rw [RegistryEntry.type_offer] at offeredTyped
        rw [offeredTyped] at different
        exact ⟨different, original, originalMember, offeredTyped, unattached⟩
      refine ⟨?_, ?_⟩
      · rw [List.map_cons, List.nodup_cons]
        refine ⟨?_, distinctTargets⟩
        intro repeated
        obtain ⟨other, otherMember, same⟩ := List.mem_map.mp repeated
        exact (later other otherMember).1 same
      · intro other otherMember
        rcases List.mem_cons.mp otherMember with rfl | otherMember
        · exact ⟨entry, member, typed, unattached⟩
        · exact (later other otherMember).2

theorem declare_of_none {implementer : Located TypeExpr}
    (absent : registry.find? implementer.value = none) :
    registry.declare implementer =
      ⟨registry.entries ++ [RegistryEntry.ofDeclared implementer]⟩ := by
  rw [declare, absent]
  rfl

theorem declare_of_some {implementer : Located TypeExpr} {entry : RegistryEntry}
    (present : registry.find? implementer.value = some entry) :
    registry.declare implementer = registry := by
  rw [declare, present]

theorem isNone_find?_declare {implementer : Located TypeExpr}
    (absent : registry.find? implementer.value = none) (type : TypeExpr) :
    ((registry.declare implementer).find? type).isNone =
      (!(type == implementer.value) && (registry.find? type).isNone) := by
  rw [declare_of_none absent, find?, List.find?_append, ← find?]
  cases registry.find? type with
  | some entry => simp
  | none =>
      by_cases same : type = implementer.value
      · simp [same, RegistryEntry.ofDeclared]
      · simp [same, RegistryEntry.ofDeclared, Ne.symm same]

/-- Declared types that are not held yet are added once each, at the end. -/
theorem entries_foldl_declare (declared : List (Located TypeExpr)) (registry : Registry) :
    (declared.foldl declare registry).entries =
      registry.entries ++ (firstOfEachType (declared.filter fun implementer =>
        (registry.find? implementer.value).isNone)).map RegistryEntry.ofDeclared := by
  induction declared generalizing registry with
  | nil => simp [firstOfEachType]
  | cons implementer declared inductionHypothesis =>
      rw [List.foldl_cons, inductionHypothesis]
      cases found : registry.find? implementer.value with
      | some entry => simp [declare_of_some found, found]
      | none =>
          have added : firstOfEachType ((implementer :: declared).filter fun other =>
              (registry.find? other.value).isNone) =
              implementer :: firstOfEachType (declared.filter fun other =>
                ((registry.declare implementer).find? other.value).isNone) := by
            rw [List.filter_cons_of_pos (by rw [found]; rfl), firstOfEachType,
              List.eraseDupsBy_cons, List.filter_filter, firstOfEachType]
            congr 3
            funext other
            rw [isNone_find?_declare found]
            cases other.value == implementer.value <;> rfl
          rw [added, declare_of_none found, List.map_cons, List.append_assoc, List.singleton_append]

/-- A registry starts with the first declared implementer of each type. -/
theorem entries_ofDeclared (declared : List (Located TypeExpr)) :
    (ofDeclared declared).entries = (firstOfEachType declared).map RegistryEntry.ofDeclared := by
  rw [ofDeclared, entries_foldl_declare]
  simp [find?]

theorem distinct_declare (distinct : registry.Distinct) (implementer : Located TypeExpr) :
    (registry.declare implementer).Distinct := by
  cases found : registry.find? implementer.value with
  | some entry => rwa [declare_of_some found]
  | none =>
      rw [declare_of_none found, Distinct, List.map_append, List.nodup_append]
      refine ⟨distinct, List.nodup_singleton _, ?_⟩
      intro type member other here
      obtain ⟨entry, entryMember, rfl⟩ := List.mem_map.mp member
      rw [List.mem_singleton.mp here]
      exact find?_eq_none_iff.mp found entry entryMember

theorem distinct_ofDeclared (declared : List (Located TypeExpr)) :
    (ofDeclared declared).Distinct := by
  apply List.foldlRecOn declared declare (motive := Distinct)
  · exact List.nodup_nil
  · intro registry distinct implementer _
    exact distinct_declare distinct implementer

end Registry

end InterfaceContract
