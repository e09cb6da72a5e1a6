/-
This file shows that reporting steps only append, so that a step can be understood on its own.
-/

import InterfaceContract.Diagnostic.Sink

namespace InterfaceContract.Reporting

variable {α β : Type}

/-- The value of a step that starts without reports. -/
def result (step : Reporting α) : α :=
  (step.run {}).1

/-- The reports of a step that starts without reports. -/
def reports (step : Reporting α) : List Diagnostic :=
  (step.run {}).2.diagnostics

/-- Such a step neither reads nor changes the reports before it. -/
def AppendOnly (step : Reporting α) : Prop :=
  ∀ sink : Sink, step.run sink = (step.result, ⟨sink.diagnostics ++ step.reports⟩)

/-- What a check leaves in the sink when it fails. -/
def reportsOf : Except Problem α → List Diagnostic
  | .ok _ => []
  | .error problem => [problem.toDiagnostic]

@[simp] theorem result_pure (value : α) : result (pure value) = value := rfl

@[simp] theorem reports_pure (value : α) : reports (pure value) = [] := rfl

@[simp] theorem reports_report (problem : Problem) :
    reports (report problem) = [problem.toDiagnostic] := rfl

@[simp] theorem result_attempt (checked : Except Problem α) :
    result (attempt checked) = checked.toOption := by
  cases checked <;> rfl

@[simp] theorem reports_attempt (checked : Except Problem α) :
    reports (attempt checked) = reportsOf checked := by
  cases checked <;> rfl

theorem reportsOf_eq_nil_iff (checked : Except Problem α) :
    reportsOf checked = [] ↔ ∃ value, checked = .ok value := by
  cases checked <;> simp [reportsOf]

/-- A failed check leaves the report of its problem. -/
theorem mem_reportsOf {checked : Except Problem α} {diagnostic : Diagnostic}
    (member : diagnostic ∈ reportsOf checked) :
    ∃ problem, checked = .error problem ∧ diagnostic = problem.toDiagnostic := by
  cases checked with
  | ok value => cases member
  | error problem => exact ⟨problem, rfl, List.mem_singleton.mp member⟩

theorem appendOnly_pure (value : α) : AppendOnly (pure value) := by
  intro sink
  change (value, sink) = (value, ⟨sink.diagnostics ++ []⟩)
  rw [List.append_nil]

theorem appendOnly_report (problem : Problem) : AppendOnly (report problem) := by
  intro sink
  rfl

theorem appendOnly_attempt (checked : Except Problem α) : AppendOnly (attempt checked) := by
  intro sink
  cases checked with
  | ok value =>
      change (some value, sink) = (some value, ⟨sink.diagnostics ++ []⟩)
      rw [List.append_nil]
  | error problem => rfl

/-- The second step runs after the reports of the first. -/
theorem run_bind (step : Reporting α) (next : α → Reporting β) (sink : Sink) :
    (step >>= next).run sink = (next (step.run sink).1).run (step.run sink).2 := rfl

theorem result_bind {next : α → Reporting β} (appends : ∀ value, AppendOnly (next value))
    (step : Reporting α) : result (step >>= next) = (next step.result).result := by
  rw [result, run_bind, appends]
  rfl

theorem reports_bind {next : α → Reporting β} (appends : ∀ value, AppendOnly (next value))
    (step : Reporting α) :
    reports (step >>= next) = step.reports ++ (next step.result).reports := by
  rw [reports, run_bind, appends]
  rfl

namespace AppendOnly

theorem bind {step : Reporting α} {next : α → Reporting β} (first : AppendOnly step)
    (appends : ∀ value, AppendOnly (next value)) : AppendOnly (step >>= next) := by
  intro sink
  rw [run_bind, first sink, appends, result_bind appends, reports_bind appends]
  simp only [List.append_assoc]

theorem mapM {action : α → Reporting β} (appends : ∀ item, AppendOnly (action item))
    (items : List α) : AppendOnly (items.mapM action) := by
  induction items with
  | nil => exact appendOnly_pure []
  | cons item items inductionHypothesis =>
      rw [List.mapM_cons]
      exact (appends item).bind fun _ => inductionHypothesis.bind fun _ => appendOnly_pure _

theorem mapM_cons {action : α → Reporting β} (appends : ∀ item, AppendOnly (action item))
    (items : List α) (value : β) :
    AppendOnly (do
      let values ← items.mapM action
      pure (value :: values)) :=
  (mapM appends items).bind fun _ => appendOnly_pure _

theorem foldlM {step : β → α → Reporting β} (appends : ∀ state item, AppendOnly (step state item))
    (items : List α) (state : β) : AppendOnly (items.foldlM step state) := by
  induction items generalizing state with
  | nil => exact appendOnly_pure state
  | cons item items inductionHypothesis =>
      rw [List.foldlM_cons]
      exact (appends state item).bind inductionHypothesis

end AppendOnly

/-- Steps taken one after another give the values that they give alone. -/
theorem result_mapM {action : α → Reporting β} (appends : ∀ item, AppendOnly (action item))
    (items : List α) : result (items.mapM action) = items.map fun item => (action item).result := by
  induction items with
  | nil => rfl
  | cons item items inductionHypothesis =>
      rw [List.mapM_cons, result_bind (AppendOnly.mapM_cons appends items),
        result_bind fun _ => appendOnly_pure _, result_pure, inductionHypothesis, List.map_cons]

/-- Steps taken one after another report what they report alone, in their order. -/
theorem reports_mapM {action : α → Reporting β} (appends : ∀ item, AppendOnly (action item))
    (items : List α) :
    reports (items.mapM action) = items.flatMap fun item => (action item).reports := by
  induction items with
  | nil => rfl
  | cons item items inductionHypothesis =>
      rw [List.mapM_cons, reports_bind (AppendOnly.mapM_cons appends items),
        reports_bind fun _ => appendOnly_pure _, reports_pure, List.append_nil,
        inductionHypothesis, List.flatMap_cons]

theorem result_foldlM_cons {step : β → α → Reporting β}
    (appends : ∀ state item, AppendOnly (step state item)) (item : α) (items : List α) (state : β) :
    result ((item :: items).foldlM step state) =
      result (items.foldlM step (step state item).result) := by
  rw [List.foldlM_cons, result_bind (AppendOnly.foldlM appends items)]

theorem reports_foldlM_cons {step : β → α → Reporting β}
    (appends : ∀ state item, AppendOnly (step state item)) (item : α) (items : List α) (state : β) :
    reports ((item :: items).foldlM step state) =
      (step state item).reports ++ reports (items.foldlM step (step state item).result) := by
  rw [List.foldlM_cons, reports_bind (AppendOnly.foldlM appends items)]

/-- Whatever is reported on the way is reported by one of the steps. -/
theorem mem_reports_foldlM {step : β → α → Reporting β}
    (appends : ∀ state item, AppendOnly (step state item)) {items : List α} {state : β}
    {diagnostic : Diagnostic} (member : diagnostic ∈ reports (items.foldlM step state)) :
    ∃ before, ∃ item ∈ items, diagnostic ∈ (step before item).reports := by
  induction items generalizing state with
  | nil => cases member
  | cons item items inductionHypothesis =>
      rw [reports_foldlM_cons appends] at member
      rcases List.mem_append.mp member with first | later
      · exact ⟨state, item, List.mem_cons_self, first⟩
      · obtain ⟨before, other, otherMember, reported⟩ := inductionHypothesis later
        exact ⟨before, other, List.mem_cons_of_mem item otherMember, reported⟩

end InterfaceContract.Reporting

namespace InterfaceContract.Stopping

variable {α β : Type}

/-- A step before a gate passes exactly if neither it nor anything before it was reported. -/
theorem run_gate {step : Reporting α} (appends : step.AppendOnly) (finish : α → β) (sink : Sink) :
    (do
      let value ← liftM step
      stopIfDirty
      pure (finish value) : Stopping β).run.run sink =
      if sink.diagnostics ++ step.reports = [] then (some (finish step.result), {})
      else (none, ⟨sink.diagnostics ++ step.reports⟩) := by
  rw [run_bind, run_lift, appends sink]
  simp only
  rw [run_bind, run_stopIfDirty]
  by_cases clean : sink.diagnostics ++ step.reports = []
  · rw [if_pos clean, clean]
    rfl
  · rw [if_neg clean, (Sink.isDirty_iff ⟨sink.diagnostics ++ step.reports⟩).mpr clean]
    rfl

end InterfaceContract.Stopping
