/-
This file shows that a method loses no part without a report and that no part is reported twice.
-/

import InterfaceContract.Proofs.Classification.Acceptance
import InterfaceContract.Proofs.Field.Verdict

namespace InterfaceContract

/-- Among the parameters of a method, exactly those are dropped as duplicates that have a role which an
earlier one is kept with. Each of them is reported at its own place, and its report relates to the place
of the earlier one. -/
def JudgedParameter.DuplicatesDropped (internal : Bool) (judged : List JudgedParameter) : Prop :=
  ∀ earlier current later, judged = earlier ++ current :: later →
    ((∃ report, current.verdict = .error report ∧ report.code = .duplicateSpecialArgument) ↔
      ∃ role, current.parameter.HasRole internal role ∧ ∃ first ∈ earlier, first.Fills role) ∧
    ∀ role, current.parameter.HasRole internal role → ∀ first ∈ earlier, first.Fills role →
      ∃ report, current.verdict = .error report ∧ report.span = current.parameter.span ∧
        report.related.map (·.span) = some first.parameter.span ∧
        (Problem.duplicateSpecial role current.parameter.span first.parameter.span).ReportedAs report

theorem JudgedParameter.AllRight.duplicatesDropped {internal : Bool} {judged : List JudgedParameter}
    (right : AllRight internal judged) : DuplicatesDropped internal judged := by
  intro earlier current later split
  refine ⟨right.duplicate_iff split, ?_⟩
  intro role special first before filled
  obtain ⟨report, dropped, reported⟩ := right.dropped_of_fills split special before filled
  refine ⟨report, dropped, ?_, ?_, reported⟩ <;> cases reported <;> rfl

namespace Method

/-- What a method comes to, together with what it reports. -/
inductive Accounted (internal : Bool) (method : Method) :
    Option Classification → List Diagnostic → Prop where
  | rejected {problem : Problem} {report : Diagnostic} (reported : problem.ReportedAs report) :
      Accounted internal method none [report]
  | ignored : Accounted internal method (some .ignored) []
  | downcast (narrowing : NarrowingMethod) :
      Accounted internal method (some (.downcast narrowing)) []
  /-- Every parameter of a field is kept as an argument or dropped with a report of its own. -/
  | field {field : Field} {reports : List Diagnostic} {judged : List JudgedParameter}
      (verdicts : Verdicts internal method.parameters field.arguments reports judged)
      (counted : field.arguments.length + reports.length = method.parameters.length)
      (duplicates : JudgedParameter.DuplicatesDropped internal judged) :
      Accounted internal method (some (.field field)) reports

variable {internal : Bool} {method : Method} {directives : MethodDirectives}

theorem accounted_attempt {attempted : Except Problem NarrowingMethod} :
    method.Accounted internal (Reporting.attempt (attempted.map Classification.downcast)).result
      (Reporting.attempt (attempted.map Classification.downcast)).reports := by
  cases attempted with
  | error problem => exact .rejected problem.reportedAs_toDiagnostic
  | ok narrowing => exact .downcast narrowing

/-- A field has an argument or a report for each of its parameters. -/
theorem accounted_asField (internal : Bool) (method : Method) (directives : MethodDirectives) :
    method.Accounted internal ((method.asField internal directives).result.map .field)
      (method.asField internal directives).reports := by
  cases checked : method.checkField internal directives with
  | error problem =>
      rw [asField_of_error checked, Reporting.result_bind fun _ => Reporting.appendOnly_pure _,
        Reporting.reports_bind fun _ => Reporting.appendOnly_pure _]
      exact .rejected problem.reportedAs_toDiagnostic
  | ok name =>
      rw [asField_of_ok checked, Reporting.result_bind fun _ => Reporting.appendOnly_pure _,
        Reporting.reports_bind fun _ => Reporting.appendOnly_pure _, Reporting.reports_pure,
        List.append_nil]
      obtain ⟨judged, verdicts⟩ := exists_verdicts internal method.parameters
      exact .field verdicts verdicts.length_add_length verdicts.right.duplicatesDropped

theorem accounted_classify (internal : Bool) (method : Method) :
    method.Accounted internal (method.classify internal).result
      (method.classify internal).reports := by
  obtain ⟨failure, failed⟩ | ⟨directives, found, marked | ⟨unignored, marked⟩ |
    ⟨unignored, unmarked⟩⟩ := method.directives_cases
  · rw [classify_of_failed failed]
    exact .rejected (.directiveFailure failure)
  · rw [classify_of_ignored found marked]
    exact .ignored
  · rw [classify_of_downcast found unignored marked]
    exact accounted_attempt
  · rw [classify_of_unmarked found unignored unmarked,
      Reporting.result_bind fun _ => Reporting.appendOnly_pure _,
      Reporting.reports_bind fun _ => Reporting.appendOnly_pure _, Reporting.reports_pure,
      List.append_nil, Reporting.result_pure]
    exact accounted_asField internal method directives

/-- What a method reports are problems. -/
theorem Accounted.worded {result : Option Classification} {reports : List Diagnostic}
    (accounted : method.Accounted internal result reports) : ∀ report ∈ reports, report.Worded := by
  cases accounted with
  | rejected reported => exact List.forall_mem_singleton.mpr ⟨_, reported⟩
  | ignored => exact List.forall_mem_nil _
  | downcast narrowing => exact List.forall_mem_nil _
  | field verdicts counted duplicates => exact verdicts.worded

/-- Whatever was reported before, a method comes to the same and appends the same reports, and each of
its parts is accounted for by the one or the other. -/
theorem classify_accounts (internal : Bool) (method : Method) :
    ∃ result reports,
      (∀ sink : Sink,
        (method.classify internal).run sink = (result, ⟨sink.diagnostics ++ reports⟩)) ∧
      method.Accounted internal result reports :=
  ⟨_, _, appendOnly_classify internal method, accounted_classify internal method⟩

end Method

end InterfaceContract
