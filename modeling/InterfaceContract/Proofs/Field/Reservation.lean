/-
This file shows that reserved names are all that the rules of an internal contract leave open.
-/

import InterfaceContract.Proofs.Classification.Acceptance
import InterfaceContract.Proofs.Field.Rules

namespace InterfaceContract

/-- A caller supplies the argument under no reserved name. -/
def Argument.Unreserved (argument : Argument) : Prop :=
  ∀ exposed ∈ argument.regular?, Name.isReserved exposed.name = false

/-- Neither the field nor an argument of it has a reserved name. -/
structure Field.Unreserved (field : Field) : Prop where
  name : Name.isReserved field.name = false
  arguments : ∀ argument ∈ field.arguments, argument.Unreserved

def Classification.Unreserved (classification : Classification) : Prop :=
  ∀ field ∈ classification.field?, field.Unreserved

namespace Parameter

variable {parameter : Parameter} {argument : Argument}

theorem resolveRegular_false_eq_ok_iff {directives : ParameterDirectives} :
    parameter.resolveRegular false directives = .ok argument ↔
      parameter.resolveRegular true directives = .ok argument ∧ argument.Unreserved := by
  rw [resolveRegular, resolveRegular]
  cases parameter.exposedName? directives with
  | none => simp
  | some name =>
      change (if Name.isReserved name then Except.error _ else .ok (.regular _)) = .ok argument ↔
        Except.ok (.regular _) = .ok argument ∧ _
      cases reserved : Name.isReserved name with
      | true =>
          refine iff_of_false (by simp) ?_
          rintro ⟨⟨⟩, unreserved⟩
          have absent := unreserved _ rfl
          exact absurd reserved (Bool.eq_false_iff.mp absent)
      | false =>
          simp only [Bool.false_eq_true, if_false, iff_self_and]
          rintro ⟨⟩ exposed ⟨⟩
          exact reserved

/-- A parameter resolves under the common rules exactly if it resolves under those of an internal
contract and its name is not reserved. -/
theorem resolve_false_eq_ok_iff :
    parameter.resolve false = .ok argument ↔
      parameter.resolve true = .ok argument ∧ argument.Unreserved := by
  rw [resolve, resolve]
  cases parameter.directives with
  | failed failure => simp
  | found directives =>
      cases special : parameter.engineRole? directives with
      | none =>
          simp only [special]
          exact resolveRegular_false_eq_ok_iff
      | some role =>
          cases named : directives.naming? with
          | some naming => simp [special, named]
          | none =>
              simp only [special, named, iff_self_and]
              intro accepted
              obtain rfl := Except.ok.inj accepted
              cases role <;> rintro exposed ⟨⟩

/-- Only the common rules reject a name as reserved. -/
theorem internal_eq_false_of_resolve {internal : Bool} {problem : Problem}
    (rejected : parameter.resolve internal = .error problem)
    (reserves : problem.code = .reservedName) : internal = false := by
  cases faulty_of_resolve rejected with
  | failed unread => cases reserves
  | disallowed found special naming => cases reserves
  | malformed found regular nameless => cases reserves
  | reserved found regular named exposed => exact exposed

end Parameter

/-- The parameters report a reserved name under the common rules only. -/
theorem internal_eq_false_of_mem_reports_resolveParameters {internal : Bool}
    {parameters : List Parameter} {diagnostic : Diagnostic}
    (member : diagnostic ∈ (resolveParameters internal parameters).reports)
    (reserves : diagnostic.code = .reservedName) : internal = false := by
  rw [resolveParameters, Reporting.reports_bind fun _ => Reporting.appendOnly_pure _,
    Reporting.reports_pure, List.append_nil] at member
  obtain ⟨kept, parameter, -, reported⟩ :=
    Reporting.mem_reports_foldlM (KeptArgument.appendOnly_extend internal) member
  cases outcome : KeptArgument.ofParameter internal kept parameter with
  | ok argument =>
      rw [KeptArgument.extend_of_ok outcome] at reported
      cases reported
  | error problem =>
      rw [KeptArgument.reports_extend_of_error outcome] at reported
      obtain rfl := List.mem_singleton.mp reported
      rcases KeptArgument.problem_of_ofParameter outcome with
        alone | ⟨argument, role, -, -, first, -, -, rfl⟩
      · exact Parameter.internal_eq_false_of_resolve alone reserves
      · -- An argument beside others is rejected for its role and not for its name.
        cases reserves

namespace Method

variable {method : Method} {directives : MethodDirectives}

theorem checkField_false_eq_ok_iff {name : String} :
    method.checkField false directives = .ok name ↔
      method.checkField true directives = .ok name ∧ Name.isReserved name = false := by
  cases reserved : Name.isReserved (method.exposedName directives) with
  | true =>
      refine iff_of_false (by simp [checkField, reserved]) ?_
      rintro ⟨checked, unreserved⟩
      obtain ⟨rfl, -, -⟩ := rules_of_checkField checked
      exact absurd reserved (Bool.eq_false_iff.mp unreserved)
  | false =>
      have sameCheck : method.checkField false directives = method.checkField true directives := by
        simp [checkField, reserved]
      rw [sameCheck, iff_self_and]
      intro checked
      obtain ⟨rfl, -, -⟩ := rules_of_checkField checked
      exact reserved

/-- A method is accepted under the common rules exactly if it is accepted under those of an internal
contract and none of its names is reserved. -/
theorem accepted_false_iff {classification : Classification} :
    method.Accepted false classification ↔
      method.Accepted true classification ∧ classification.Unreserved := by
  constructor
  · intro accepted
    cases accepted with
    | ignored found marked => exact ⟨.ignored found marked, nofun⟩
    | downcast found unignored marked narrows =>
        exact ⟨.downcast found unignored marked narrows, nofun⟩
    | field found unignored unmarked checked resolved distinct =>
        obtain ⟨checked, unreservedName⟩ := checkField_false_eq_ok_iff.mp checked
        simp only [Parameter.resolve_false_eq_ok_iff, forall₂_and_right_iff] at resolved
        obtain ⟨resolved, unreservedArguments⟩ := resolved
        refine ⟨.field found unignored unmarked checked resolved distinct, ?_⟩
        rintro field ⟨⟩
        exact ⟨unreservedName, unreservedArguments⟩
  · rintro ⟨accepted, unreserved⟩
    cases accepted with
    | ignored found marked => exact .ignored found marked
    | downcast found unignored marked narrows => exact .downcast found unignored marked narrows
    | field found unignored unmarked checked resolved distinct =>
        obtain ⟨unreservedName, unreservedArguments⟩ := unreserved _ rfl
        have checkedToo := checkField_false_eq_ok_iff.mpr ⟨checked, unreservedName⟩
        refine .field found unignored unmarked checkedToo ?_ distinct
        simp only [Parameter.resolve_false_eq_ok_iff, forall₂_and_right_iff]
        exact ⟨resolved, unreservedArguments⟩

/-- A field is rejected for its name under the common rules only. -/
theorem internal_eq_false_of_checkField {internal : Bool} {problem : Problem}
    (rejected : method.checkField internal directives = .error problem)
    (reserves : problem.code = .reservedName) : internal = false := by
  rw [checkField] at rejected
  split at rejected
  · rename_i exposed
    simpa using (Bool.and_eq_true_iff.mp exposed).1
  · split at rejected
    · obtain rfl := Except.error.inj rejected
      cases reserves
    · cases rejected
    · obtain rfl := Except.error.inj rejected
      cases reserves

/-- The name of a downcast method is not exposed, so no downcast is rejected for it. -/
theorem code_ne_of_asNarrowing {problem : Problem}
    (rejected : method.asNarrowing = .error problem) : problem.code ≠ .reservedName := by
  intro reserves
  rw [asNarrowing] at rejected
  split at rejected
  · obtain rfl := Except.error.inj rejected
    cases reserves
  · split at rejected
    · obtain rfl := Except.error.inj rejected
      cases reserves
    · split at rejected
      · obtain rfl := Except.error.inj rejected
        cases reserves
      · cases rejected

/-- A method reports a reserved name under the common rules only. -/
theorem internal_eq_false_of_mem_reports_classify {internal : Bool} {diagnostic : Diagnostic}
    (member : diagnostic ∈ (method.classify internal).reports)
    (reserves : diagnostic.code = .reservedName) : internal = false := by
  obtain ⟨failure, failed⟩ | ⟨directives, found, marked | ⟨unignored, marked⟩ |
    ⟨unignored, unmarked⟩⟩ := method.directives_cases
  · rw [classify_of_failed failed, Reporting.reports_attempt] at member
    obtain rfl := List.mem_singleton.mp member
    cases reserves
  · rw [classify_of_ignored found marked] at member
    cases member
  · rw [classify_of_downcast found unignored marked, Reporting.reports_attempt] at member
    obtain ⟨problem, rejected, rfl⟩ := Reporting.mem_reportsOf member
    cases narrows : method.asNarrowing with
    | ok narrowing =>
        rw [narrows] at rejected
        cases rejected
    | error own =>
        rw [narrows] at rejected
        obtain rfl := Except.error.inj rejected
        exact absurd reserves (code_ne_of_asNarrowing narrows)
  · rw [classify_of_unmarked found unignored unmarked,
      Reporting.reports_bind fun _ => Reporting.appendOnly_pure _, Reporting.reports_pure,
      List.append_nil] at member
    cases checked : method.checkField internal directives with
    | ok name =>
        rw [asField_of_ok checked, Reporting.reports_bind fun _ => Reporting.appendOnly_pure _,
          Reporting.reports_pure, List.append_nil] at member
        exact internal_eq_false_of_mem_reports_resolveParameters member reserves
    | error problem =>
        rw [asField_of_error checked,
          Reporting.reports_bind fun _ => Reporting.appendOnly_pure _] at member
        obtain rfl := List.mem_singleton.mp member
        exact internal_eq_false_of_checkField checked reserves

end Method

end InterfaceContract
