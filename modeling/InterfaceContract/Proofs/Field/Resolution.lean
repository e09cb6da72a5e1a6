/-
This file shows what the arguments of a method are when none of its parameters is rejected.
-/

import InterfaceContract.Field.Basic
import InterfaceContract.Proofs.Diagnostic.AppendOnly
import Mathlib.Data.List.Forall2

namespace InterfaceContract

namespace KeptArgument

/-- The special roles that are filled already, in their order. -/
def roles (kept : List KeptArgument) : List EngineRole :=
  kept.filterMap (·.argument.engineRole?)

/-- An argument is kept as it is, beside arguments of other roles. -/
theorem eq_of_keep {kept : List KeptArgument} {candidate argument : KeptArgument}
    (accepted : keep kept candidate = .ok argument) :
    argument = candidate ∧ ∀ role ∈ candidate.argument.engineRole?, role ∉ roles kept := by
  cases special : candidate.argument.engineRole? with
  | none =>
      rw [keep, special] at accepted
      exact ⟨(Except.ok.inj accepted).symm, by simp⟩
  | some role =>
      rw [keep, special] at accepted
      cases found : kept.find? (·.argument.engineRole? == some role) with
      | some first => simp [found] at accepted
      | none =>
          simp only [found] at accepted
          refine ⟨(Except.ok.inj accepted).symm, ?_⟩
          rintro other ⟨⟩ filled
          obtain ⟨first, member, filledFirst⟩ := List.mem_filterMap.mp filled
          have absent := List.find?_eq_none.mp found first member
          exact absent (by simpa using filledFirst)

/-- A parameter is kept for what it is alone. -/
theorem resolve_of_ofParameter {internal : Bool} {kept : List KeptArgument} {parameter : Parameter}
    {argument : KeptArgument} (accepted : ofParameter internal kept parameter = .ok argument) :
    ∃ own, argument = ⟨own, parameter.span⟩ ∧ parameter.resolve internal = .ok own ∧
      ∀ role ∈ own.engineRole?, role ∉ roles kept := by
  rw [ofParameter] at accepted
  cases resolved : parameter.resolve internal with
  | error problem =>
      rw [resolved] at accepted
      cases accepted
  | ok own =>
      rw [resolved] at accepted
      obtain ⟨rfl, fresh⟩ := eq_of_keep accepted
      exact ⟨own, rfl, rfl, fresh⟩

/-- A parameter is rejected for what it is alone, or for a role that is filled already. -/
theorem problem_of_ofParameter {internal : Bool} {kept : List KeptArgument} {parameter : Parameter}
    {problem : Problem} (rejected : ofParameter internal kept parameter = .error problem) :
    parameter.resolve internal = .error problem ∨
      ∃ argument role, parameter.resolve internal = .ok argument ∧
        argument.engineRole? = some role ∧ ∃ first ∈ kept, first.argument.engineRole? = some role ∧
          problem = .duplicateSpecial role parameter.span first.span := by
  rw [ofParameter] at rejected
  cases resolved : parameter.resolve internal with
  | error own =>
      rw [resolved] at rejected
      obtain rfl := Except.error.inj rejected
      exact .inl rfl
  | ok argument =>
      rw [resolved] at rejected
      change keep kept ⟨argument, parameter.span⟩ = .error problem at rejected
      rw [keep] at rejected
      cases special : argument.engineRole? with
      | none => simp [special] at rejected
      | some role =>
          simp only [special] at rejected
          cases found : kept.find? (·.argument.engineRole? == some role) with
          | none => simp [found] at rejected
          | some first =>
              simp only [found] at rejected
              have filled : first.argument.engineRole? = some role := by
                simpa using List.find?_some found
              exact .inr ⟨argument, role, rfl, special, first, List.mem_of_find?_eq_some found,
                filled, (Except.error.inj rejected).symm⟩

/-- A parameter whose argument fills no role again is kept. -/
theorem ofParameter_of_resolve {internal : Bool} {kept : List KeptArgument} {parameter : Parameter}
    {argument : Argument} (resolved : parameter.resolve internal = .ok argument)
    (fresh : ∀ role ∈ argument.engineRole?, role ∉ roles kept) :
    ofParameter internal kept parameter = .ok ⟨argument, parameter.span⟩ := by
  rw [ofParameter, resolved]
  change keep kept ⟨argument, parameter.span⟩ = _
  rw [keep]
  cases special : argument.engineRole? with
  | none => rfl
  | some role =>
      have unfilled : kept.find? (·.argument.engineRole? == some role) = none := by
        rw [List.find?_eq_none]
        intro earlier member filled
        have filledBefore : role ∈ roles kept :=
          List.mem_filterMap.mpr ⟨earlier, member, by simpa using filled⟩
        exact fresh role special filledBefore
      simp only [unfilled]

theorem appendOnly_extend (internal : Bool) (kept : List KeptArgument) (parameter : Parameter) :
    Reporting.AppendOnly (extend internal kept parameter) := by
  apply (Reporting.appendOnly_attempt _).bind
  rintro (_ | argument) <;> exact Reporting.appendOnly_pure _

theorem extend_of_ok {internal : Bool} {kept : List KeptArgument} {parameter : Parameter}
    {argument : KeptArgument} (accepted : ofParameter internal kept parameter = .ok argument) :
    extend internal kept parameter = pure (kept ++ [argument]) := by
  rw [extend, accepted]
  rfl

theorem reports_extend_of_error {internal : Bool} {kept : List KeptArgument} {parameter : Parameter}
    {problem : Problem} (rejected : ofParameter internal kept parameter = .error problem) :
    (extend internal kept parameter).reports = [problem.toDiagnostic] := by
  rw [extend, rejected]
  rfl

/-- A rejected parameter leaves what is kept as it is. -/
theorem result_extend_of_error {internal : Bool} {kept : List KeptArgument} {parameter : Parameter}
    {problem : Problem} (rejected : ofParameter internal kept parameter = .error problem) :
    (extend internal kept parameter).result = kept := by
  rw [extend, rejected]
  rfl

/-- An argument that fills no role again leaves the roles distinct. -/
theorem nodup_roles_concat {kept : List KeptArgument} {argument : KeptArgument}
    (distinct : (roles kept).Nodup)
    (fresh : ∀ role ∈ argument.argument.engineRole?, role ∉ roles kept) :
    (roles (kept ++ [argument])).Nodup := by
  rw [roles, List.filterMap_append, List.nodup_append]
  refine ⟨distinct, ?_, ?_⟩
  · cases special : argument.argument.engineRole? <;> simp [special]
  · intro role before other here equal
    obtain ⟨same, member, special⟩ := List.mem_filterMap.mp here
    rw [List.mem_singleton.mp member, ← equal] at special
    exact fresh role special before

/-- Without a report every parameter adds the argument that it has alone, and no role is filled
twice. -/
theorem foldlM_extend_of_clean {internal : Bool} {parameters : List Parameter}
    {kept : List KeptArgument}
    (clean : Reporting.reports (parameters.foldlM (extend internal) kept) = [])
    (distinct : (roles kept).Nodup) :
    ∃ added, Reporting.result (parameters.foldlM (extend internal) kept) = kept ++ added ∧
      List.Forall₂ (fun parameter argument => parameter.resolve internal = .ok argument)
        parameters (added.map (·.argument)) ∧
      (roles (kept ++ added)).Nodup := by
  induction parameters generalizing kept with
  | nil => exact ⟨[], by simp, by simp, by simpa using distinct⟩
  | cons parameter parameters inductionHypothesis =>
      rw [Reporting.reports_foldlM_cons (appendOnly_extend internal)] at clean
      rw [Reporting.result_foldlM_cons (appendOnly_extend internal)]
      obtain ⟨first, rest⟩ := List.append_eq_nil_iff.mp clean
      cases accepted : ofParameter internal kept parameter with
      | error problem => simp [reports_extend_of_error accepted] at first
      | ok argument =>
          obtain ⟨own, rfl, resolved, fresh⟩ := resolve_of_ofParameter accepted
          rw [extend_of_ok accepted, Reporting.result_pure] at rest ⊢
          obtain ⟨added, ended, aligned, allDistinct⟩ :=
            inductionHypothesis rest (nodup_roles_concat distinct fresh)
          refine ⟨⟨own, parameter.span⟩ :: added, ?_, ?_, ?_⟩
          · rw [ended, List.append_assoc, List.singleton_append]
          · exact List.Forall₂.cons resolved aligned
          · rwa [List.append_assoc, List.singleton_append] at allDistinct

/-- Parameters that resolve to arguments of different roles add these arguments, one for one. -/
theorem foldlM_extend_of_resolved {internal : Bool} {parameters : List Parameter}
    {arguments : List Argument} {kept : List KeptArgument}
    (resolved : List.Forall₂ (fun parameter argument => parameter.resolve internal = .ok argument)
      parameters arguments)
    (distinct : (roles kept ++ arguments.filterMap Argument.engineRole?).Nodup) :
    ∃ added, parameters.foldlM (extend internal) kept = pure (kept ++ added) ∧
      added.map (·.argument) = arguments := by
  induction resolved generalizing kept with
  | nil => exact ⟨[], by simp, rfl⟩
  | @cons parameter argument parameters arguments first _ inductionHypothesis =>
      have fresh : ∀ role ∈ argument.engineRole?, role ∉ roles kept := by
        intro role special filled
        rw [List.filterMap_cons_some special] at distinct
        exact (List.nodup_append.mp distinct).2.2 role filled role List.mem_cons_self rfl
      have distinctLater : (roles (kept ++ [⟨argument, parameter.span⟩]) ++
          arguments.filterMap Argument.engineRole?).Nodup := by
        rw [roles, List.filterMap_append, List.append_assoc, ← roles]
        cases special : argument.engineRole? <;> simpa [special] using distinct
      obtain ⟨added, ended, same⟩ := inductionHypothesis distinctLater
      refine ⟨⟨argument, parameter.span⟩ :: added, ?_, ?_⟩
      · rw [List.foldlM_cons, extend_of_ok (ofParameter_of_resolve first fresh), pure_bind, ended,
          List.append_assoc, List.singleton_append]
      · rw [List.map_cons, same]

end KeptArgument

theorem appendOnly_resolveParameters (internal : Bool) (parameters : List Parameter) :
    Reporting.AppendOnly (resolveParameters internal parameters) :=
  (Reporting.AppendOnly.foldlM (KeptArgument.appendOnly_extend internal) parameters []).bind
    fun _ => Reporting.appendOnly_pure _

/-- Without a report the arguments are those of the parameters, one for one, and no special role
occurs twice among them. -/
theorem resolveParameters_of_clean {internal : Bool} {parameters : List Parameter}
    (clean : (resolveParameters internal parameters).reports = []) :
    List.Forall₂ (fun parameter argument => parameter.resolve internal = .ok argument)
        parameters (resolveParameters internal parameters).result ∧
      ((resolveParameters internal parameters).result.filterMap Argument.engineRole?).Nodup := by
  rw [resolveParameters, Reporting.reports_bind fun _ => Reporting.appendOnly_pure _,
    Reporting.reports_pure, List.append_nil] at clean
  obtain ⟨added, ended, aligned, distinct⟩ :=
    KeptArgument.foldlM_extend_of_clean clean List.nodup_nil
  rw [List.nil_append] at ended distinct
  rw [resolveParameters, Reporting.result_bind fun _ => Reporting.appendOnly_pure _,
    Reporting.result_pure, ended]
  refine ⟨aligned, ?_⟩
  rwa [List.filterMap_map]

/-- Parameters that resolve to arguments of different roles resolve to them together. -/
theorem resolveParameters_of_resolved {internal : Bool} {parameters : List Parameter}
    {arguments : List Argument}
    (resolved : List.Forall₂ (fun parameter argument => parameter.resolve internal = .ok argument)
      parameters arguments)
    (distinct : (arguments.filterMap Argument.engineRole?).Nodup) :
    resolveParameters internal parameters = pure arguments := by
  have unfilled : (KeptArgument.roles [] ++ arguments.filterMap Argument.engineRole?).Nodup := distinct
  obtain ⟨added, ended, same⟩ := KeptArgument.foldlM_extend_of_resolved resolved unfilled
  rw [resolveParameters, ended, pure_bind, List.nil_append, same]

end InterfaceContract
