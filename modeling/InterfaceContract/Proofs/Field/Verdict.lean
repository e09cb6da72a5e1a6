/-
This file says what becomes of every parameter of a method: its argument is kept, or it is dropped with
one report.
-/

import InterfaceContract.Proofs.Diagnostic.Wording
import InterfaceContract.Proofs.Field.Resolution
import InterfaceContract.Proofs.Field.Rules

namespace InterfaceContract

/-- An argument has a role that the execution engine fills. -/
inductive Argument.Plays : EngineRole → Argument → Prop where
  | context (type : TypeExpr) : Plays .context (.context type)
  | executor : Plays .executor .executor

theorem Argument.engineRole?_eq_some_iff {role : EngineRole} {argument : Argument} :
    argument.engineRole? = some role ↔ argument.Plays role := by
  constructor
  · cases argument with
    | context type =>
        rintro ⟨⟩
        exact .context type
    | executor =>
        rintro ⟨⟩
        exact .executor
    | regular exposed => nofun
  · rintro (_ | _) <;> rfl

/-- A parameter has a role that the execution engine fills if it resolves to it on its own. -/
def Parameter.HasRole (internal : Bool) (role : EngineRole) (parameter : Parameter) : Prop :=
  ∃ argument, parameter.resolve internal = .ok argument ∧ argument.Plays role

/-- On its own no parameter is a duplicate. -/
theorem Parameter.Faulty.code_ne {internal : Bool} {parameter : Parameter} {problem : Problem}
    {report : Diagnostic} (faulty : parameter.Faulty internal problem)
    (reported : problem.ReportedAs report) : report.code ≠ .duplicateSpecialArgument := by
  cases faulty <;> cases reported <;> nofun

/-- A parameter and what becomes of it: its argument is kept, or it is dropped with a report. -/
structure JudgedParameter where
  parameter : Parameter
  verdict : Except Diagnostic Argument

namespace JudgedParameter

/-- A parameter fills a role if it is kept with it. -/
def Fills (role : EngineRole) (judged : JudgedParameter) : Prop :=
  ∃ argument, judged.verdict = .ok argument ∧ argument.Plays role

/-- The right verdict on a parameter, given those on the parameters before it. -/
inductive Right (internal : Bool) (earlier : List JudgedParameter) : JudgedParameter → Prop where
  | rejected {parameter : Parameter} {problem : Problem} {report : Diagnostic}
      (alone : parameter.resolve internal = .error problem)
      (reported : problem.ReportedAs report) :
      Right internal earlier ⟨parameter, .error report⟩
  | kept {parameter : Parameter} {argument : Argument}
      (alone : parameter.resolve internal = .ok argument)
      (unfilled : ∀ role, argument.Plays role → ∀ first ∈ earlier, ¬ first.Fills role) :
      Right internal earlier ⟨parameter, .ok argument⟩
  /-- The report relates to the parameter that is kept with the role. -/
  | duplicate {parameter : Parameter} {argument : Argument} {role : EngineRole}
      {first : JudgedParameter} {report : Diagnostic}
      (alone : parameter.resolve internal = .ok argument) (special : argument.Plays role)
      (before : first ∈ earlier) (filled : first.Fills role)
      (reported : (Problem.duplicateSpecial role parameter.span first.parameter.span).ReportedAs
        report) :
      Right internal earlier ⟨parameter, .error report⟩

/-- Every verdict is right, given those before it. -/
def AllRight (internal : Bool) (judged : List JudgedParameter) : Prop :=
  ∀ earlier current later, judged = earlier ++ current :: later → current.Right internal earlier

variable {internal : Bool} {earlier judged : List JudgedParameter} {current : JudgedParameter}
  {parameter : Parameter} {role : EngineRole}

/-- A parameter that fills a role is the first one to do so. -/
theorem Right.unfilled (right : current.Right internal earlier) (filled : current.Fills role) :
    ∀ first ∈ earlier, ¬ first.Fills role := by
  obtain ⟨argument, kept, special⟩ := filled
  cases right with
  | rejected alone reported => cases kept
  | kept alone unfilled =>
      obtain rfl := Except.ok.inj kept
      exact unfilled role special
  | duplicate alone special before filled reported => cases kept

namespace AllRight

theorem concat (right : AllRight internal earlier) (rightLast : current.Right internal earlier) :
    AllRight internal (earlier ++ [current]) := by
  intro before other after split
  rcases List.append_eq_append_iff.mp split with ⟨middle, rfl, last⟩ | ⟨middle, rfl, last⟩
  · obtain ⟨rfl, rfl, rfl⟩ : middle = [] ∧ other = current ∧ after = [] := by
      cases middle <;> simp_all
    rwa [List.append_nil]
  · cases middle with
    | nil =>
        obtain ⟨rfl, rfl⟩ : other = current ∧ after = [] := by simpa using last
        rwa [List.append_nil] at rightLast
    | cons head rest =>
        obtain ⟨rfl, -⟩ := List.cons.inj last
        exact right before other rest rfl

/-- No two parameters of a method fill one role. -/
theorem eq_of_fills (right : AllRight internal judged) {first second : JudgedParameter}
    (member : first ∈ judged) (filled : first.Fills role) (otherMember : second ∈ judged)
    (filledToo : second.Fills role) : first = second := by
  obtain ⟨before, after, split⟩ := List.append_of_mem member
  rw [split] at otherMember
  rcases List.mem_append.mp otherMember with early | late
  · exact absurd filledToo ((right before first after split).unfilled filled second early)
  rcases List.mem_cons.mp late with same | later
  · exact same.symm
  · obtain ⟨between, rest, rfl⟩ := List.append_of_mem later
    have splitLater : judged = (before ++ first :: between) ++ second :: rest := by
      rw [split, List.append_assoc, List.cons_append]
    exact absurd filled ((right _ second rest splitLater).unfilled filledToo first (by simp))

/-- A parameter with a role that an earlier one is kept with is dropped, and its report relates to that
one. -/
theorem dropped_of_fills (right : AllRight internal judged) {later : List JudgedParameter}
    (split : judged = earlier ++ current :: later) (special : current.parameter.HasRole internal role)
    {first : JudgedParameter} (before : first ∈ earlier) (filled : first.Fills role) :
    ∃ report, current.verdict = .error report ∧
      (Problem.duplicateSpecial role current.parameter.span first.parameter.span).ReportedAs
        report := by
  obtain ⟨argument, resolved, plays⟩ := special
  have inEarlier : ∀ other ∈ earlier, other ∈ judged := by
    intro other member
    rw [split]
    exact List.mem_append_left _ member
  cases right earlier current later split with
  | rejected alone reported =>
      rw [resolved] at alone
      cases alone
  | kept alone unfilled =>
      rw [resolved] at alone
      obtain rfl := Except.ok.inj alone
      exact absurd filled (unfilled role plays first before)
  | @duplicate _ _ sameRole holder report alone playsToo held holds reported =>
      rw [resolved] at alone
      obtain rfl := Except.ok.inj alone
      rw [← Argument.engineRole?_eq_some_iff] at plays playsToo
      obtain rfl : role = sameRole := Option.some.inj (plays.symm.trans playsToo)
      obtain rfl := right.eq_of_fills (inEarlier _ held) holds (inEarlier _ before) filled
      exact ⟨report, rfl, reported⟩

/-- A parameter is dropped as a duplicate exactly if it has a role that an earlier one is kept with. -/
theorem duplicate_iff (right : AllRight internal judged) {later : List JudgedParameter}
    (split : judged = earlier ++ current :: later) :
    (∃ report, current.verdict = .error report ∧ report.code = .duplicateSpecialArgument) ↔
      ∃ role, current.parameter.HasRole internal role ∧ ∃ first ∈ earlier, first.Fills role := by
  constructor
  · rintro ⟨report, dropped, code⟩
    cases right earlier current later split with
    | rejected alone reported =>
        -- No parameter is a duplicate on its own.
        obtain rfl := Except.error.inj dropped
        exact absurd code ((Parameter.faulty_of_resolve alone).code_ne reported)
    | kept alone unfilled => cases dropped
    | duplicate alone special before filled reported =>
        exact ⟨_, ⟨_, alone, special⟩, _, before, filled⟩
  · rintro ⟨role, special, first, before, filled⟩
    obtain ⟨report, dropped, reported⟩ := right.dropped_of_fills split special before filled
    refine ⟨report, dropped, ?_⟩
    cases reported <;> rfl

/-- A parameter is dropped with the report of a problem. -/
theorem worded (right : AllRight internal judged) {report : Diagnostic} (member : current ∈ judged)
    (dropped : current.verdict = .error report) : report.Worded := by
  obtain ⟨earlier, later, split⟩ := List.append_of_mem member
  cases right earlier current later split with
  | rejected alone reported =>
      obtain rfl := Except.error.inj dropped
      exact ⟨_, reported⟩
  | kept alone unfilled => cases dropped
  | duplicate alone special before filled reported =>
      obtain rfl := Except.error.inj dropped
      exact ⟨_, reported⟩

end AllRight

/-- The argument that is kept, with the place of its parameter. -/
def kept? : JudgedParameter → Option KeptArgument
  | ⟨parameter, .ok argument⟩ => some ⟨argument, parameter.span⟩
  | ⟨_, .error _⟩ => none

/-- The report with which a parameter is dropped. -/
def report? : JudgedParameter → Option Diagnostic
  | ⟨_, .ok _⟩ => none
  | ⟨_, .error report⟩ => some report

@[simp] theorem kept?_ok (parameter : Parameter) (argument : Argument) :
    kept? ⟨parameter, .ok argument⟩ = some ⟨argument, parameter.span⟩ := rfl

@[simp] theorem kept?_error (parameter : Parameter) (report : Diagnostic) :
    kept? ⟨parameter, .error report⟩ = none := rfl

theorem kept?_eq_some_iff {argument : KeptArgument} :
    current.kept? = some argument ↔
      current.verdict = .ok argument.argument ∧ current.parameter.span = argument.span := by
  obtain ⟨parameter, report | own⟩ := current
  · simp
  · obtain ⟨argument, span⟩ := argument
    simp

theorem report?_eq_some_iff {report : Diagnostic} :
    current.report? = some report ↔ current.verdict = .error report := by
  obtain ⟨parameter, own | argument⟩ := current <;> simp [report?]

theorem map_argument_kept? (judged : List JudgedParameter) :
    (judged.filterMap kept?).map (·.argument) = judged.filterMap (·.verdict.toOption) := by
  rw [List.map_filterMap]
  congr
  funext current
  obtain ⟨parameter, report | argument⟩ := current <;> rfl

/-- What is kept with a role belongs to a parameter that fills it. -/
theorem exists_fills_of_mem {argument : KeptArgument} (member : argument ∈ earlier.filterMap kept?)
    (special : argument.argument.engineRole? = some role) :
    ∃ first ∈ earlier, first.Fills role ∧ first.parameter.span = argument.span := by
  obtain ⟨first, before, kept⟩ := List.mem_filterMap.mp member
  obtain ⟨verdict, place⟩ := kept?_eq_some_iff.mp kept
  have plays := Argument.engineRole?_eq_some_iff.mp special
  exact ⟨first, before, ⟨argument.argument, verdict, plays⟩, place⟩

/-- A parameter that fills a role is among those that are kept. -/
theorem mem_roles_of_fills {first : JudgedParameter} (before : first ∈ earlier)
    (filled : first.Fills role) : role ∈ KeptArgument.roles (earlier.filterMap kept?) := by
  obtain ⟨argument, verdict, special⟩ := filled
  have kept : (⟨argument, first.parameter.span⟩ : KeptArgument) ∈ earlier.filterMap kept? :=
    List.mem_filterMap.mpr ⟨first, before, kept?_eq_some_iff.mpr ⟨verdict, rfl⟩⟩
  exact List.mem_filterMap.mpr ⟨_, kept, Argument.engineRole?_eq_some_iff.mpr special⟩

/-- One more parameter gets the right verdict, and is kept or reported by it. -/
theorem exists_right (internal : Bool) (earlier : List JudgedParameter) (parameter : Parameter) :
    ∃ verdict, Right internal earlier ⟨parameter, verdict⟩ ∧
      (KeptArgument.extend internal (earlier.filterMap kept?) parameter).result =
        List.filterMap kept? (earlier ++ [⟨parameter, verdict⟩]) ∧
      (KeptArgument.extend internal (earlier.filterMap kept?) parameter).reports =
        List.filterMap report? [⟨parameter, verdict⟩] := by
  cases outcome : KeptArgument.ofParameter internal (earlier.filterMap kept?) parameter with
  | ok argument =>
      obtain ⟨own, rfl, alone, fresh⟩ := KeptArgument.resolve_of_ofParameter outcome
      refine ⟨.ok own, .kept alone ?_, ?_, ?_⟩
      · intro role special first before filled
        exact fresh role (Argument.engineRole?_eq_some_iff.mpr special)
          (mem_roles_of_fills before filled)
      · rw [KeptArgument.extend_of_ok outcome, Reporting.result_pure, List.filterMap_append]
        rfl
      · rw [KeptArgument.extend_of_ok outcome]
        rfl
  | error problem =>
      have worded := problem.reportedAs_toDiagnostic
      refine ⟨.error problem.toDiagnostic, ?_, ?_, KeptArgument.reports_extend_of_error outcome⟩
      · rcases KeptArgument.problem_of_ofParameter outcome with
          alone | ⟨argument, role, alone, special, first, member, filled, rfl⟩
        · exact .rejected alone worded
        · obtain ⟨holder, before, holds, place⟩ := exists_fills_of_mem member filled
          rw [← place] at worded ⊢
          exact .duplicate alone (Argument.engineRole?_eq_some_iff.mp special) before holds worded
      · rw [KeptArgument.result_extend_of_error outcome, List.filterMap_append]
        exact (List.append_nil _).symm

/-- Every further parameter gets the right verdict. -/
theorem exists_allRight (right : AllRight internal earlier) (parameters : List Parameter) :
    ∃ added : List JudgedParameter, added.map (·.parameter) = parameters ∧
      AllRight internal (earlier ++ added) ∧
      Reporting.result
          (parameters.foldlM (KeptArgument.extend internal) (earlier.filterMap kept?)) =
        (earlier ++ added).filterMap kept? ∧
      Reporting.reports
          (parameters.foldlM (KeptArgument.extend internal) (earlier.filterMap kept?)) =
        added.filterMap report? := by
  -- The verdicts so far say what is kept so far, so they stand for it in the induction.
  induction parameters generalizing earlier with
  | nil => exact ⟨[], rfl, by simpa using right, by simp, by simp⟩
  | cons parameter parameters inductionHypothesis =>
      obtain ⟨verdict, rightLast, result, reports⟩ := exists_right internal earlier parameter
      obtain ⟨added, same, rightAll, ended, reported⟩ :=
        inductionHypothesis (right.concat rightLast)
      rw [Reporting.result_foldlM_cons (KeptArgument.appendOnly_extend internal),
        Reporting.reports_foldlM_cons (KeptArgument.appendOnly_extend internal), result, reports,
        ended, reported, ← List.filterMap_append]
      rw [List.append_assoc, List.singleton_append] at rightAll ⊢
      exact ⟨⟨parameter, verdict⟩ :: added, by rw [List.map_cons, same], rightAll, rfl, rfl⟩

end JudgedParameter

/-- The verdicts on the parameters of a method, one for each and in their order. They decide which
arguments the method has and what is reported. -/
structure Verdicts (internal : Bool) (parameters : List Parameter) (arguments : List Argument)
    (reports : List Diagnostic) (judged : List JudgedParameter) : Prop where
  parameters : judged.map (·.parameter) = parameters
  arguments : judged.filterMap (·.verdict.toOption) = arguments
  reports : judged.filterMap JudgedParameter.report? = reports
  right : JudgedParameter.AllRight internal judged

namespace Verdicts

variable {internal : Bool} {parameters : List Parameter} {arguments : List Argument}
  {reports : List Diagnostic} {judged : List JudgedParameter}

/-- Every parameter is counted once, as an argument or as a report. -/
theorem length_add_length (verdicts : Verdicts internal parameters arguments reports judged) :
    arguments.length + reports.length = parameters.length := by
  obtain ⟨rfl, rfl, rfl, -⟩ := verdicts
  induction judged with
  | nil => rfl
  | cons current judged inductionHypothesis =>
      rw [List.map_cons, List.length_cons, ← inductionHypothesis]
      obtain ⟨parameter, report | argument⟩ := current
      · exact (Nat.add_assoc _ _ 1).symm
      · exact Nat.add_right_comm _ 1 _

theorem worded (verdicts : Verdicts internal parameters arguments reports judged) :
    ∀ report ∈ reports, report.Worded := by
  intro report member
  rw [← verdicts.reports] at member
  obtain ⟨current, dropped, reported⟩ := List.mem_filterMap.mp member
  exact verdicts.right.worded dropped (JudgedParameter.report?_eq_some_iff.mp reported)

end Verdicts

/-- There are right verdicts on all parameters, and they say how the parameters resolve together. -/
theorem exists_verdicts (internal : Bool) (parameters : List Parameter) :
    ∃ judged, Verdicts internal parameters (resolveParameters internal parameters).result
      (resolveParameters internal parameters).reports judged := by
  have unjudged : JudgedParameter.AllRight internal [] := by
    intro earlier current later split
    simp at split
  obtain ⟨judged, same, right, ended, reported⟩ :=
    JudgedParameter.exists_allRight unjudged parameters
  rw [List.nil_append] at right ended
  refine ⟨judged, same, ?_, ?_, right⟩
  · rw [resolveParameters, Reporting.result_bind fun _ => Reporting.appendOnly_pure _,
      Reporting.result_pure, ← JudgedParameter.map_argument_kept?, ← ended]
    rfl
  · rw [resolveParameters, Reporting.reports_bind fun _ => Reporting.appendOnly_pure _,
      Reporting.reports_pure, List.append_nil]
    exact reported.symm

/-- A context that is rejected for its name leaves the role to the one behind it. -/
example : (resolveParameters false
    [⟨.ident "ctx", .named "Database", ⟨2, 9⟩, .found { name := some ⟨"database", ⟨2, 1⟩⟩ }⟩,
      ⟨.ident "context", .named "Session", ⟨3, 5⟩, .found {}⟩]).result =
    [.context (.named "Session")] := rfl

end InterfaceContract
