/-
This file says what a method is accepted as, and shows that a method without a report is accepted.
-/

import InterfaceContract.Classification
import InterfaceContract.Proofs.Field.Resolution
import InterfaceContract.Proofs.List.Paired

namespace InterfaceContract

namespace Method

def isIgnored (method : Method) : Bool :=
  match method.directives with
  | .found directives => directives.ignore.isSome
  | .failed _ => false

/-- A method marked as a downcast counts as one unless it is ignored. -/
def isDowncast (method : Method) : Bool :=
  match method.directives with
  | .found directives => directives.ignore.isNone && directives.downcast.isSome
  | .failed _ => false

/-- All other methods stand for fields. -/
def isField (method : Method) : Bool :=
  !method.isIgnored && !method.isDowncast

/-- What a method is accepted as, by its directives first and its shape second. -/
inductive Accepted (internal : Bool) (method : Method) : Classification → Prop where
  | ignored {directives : MethodDirectives} (found : method.directives = .found directives)
      (marked : directives.ignore.isSome) : Accepted internal method .ignored
  | downcast {directives : MethodDirectives} {narrowing : NarrowingMethod}
      (found : method.directives = .found directives) (unignored : directives.ignore = none)
      (marked : directives.downcast.isSome) (narrows : method.asNarrowing = .ok narrowing) :
      Accepted internal method (.downcast narrowing)
  | field {directives : MethodDirectives} {name : String} {arguments : List Argument}
      (found : method.directives = .found directives) (unignored : directives.ignore = none)
      (unmarked : directives.downcast = none)
      (checked : method.checkField internal directives = .ok name)
      (resolved : List.Forall₂ (fun parameter argument => parameter.resolve internal = .ok argument)
        method.parameters arguments)
      (distinct : (arguments.filterMap Argument.engineRole?).Nodup) :
      Accepted internal method (.field (method.toField directives name arguments))

section

variable {internal : Bool} {method : Method} {directives : MethodDirectives}

theorem asField_of_ok {name : String} (checked : method.checkField internal directives = .ok name) :
    method.asField internal directives = (do
      let arguments ← resolveParameters internal method.parameters
      pure (some (method.toField directives name arguments))) := by
  rw [asField, checked]
  rfl

theorem asField_of_error {problem : Problem}
    (rejected : method.checkField internal directives = .error problem) :
    method.asField internal directives = (do
      Reporting.report problem
      pure none) := by
  rw [asField, rejected]
  rfl

theorem appendOnly_asField (internal : Bool) (method : Method) (directives : MethodDirectives) :
    (method.asField internal directives).AppendOnly := by
  cases checked : method.checkField internal directives with
  | ok name =>
      rw [asField_of_ok checked]
      exact (appendOnly_resolveParameters internal method.parameters).bind fun _ =>
        Reporting.appendOnly_pure _
  | error problem =>
      rw [asField_of_error checked]
      exact (Reporting.appendOnly_report problem).bind fun _ => Reporting.appendOnly_pure _

theorem classify_of_failed {failure : DirectiveFailure}
    (failed : method.directives = .failed failure) :
    method.classify internal = Reporting.attempt (.error (.directiveFailure failure)) := by
  rw [classify, failed]

theorem classify_of_ignored (found : method.directives = .found directives)
    (marked : directives.ignore.isSome) : method.classify internal = pure (some .ignored) := by
  simp only [classify, found, marked, if_true]

theorem classify_of_downcast (found : method.directives = .found directives)
    (unignored : directives.ignore = none) (marked : directives.downcast.isSome) :
    method.classify internal = Reporting.attempt (method.asNarrowing.map .downcast) := by
  simp [classify, found, unignored, marked]

theorem classify_of_unmarked (found : method.directives = .found directives)
    (unignored : directives.ignore = none) (unmarked : directives.downcast = none) :
    method.classify internal = (do
      let field ← method.asField internal directives
      pure (field.map .field)) := by
  simp [classify, found, unignored, unmarked]

end

/-- The directives alone decide which way a method is classified. -/
theorem directives_cases (method : Method) :
    (∃ failure, method.directives = .failed failure) ∨
      ∃ directives, method.directives = .found directives ∧
        (directives.ignore.isSome ∨
          directives.ignore = none ∧ directives.downcast.isSome ∨
          directives.ignore = none ∧ directives.downcast = none) := by
  cases method.directives with
  | failed failure => exact .inl ⟨failure, rfl⟩
  | found directives =>
      refine .inr ⟨directives, rfl, ?_⟩
      cases directives.ignore <;> cases directives.downcast <;> simp

theorem appendOnly_classify (internal : Bool) (method : Method) :
    (method.classify internal).AppendOnly := by
  obtain ⟨failure, failed⟩ | ⟨directives, found, marked | ⟨unignored, marked⟩ |
    ⟨unignored, unmarked⟩⟩ := method.directives_cases
  · rw [classify_of_failed failed]
    exact Reporting.appendOnly_attempt _
  · rw [classify_of_ignored found marked]
    exact Reporting.appendOnly_pure _
  · rw [classify_of_downcast found unignored marked]
    exact Reporting.appendOnly_attempt _
  · rw [classify_of_unmarked found unignored unmarked]
    exact (appendOnly_asField internal method directives).bind fun _ => Reporting.appendOnly_pure _

/-- A field without a report passed its check and lost no argument. -/
theorem asField_of_clean {internal : Bool} {method : Method} {directives : MethodDirectives}
    (clean : (method.asField internal directives).reports = []) :
    ∃ name, method.checkField internal directives = .ok name ∧
      (method.asField internal directives).result =
        some (method.toField directives name
          (resolveParameters internal method.parameters).result) ∧
      (resolveParameters internal method.parameters).reports = [] := by
  cases checked : method.checkField internal directives with
  | error problem =>
      rw [asField_of_error checked,
        Reporting.reports_bind fun _ => Reporting.appendOnly_pure _] at clean
      simp at clean
  | ok name =>
      rw [asField_of_ok checked, Reporting.reports_bind fun _ => Reporting.appendOnly_pure _,
        Reporting.reports_pure, List.append_nil] at clean
      refine ⟨name, rfl, ?_, clean⟩
      rw [asField_of_ok checked, Reporting.result_bind fun _ => Reporting.appendOnly_pure _,
        Reporting.result_pure]

/-- A method without a report is accepted as something. -/
theorem accepted_of_clean {internal : Bool} {method : Method}
    (clean : (method.classify internal).reports = []) :
    ∃ classification, (method.classify internal).result = some classification ∧
      method.Accepted internal classification := by
  obtain ⟨failure, failed⟩ | ⟨directives, found, marked | ⟨unignored, marked⟩ |
    ⟨unignored, unmarked⟩⟩ := method.directives_cases
  · rw [classify_of_failed failed, Reporting.reports_attempt] at clean
    cases clean
  · rw [classify_of_ignored found marked]
    exact ⟨.ignored, rfl, .ignored found marked⟩
  · rw [classify_of_downcast found unignored marked, Reporting.reports_attempt] at clean
    obtain ⟨classification, accepted⟩ := (Reporting.reportsOf_eq_nil_iff _).mp clean
    cases narrows : method.asNarrowing with
    | error problem =>
        rw [narrows] at accepted
        cases accepted
    | ok narrowing =>
        rw [classify_of_downcast found unignored marked, narrows]
        exact ⟨.downcast narrowing, rfl, .downcast found unignored marked narrows⟩
  · rw [classify_of_unmarked found unignored unmarked,
      Reporting.reports_bind fun _ => Reporting.appendOnly_pure _, Reporting.reports_pure,
      List.append_nil] at clean
    obtain ⟨name, checked, ended, cleanArguments⟩ := asField_of_clean clean
    obtain ⟨resolved, distinct⟩ := resolveParameters_of_clean cleanArguments
    refine ⟨.field _, ?_, .field found unignored unmarked checked resolved distinct⟩
    rw [classify_of_unmarked found unignored unmarked,
      Reporting.result_bind fun _ => Reporting.appendOnly_pure _, Reporting.result_pure, ended,
      Option.map_some]

/-- An accepted method is classified as what it is accepted as, without a report. -/
theorem Accepted.classify_eq {internal : Bool} {method : Method} {classification : Classification}
    (accepted : method.Accepted internal classification) :
    method.classify internal = pure (some classification) := by
  cases accepted with
  | ignored found marked => exact classify_of_ignored found marked
  | downcast found unignored marked narrows =>
      rw [classify_of_downcast found unignored marked, narrows]
      rfl
  | field found unignored unmarked checked resolved distinct =>
      rw [classify_of_unmarked found unignored unmarked, asField_of_ok checked,
        resolveParameters_of_resolved resolved distinct]
      rfl

end Method

theorem appendOnly_classifyMethods (internal : Bool) (methods : List Method) :
    (classifyMethods internal methods).AppendOnly :=
  (Reporting.AppendOnly.mapM (Method.appendOnly_classify internal) methods).bind
    fun _ => Reporting.appendOnly_pure _

/-- The methods report what each of them reports alone, in their order. -/
theorem reports_classifyMethods (internal : Bool) (methods : List Method) :
    (classifyMethods internal methods).reports =
      methods.flatMap fun method => (method.classify internal).reports := by
  rw [classifyMethods, Reporting.reports_bind fun _ => Reporting.appendOnly_pure _,
    Reporting.reports_mapM (Method.appendOnly_classify internal), Reporting.reports_pure,
    List.append_nil]

/-- The methods come to what each of them comes to alone, in their order. -/
theorem result_classifyMethods (internal : Bool) (methods : List Method) :
    (classifyMethods internal methods).result =
      .ofList (methods.filterMap fun method => (method.classify internal).result) := by
  rw [classifyMethods, Reporting.result_bind fun _ => Reporting.appendOnly_pure _,
    Reporting.result_mapM (Method.appendOnly_classify internal), Reporting.result_pure,
    List.filterMap_map]
  rfl

/-- Methods without a report are accepted, one for one. -/
theorem forall₂_accepted_of_clean {internal : Bool} {methods : List Method}
    (clean : (methods.flatMap fun method => (method.classify internal).reports) = []) :
    List.Forall₂ (Method.Accepted internal) methods
      (methods.filterMap fun method => (method.classify internal).result) := by
  induction methods with
  | nil => exact .nil
  | cons method methods inductionHypothesis =>
      rw [List.flatMap_cons] at clean
      obtain ⟨first, rest⟩ := List.append_eq_nil_iff.mp clean
      obtain ⟨classification, result, accepted⟩ := Method.accepted_of_clean first
      have kept := List.filterMap_cons_some (l := methods)
        (f := fun method => (Method.classify internal method).result) result
      rw [kept]
      exact .cons accepted (inductionHypothesis rest)

/-- Accepted methods are not reported, and they come to what they are accepted as. -/
theorem clean_of_forall₂_accepted {internal : Bool} {methods : List Method}
    {classifications : List Classification}
    (accepted : List.Forall₂ (Method.Accepted internal) methods classifications) :
    (methods.flatMap fun method => (method.classify internal).reports) = [] ∧
      (methods.filterMap fun method => (method.classify internal).result) = classifications := by
  induction accepted with
  | nil => exact ⟨rfl, rfl⟩
  | @cons method classification methods classifications first _ inductionHypothesis =>
      obtain ⟨clean, same⟩ := inductionHypothesis
      rw [List.flatMap_cons, List.filterMap_cons, first.classify_eq, clean, same]
      exact ⟨rfl, rfl⟩

section

variable {internal : Bool} {methods : List Method} {classifications : List Classification}

namespace Method.Accepted

variable {method : Method} {classification : Classification}

theorem isField_eq (accepted : method.Accepted internal classification) :
    method.isField = classification.field?.isSome := by
  cases accepted with
  | ignored found marked => simp [isField, isIgnored, found, marked, Classification.field?]
  | downcast found unignored marked =>
      simp [isField, isDowncast, found, unignored, marked, Classification.field?]
  | field found unignored unmarked =>
      simp [isField, isIgnored, isDowncast, found, unignored, unmarked, Classification.field?]

theorem isDowncast_eq (accepted : method.Accepted internal classification) :
    method.isDowncast = classification.downcast?.isSome := by
  cases accepted with
  | ignored found marked =>
      rw [Option.isSome_iff_ne_none] at marked
      simp [isDowncast, found, marked, Classification.downcast?]
  | downcast found unignored marked =>
      simp [isDowncast, found, unignored, marked, Classification.downcast?]
  | field found unignored unmarked =>
      simp [isDowncast, found, unmarked, Classification.downcast?]

end Method.Accepted

/-- The accepted fields are those of the methods that stand for fields, in their order. -/
theorem forall₂_fields
    (accepted : List.Forall₂ (Method.Accepted internal) methods classifications) :
    List.Forall₂ (fun method field => method.Accepted internal (.field field))
      (methods.filter Method.isField) (classifications.filterMap Classification.field?) := by
  apply (forall₂_filter_filterMap (fun _ _ related => related.isField_eq) accepted).imp
  rintro method field ⟨classification, accepted, kept⟩
  cases classification with
  | field accepted' =>
      obtain rfl := Option.some.inj kept
      exact accepted
  | ignored => cases kept
  | downcast => cases kept

/-- The accepted downcasts are those of the methods marked as downcasts, in their order. -/
theorem forall₂_downcasts
    (accepted : List.Forall₂ (Method.Accepted internal) methods classifications) :
    List.Forall₂ (fun method narrowing => method.asNarrowing = .ok narrowing)
      (methods.filter Method.isDowncast) (classifications.filterMap Classification.downcast?) := by
  apply (forall₂_filter_filterMap (fun _ _ related => related.isDowncast_eq) accepted).imp
  rintro method narrowing ⟨classification, accepted, kept⟩
  cases accepted with
  | downcast found unignored marked narrows =>
      obtain rfl := Option.some.inj kept
      exact narrows
  | ignored => cases kept
  | field => cases kept

end

end InterfaceContract
