/-
This file says which rules an accepted field and its arguments obey, and for what a parameter is
rejected.
-/

import InterfaceContract.Downcast.Method
import InterfaceContract.Field.Basic

namespace InterfaceContract

/-- What an argument owes to its parameter: a context has the type behind the parameter's reference,
or the parameter's own type if that is none; an exposed argument has the parameter's own type and a
name that is not reserved. -/
def Argument.Fits (internal : Bool) (parameter : Parameter) : Argument → Prop
  | .context type =>
      (∃ mutable lifetime, parameter.type = .reference mutable lifetime type) ∨
        (∀ mutable lifetime inner, parameter.type ≠ .reference mutable lifetime inner) ∧
          type = parameter.type
  | .executor => True
  | .regular argument => argument.type = parameter.type ∧
      (internal = false → Name.isReserved argument.name = false)

/-- The context of a parameter has the type behind one reference. -/
theorem Argument.fits_context (internal : Bool) (parameter : Parameter) :
    (Argument.context parameter.type.stripReference).Fits internal parameter := by
  rw [Fits]
  cases parameter.type with
  | reference mutable lifetime inner => exact .inl ⟨mutable, lifetime, rfl⟩
  | path name arguments => exact .inr ⟨nofun, rfl⟩
  | tuple elements => exact .inr ⟨nofun, rfl⟩
  | slice element => exact .inr ⟨nofun, rfl⟩

namespace Parameter

/-- Why a parameter is rejected on its own. -/
inductive Faulty (internal : Bool) (parameter : Parameter) : Problem → Prop where
  | failed {failure : DirectiveFailure} (unread : parameter.directives = .failed failure) :
      Faulty internal parameter (.directiveFailure failure)
  | disallowed {directives : ParameterDirectives} {role : EngineRole} {directive : NamingDirective}
      {span : Span} (found : parameter.directives = .found directives)
      (special : parameter.engineRole? directives = some role)
      (naming : directives.naming? = some (directive, span)) :
      Faulty internal parameter (.disallowedDirective directive span)
  | malformed {directives : ParameterDirectives} (found : parameter.directives = .found directives)
      (regular : parameter.engineRole? directives = none)
      (nameless : parameter.exposedName? directives = none) :
      Faulty internal parameter (.malformedArgument parameter.span)
  | reserved {directives : ParameterDirectives} {name : String}
      (found : parameter.directives = .found directives)
      (regular : parameter.engineRole? directives = none)
      (named : parameter.exposedName? directives = some name) (exposed : internal = false)
      (reserves : Name.isReserved name = true) :
      Faulty internal parameter (.reservedName (parameter.nameSpan directives))

variable {internal : Bool} {parameter : Parameter} {argument : Argument}

theorem fits_of_resolveRegular {directives : ParameterDirectives}
    (resolved : parameter.resolveRegular internal directives = .ok argument) :
    argument.Fits internal parameter := by
  rw [resolveRegular] at resolved
  cases named : parameter.exposedName? directives with
  | none => simp [named] at resolved
  | some name =>
      simp only [named] at resolved
      split at resolved
      · cases resolved
      · rename_i unreserved
        obtain rfl := Except.ok.inj resolved
        refine ⟨rfl, ?_⟩
        intro exposed
        simpa [exposed] using unreserved

theorem fits_of_resolve (resolved : parameter.resolve internal = .ok argument) :
    argument.Fits internal parameter := by
  rw [resolve] at resolved
  cases found : parameter.directives with
  | failed failure => simp [found] at resolved
  | found directives =>
      cases special : parameter.engineRole? directives with
      | none =>
          simp only [found, special] at resolved
          exact fits_of_resolveRegular resolved
      | some role =>
          cases named : directives.naming? with
          | some naming => simp [found, special, named] at resolved
          | none =>
              simp only [found, special, named] at resolved
              obtain rfl := Except.ok.inj resolved
              cases role with
              | context => exact Argument.fits_context internal parameter
              | executor => trivial

/-- Whatever is rejected on its own is faulty. -/
theorem faulty_of_resolve {problem : Problem}
    (rejected : parameter.resolve internal = .error problem) :
    parameter.Faulty internal problem := by
  rw [resolve] at rejected
  cases found : parameter.directives with
  | failed failure =>
      rw [found] at rejected
      obtain rfl := Except.error.inj rejected
      exact .failed found
  | found directives =>
      cases special : parameter.engineRole? directives with
      | some role =>
          simp only [found, special] at rejected
          cases naming : directives.naming? with
          | none => simp [naming] at rejected
          | some place =>
              simp only [naming] at rejected
              obtain rfl := Except.error.inj rejected
              exact .disallowed found special naming
      | none =>
          simp only [found, special, resolveRegular] at rejected
          cases named : parameter.exposedName? directives with
          | none =>
              simp only [named] at rejected
              obtain rfl := Except.error.inj rejected
              exact .malformed found special named
          | some name =>
              simp only [named] at rejected
              split at rejected
              · rename_i refused
                obtain rfl := Except.error.inj rejected
                obtain ⟨exposed, reserves⟩ := Bool.and_eq_true_iff.mp refused
                exact .reserved found special named (by simpa using exposed) reserves
              · cases rejected

/-- A parameter is rejected for its name exactly if a caller would supply it under a reserved one. -/
theorem resolve_eq_reservedName_iff {directives : ParameterDirectives} {span : Span}
    (found : parameter.directives = .found directives) :
    parameter.resolve internal = .error (.reservedName span) ↔
      parameter.engineRole? directives = none ∧ internal = false ∧
        span = parameter.nameSpan directives ∧
          ∃ name, parameter.exposedName? directives = some name ∧ Name.isReserved name = true := by
  constructor
  · intro rejected
    cases faulty_of_resolve rejected with
    | reserved foundToo regular named exposed reserves =>
        obtain rfl := Extraction.found.inj (found.symm.trans foundToo)
        exact ⟨regular, exposed, rfl, _, named, reserves⟩
  · rintro ⟨regular, rfl, rfl, name, named, reserves⟩
    simp [resolve, found, regular, resolveRegular, named, reserves]

end Parameter

namespace Method

/-- A checked field takes the exposed name of its method, which is not reserved, and its method has
a shared receiver. -/
theorem rules_of_checkField {internal : Bool} {method : Method} {directives : MethodDirectives}
    {name : String} (checked : method.checkField internal directives = .ok name) :
    name = method.exposedName directives ∧
      (internal = false → Name.isReserved name = false) ∧
        ∃ span, method.receiver = some ⟨.shared, span⟩ := by
  rw [checkField] at checked
  split at checked
  · cases checked
  · rename_i unreserved
    split at checked
    · cases checked
    · rename_i shared
      obtain rfl := Except.ok.inj checked
      refine ⟨rfl, ?_, _, shared⟩
      intro exposed
      simpa [exposed] using unreserved
    · cases checked

/-- A field is rejected for its name exactly if its method is exposed under a reserved one. -/
theorem checkField_eq_reservedName_iff {internal : Bool} {method : Method}
    {directives : MethodDirectives} {span : Span} :
    method.checkField internal directives = .error (.reservedName span) ↔
      internal = false ∧ Name.isReserved (method.exposedName directives) = true ∧
        span = method.nameSpan directives := by
  rw [checkField]
  by_cases refused : (!internal && Name.isReserved (method.exposedName directives)) = true
  · obtain ⟨exposed, reserves⟩ := Bool.and_eq_true_iff.mp refused
    have common : internal = false := by simpa using exposed
    rw [if_pos refused, and_iff_right common, and_iff_right reserves, Except.error.injEq,
      Problem.reservedName.injEq, eq_comm]
  · have passes : ¬ (internal = false ∧
        Name.isReserved (method.exposedName directives) = true ∧
          span = method.nameSpan directives) := by
      rintro ⟨rfl, reserves, -⟩
      exact refused (by simpa using reserves)
    refine iff_of_false ?_ passes
    rw [if_neg refused]
    split <;> nofun

end Method

end InterfaceContract
