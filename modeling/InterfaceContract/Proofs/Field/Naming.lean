/-
This file says under which names accepted fields and their arguments are exposed.
-/

import InterfaceContract.Proofs.Classification.Acceptance
import InterfaceContract.Proofs.Field.Rules

namespace InterfaceContract

namespace Parameter

/-- The name under which a parameter is exposed: the one that a directive gives, or else its identifier
in camel case, without the raw mark. There is none for what the execution engine supplies. -/
def argumentName? (parameter : Parameter) : Option String :=
  match parameter.directives with
  | .failed _ => none
  | .found directives =>
      match parameter.engineRole? directives with
      | some _ => none
      | none =>
          match directives.name, parameter.pattern with
          | some name, _ => some name.value
          | none, .ident ident => some (Name.camelCase (Name.dropRawMark ident))
          | none, .destructured _ => none

variable {internal : Bool} {parameter : Parameter} {argument : Argument}

theorem name_of_resolveRegular {directives : ParameterDirectives}
    (resolved : parameter.resolveRegular internal directives = .ok argument) :
    parameter.exposedName? directives = argument.regular?.map (·.name) := by
  rw [resolveRegular] at resolved
  cases named : parameter.exposedName? directives with
  | none => simp [named] at resolved
  | some name =>
      simp only [named] at resolved
      split at resolved
      · cases resolved
      · obtain rfl := Except.ok.inj resolved
        rfl

/-- The argument of a parameter has the name under which the parameter is exposed. -/
theorem argumentName?_of_resolve (resolved : parameter.resolve internal = .ok argument) :
    parameter.argumentName? = argument.regular?.map (·.name) := by
  rw [resolve] at resolved
  rw [argumentName?]
  cases found : parameter.directives with
  | failed failure => simp [found] at resolved
  | found directives =>
      cases special : parameter.engineRole? directives with
      | none =>
          simp only [found, special] at resolved ⊢
          exact name_of_resolveRegular resolved
      | some role =>
          simp only [found, special] at resolved ⊢
          cases named : directives.naming? with
          | some naming => simp [named] at resolved
          | none =>
              simp only [named] at resolved
              obtain rfl := Except.ok.inj resolved
              cases role <;> rfl

end Parameter

/-- The name under which a method is exposed: the one that a directive gives, or else its identifier in
camel case, without the raw mark. -/
def Method.fieldName? (method : Method) : Option String :=
  match method.directives with
  | .failed _ => none
  | .found directives => some <|
      match directives.name with
      | some name => name.value
      | none => Name.camelCase (Name.dropRawMark method.ident)

/-- A field is named by its method if it has the name under which the method is exposed, and its
arguments have those of the parameters that a caller supplies, in their order. -/
structure Field.NamedBy (method : Method) (field : Field) : Prop where
  calls : field.method = method.ident
  name : method.fieldName? = some field.name
  arguments : field.exposedArguments.map (·.name) =
    method.parameters.filterMap Parameter.argumentName?

theorem Method.Accepted.namedBy {internal : Bool} {method : Method} {field : Field}
    (accepted : method.Accepted internal (.field field)) : field.NamedBy method := by
  cases accepted with
  | field found unignored unmarked checked resolved distinct =>
      obtain ⟨rfl, -, -⟩ := method.rules_of_checkField checked
      refine ⟨rfl, ?_, ?_⟩
      · rw [fieldName?, found]
        rfl
      · rw [Field.exposedArguments, List.map_filterMap]
        exact (filterMap_eq_of_forall₂
          (resolved.imp fun _ _ alone => Parameter.argumentName?_of_resolve alone)).symm

end InterfaceContract
