/-
This file says which body serves a recognized value, and what can be to blame if the value is
rejected all the same.
-/

import InterfaceContract.Proofs.Dispatcher.Arguments

namespace InterfaceContract

/-- A value with the binding that serves it. -/
structure BoundValue where
  binding : Binding
  value : Value

namespace DispatchError

/-- An error rejects a value if it says that no implementer is known for it, or that it is not one of
the implementer that it is taken for. -/
def RejectsValue : DispatchError → Prop
  | .unknownImplementer _ _ | .invalidValue _ => True
  | _ => False

end DispatchError

namespace Outcome

def Raises (outcome : Outcome) (error : DispatchError) : Prop :=
  outcome.result = .error (.dispatch error)

theorem raises_refuse_iff {refused error : DispatchError} :
    (refuse refused).Raises error ↔ refused = error := by
  simp [Raises, refuse, result]

theorem raises_deferIf_iff {asynchronous : Bool} {outcome : Outcome} {error : DispatchError} :
    (deferIf asynchronous outcome).Raises error ↔ outcome.Raises error := by
  cases asynchronous with
  | false => rfl
  | true => rfl

/-- What rejects a value comes from behind a look-up that does not reject any. -/
theorem exists_of_raises_lookup {α : Type} {found : Except DispatchError α} {next : α → Outcome}
    {error : DispatchError} (rejects : error.RejectsValue)
    (harmless : ∀ refused, found = .error refused → ¬ refused.RejectsValue)
    (raised : (lookup found next).Raises error) :
    ∃ value, found = .ok value ∧ (next value).Raises error := by
  cases found with
  | ok value => exact ⟨value, rfl, raised⟩
  | error refused =>
      obtain rfl := raises_refuse_iff.mp raised
      exact absurd rejects (harmless refused rfl)

end Outcome

namespace Field

/-- The only thing that can be wrong with the arguments of a field is that one is missing. -/
theorem not_rejectsValue_of_bindArguments {field : Field} {supplied : List (String × Value)}
    {environment : Environment} {error : DispatchError}
    (failed : field.bindArguments supplied environment = .error error) :
    ¬ error.RejectsValue := by
  obtain ⟨argument, -, rfl⟩ := bindArguments_eq_error_iff.mp failed
  exact id

end Field

namespace CallScope

variable {scope : CallScope} {bound : BoundValue} {method : String}
  {parameters : List Value}

/-- The last field of a name is found under it. -/
theorem field_eq_ok_iff {name : String} {field : Field} :
    scope.field name = .ok field ↔ ∃ earlier later,
      scope.compiled.model.fields = earlier ++ field :: later ∧ field.name = name ∧
        ∀ other ∈ later, other.name ≠ name := by
  have found : scope.field name = .ok field ↔
      scope.compiled.model.fields.reverse.find? (·.name == name) = some field := by
    rw [CallScope.field, field?]
    cases scope.compiled.model.fields.reverse.find? (·.name == name) <;> simp
  rw [found, List.find?_eq_some_iff_append]
  constructor
  · rintro ⟨named, later, earlier, order, avoided⟩
    refine ⟨earlier.reverse, later.reverse, ?_, by simpa using named, ?_⟩
    · simpa using congrArg List.reverse order
    · intro other member
      simpa using avoided other (List.mem_reverse.mp member)
  · rintro ⟨earlier, later, order, named, avoided⟩
    refine ⟨by simpa using named, later.reverse, earlier.reverse, ?_, ?_⟩
    · rw [order]
      simp
    · intro other member
      simpa using avoided other (List.mem_reverse.mp member)

/-- A field is found under every name that a field has. -/
theorem exists_field {field : Field} (member : field ∈ scope.compiled.model.fields) :
    ∃ found, scope.field field.name = .ok found := by
  rw [CallScope.field, field?]
  cases named : scope.compiled.model.fields.reverse.find? (·.name == field.name) with
  | some found => exact ⟨found, rfl⟩
  | none => simpa using List.find?_eq_none.mp named field (List.mem_reverse.mpr member)

theorem field_of_unknown {name : String}
    (unknown : name ∉ scope.compiled.model.fields.map (·.name)) :
    scope.field name = .error (.unknownField scope.contract name) := by
  have missed : scope.compiled.model.fields.reverse.find? (·.name == name) = none := by
    rw [List.find?_eq_none]
    intro field member
    have other : field.name ≠ name := by
      rintro rfl
      exact unknown (List.mem_map_of_mem (List.mem_reverse.mp member))
    simpa using other
  rw [CallScope.field, field?, missed]

theorem not_rejectsValue_of_field {name : String} {error : DispatchError}
    (failed : scope.field name = .error error) : ¬ error.RejectsValue := by
  rw [field] at failed
  split at failed
  · cases failed
  · cases failed
    exact id

/-- The body of an implementer, or else the default body of the contract. -/
def body? (scope : CallScope) (binding : Binding) (method : String) : Option Body :=
  (binding.methods.lookup method).or (scope.defaults.lookup method)

/-- Runs that body on the recognized value. A method without a body is unknown. -/
def serve (scope : CallScope) (bound : BoundValue) (method : String)
    (parameters : List Value) : Outcome :=
  match scope.body? bound.binding method with
  | some body => body bound.value parameters
  | none => .refuse (.unknownMethod bound.binding.type method)

/-- A value that was recognized passes the check in front of the body. -/
theorem runBody_eq_serve (recognized : bound.binding.recognizes bound.value = true) :
    scope.runBody bound.binding method bound.value parameters =
      scope.serve bound method parameters := by
  rw [runBody, serve, body?, Binding.provides, Binding.runBody]
  cases own : bound.binding.methods.lookup method with
  | some body => simp [recognized]
  | none =>
      cases scope.defaults.lookup method with
      | some body => rfl
      | none => rfl

/-- What rejects a value that was recognized is raised by the body that runs. -/
theorem exists_body_of_raises_serve {error : DispatchError} (rejects : error.RejectsValue)
    (raised : (scope.serve bound method parameters).Raises error) :
    ∃ body, scope.body? bound.binding method = some body ∧
      (body bound.value parameters).Raises error := by
  rw [serve] at raised
  cases found : scope.body? bound.binding method with
  | some body =>
      rw [found] at raised
      exact ⟨body, rfl, raised⟩
  | none =>
      rw [found] at raised
      obtain rfl := Outcome.raises_refuse_iff.mp raised
      exact absurd rejects id

end CallScope

end InterfaceContract
