/-
This file says what the arguments of a field are bound to and which of them is reported as missing.
-/

import InterfaceContract.Dispatcher.Call
import InterfaceContract.Proofs.List.Search
import InterfaceContract.Proofs.TypeExpr.Segments

namespace InterfaceContract

namespace ExposedArgument

/-- An argument is missed if nothing is supplied under its name, it has no default, where one that is
itself missing counts as none, and its type is no path to an `Option`. -/
structure MissedIn (supplied : List (String × Value)) (argument : ExposedArgument) : Prop where
  absent : argument.name ∉ supplied.map (·.1)
  noDefault : ∀ value, argument.fallback = some value → value = .missing
  required : ¬ argument.type.IsOption

/-- The value that an argument takes. Whatever is supplied under its name counts, be it a null, and so
does a default, be it a null. -/
inductive Takes (supplied : List (String × Value)) (argument : ExposedArgument) : Value → Prop where
  | given {value : Value} (found : supplied.lookup argument.name = some value) :
      Takes supplied argument value
  | byDefault {value : Value} (absent : argument.name ∉ supplied.map (·.1))
      (default : argument.fallback = some value) (counts : value ≠ .missing) :
      Takes supplied argument value
  | leftOut (absent : argument.name ∉ supplied.map (·.1))
      (noDefault : ∀ value, argument.fallback = some value → value = .missing)
      (optional : argument.type.IsOption) : Takes supplied argument .null

variable {supplied : List (String × Value)} {argument : ExposedArgument} {field : String}

theorem default?_eq_some_iff {value : Value} :
    argument.default? = some value ↔ argument.fallback = some value ∧ value ≠ .missing := by
  rw [default?]
  constructor
  · split
    · nofun
    · nofun
    · rename_i declared counts found
      rintro ⟨⟩
      exact ⟨found, counts⟩
  · rintro ⟨declared, counts⟩
    rw [declared]
    cases value <;> first | rfl | exact absurd rfl counts

theorem default?_eq_none_iff :
    argument.default? = none ↔ ∀ value, argument.fallback = some value → value = .missing := by
  rw [Option.eq_none_iff_forall_ne_some]
  simp only [ne_eq, default?_eq_some_iff, not_and, not_not]

theorem MissedIn.bind_eq (missed : argument.MissedIn supplied) (field : String) :
    argument.bind field supplied = .error (.missingArgument field argument.name) := by
  have required : argument.type.isOptional ≠ true :=
    fun optional => missed.required (TypeExpr.isOptional_iff.mp optional)
  rw [bind, lookup_eq_none_iff_notMem.mpr missed.absent, default?_eq_none_iff.mpr missed.noDefault]
  exact if_neg required

theorem Takes.bind_eq {value : Value} (takes : argument.Takes supplied value) (field : String) :
    argument.bind field supplied = .ok value := by
  cases takes with
  | given found => rw [bind, found]
  | byDefault absent default counts =>
      rw [bind, lookup_eq_none_iff_notMem.mpr absent, default?_eq_some_iff.mpr ⟨default, counts⟩]
  | leftOut absent noDefault optional =>
      rw [bind, lookup_eq_none_iff_notMem.mpr absent, default?_eq_none_iff.mpr noDefault]
      exact if_pos (TypeExpr.isOptional_iff.mpr optional)

theorem missedIn_or_exists_takes (supplied : List (String × Value)) (argument : ExposedArgument) :
    argument.MissedIn supplied ∨ ∃ value, argument.Takes supplied value := by
  cases found : supplied.lookup argument.name with
  | some value => exact .inr ⟨value, .given found⟩
  | none =>
      have absent := lookup_eq_none_iff_notMem.mp found
      cases default : argument.default? with
      | some value =>
          obtain ⟨declared, counts⟩ := default?_eq_some_iff.mp default
          exact .inr ⟨value, .byDefault absent declared counts⟩
      | none =>
          have noDefault := default?_eq_none_iff.mp default
          by_cases optional : argument.type.IsOption
          · exact .inr ⟨.null, .leftOut absent noDefault optional⟩
          · exact .inl ⟨absent, noDefault, optional⟩

theorem bind_eq_ok_iff {value : Value} :
    argument.bind field supplied = .ok value ↔ argument.Takes supplied value := by
  refine ⟨fun bound => ?_, fun takes => takes.bind_eq field⟩
  rcases missedIn_or_exists_takes supplied argument with missed | ⟨taken, takes⟩
  · rw [missed.bind_eq] at bound
    cases bound
  · rw [takes.bind_eq] at bound
    rwa [← Except.ok.inj bound]

theorem bind_eq_error_iff {error : DispatchError} :
    argument.bind field supplied = .error error ↔
      argument.MissedIn supplied ∧ error = .missingArgument field argument.name := by
  constructor
  · intro failed
    rcases missedIn_or_exists_takes supplied argument with missed | ⟨taken, takes⟩
    · rw [missed.bind_eq] at failed
      exact ⟨missed, (Except.error.inj failed).symm⟩
    · rw [takes.bind_eq] at failed
      cases failed
  · rintro ⟨missed, rfl⟩
    exact missed.bind_eq field

end ExposedArgument

/-- The value that the method behind a field receives for an argument. -/
inductive Argument.Receives (supplied : List (String × Value)) (environment : Environment) :
    Argument → Value → Prop where
  | context {type : TypeExpr} : Receives supplied environment (.context type) environment.context
  | executor : Receives supplied environment .executor environment.executor
  | regular {argument : ExposedArgument} {value : Value}
      (takes : argument.Takes supplied value) :
      Receives supplied environment (.regular argument) value

theorem Argument.bind_eq_ok_iff {supplied : List (String × Value)} {environment : Environment}
    {field : String} {argument : Argument} {value : Value} :
    argument.bind field supplied environment = .ok value ↔
      argument.Receives supplied environment value := by
  constructor
  · intro bound
    cases argument with
    | context type =>
        obtain rfl := Except.ok.inj bound
        exact .context
    | executor =>
        obtain rfl := Except.ok.inj bound
        exact .executor
    | regular argument => exact .regular (ExposedArgument.bind_eq_ok_iff.mp bound)
  · rintro (_ | _ | takes)
    · rfl
    · rfl
    · exact takes.bind_eq field

namespace Field

/-- The first argument that is missed, in the order of the declaration. -/
def FirstMissed (field : Field) (supplied : List (String × Value)) (argument : ExposedArgument) :
    Prop :=
  ∃ before after, field.arguments = before ++ .regular argument :: after ∧
    argument.MissedIn supplied ∧ ∀ other, .regular other ∈ before → ¬ other.MissedIn supplied

/-- How the arguments of a field are bound, or which one is reported as missing. -/
structure BindsArguments (field : Field) : Prop where
  fails : ∀ supplied environment,
    (∃ error, field.bindArguments supplied environment = .error error) ↔
      ∃ argument, .regular argument ∈ field.arguments ∧ argument.MissedIn supplied
  reports : ∀ supplied environment error,
    field.bindArguments supplied environment = .error error ↔
      ∃ argument, field.FirstMissed supplied argument ∧
        error = .missingArgument field.name argument.name
  values : ∀ supplied environment values,
    field.bindArguments supplied environment = .ok values ↔
      List.Forall₂ (Argument.Receives supplied environment) field.arguments values
  /-- What is supplied under any other name has no effect. -/
  relevant : ∀ supplied changed environment,
    (∀ argument, .regular argument ∈ field.arguments →
      supplied.lookup argument.name = changed.lookup argument.name) →
    field.bindArguments supplied environment = field.bindArguments changed environment

variable {field : Field} {supplied : List (String × Value)} {environment : Environment}

theorem bindArguments_eq_ok_iff {values : List Value} :
    field.bindArguments supplied environment = .ok values ↔
      List.Forall₂ (Argument.Receives supplied environment) field.arguments values := by
  rw [bindArguments, mapM_eq_ok_iff_forall₂]
  simp only [Argument.bind_eq_ok_iff]

theorem bindArguments_eq_error_iff {error : DispatchError} :
    field.bindArguments supplied environment = .error error ↔
      ∃ argument, field.FirstMissed supplied argument ∧
        error = .missingArgument field.name argument.name := by
  constructor
  · intro failed
    obtain ⟨before, argument, after, order, missed, bound⟩ := exists_first_of_mapM_eq_error failed
    cases argument with
    | context type => cases missed
    | executor => cases missed
    | regular argument =>
        obtain ⟨missing, rfl⟩ := ExposedArgument.bind_eq_error_iff.mp missed
        refine ⟨argument, ⟨before, after, order, missing, ?_⟩, rfl⟩
        intro other member missingToo
        obtain ⟨value, boundToo⟩ := bound _ member
        rw [Argument.bind, missingToo.bind_eq] at boundToo
        cases boundToo
  · rintro ⟨argument, ⟨before, after, order, missed, unmissed⟩, rfl⟩
    have reported : Argument.bind field.name supplied environment (.regular argument) =
        .error (.missingArgument field.name argument.name) := missed.bind_eq field.name
    rw [bindArguments, order]
    apply mapM_eq_error_of_first reported
    intro other member
    cases other with
    | context type => exact ⟨_, rfl⟩
    | executor => exact ⟨_, rfl⟩
    | regular other =>
        rcases other.missedIn_or_exists_takes supplied with missedToo | ⟨value, takes⟩
        · exact absurd missedToo (unmissed other member)
        · exact ⟨value, takes.bind_eq field.name⟩

theorem bindsArguments (field : Field) : field.BindsArguments where
  fails := by
    intro supplied environment
    constructor
    · rintro ⟨error, failed⟩
      obtain ⟨argument, ⟨before, after, order, missed, -⟩, -⟩ := bindArguments_eq_error_iff.mp failed
      exact ⟨argument, by simp [order], missed⟩
    · rintro ⟨argument, member, missed⟩
      cases outcome : field.bindArguments supplied environment with
      | error error => exact ⟨error, rfl⟩
      | ok values =>
          have related := bindArguments_eq_ok_iff.mp outcome
          obtain ⟨value, -, receives⟩ := exists_mem_of_forall₂ related.flip member
          cases receives with
          | regular takes =>
              have reported := missed.bind_eq field.name
              rw [takes.bind_eq] at reported
              cases reported
  reports _ _ _ := bindArguments_eq_error_iff
  values _ _ _ := bindArguments_eq_ok_iff
  relevant := by
    intro supplied changed environment same
    apply mapM_congr
    intro argument member
    cases argument with
    | context type => rfl
    | executor => rfl
    | regular argument =>
        rw [Argument.bind, Argument.bind, ExposedArgument.bind, ExposedArgument.bind,
          same argument member]

end Field

end InterfaceContract
