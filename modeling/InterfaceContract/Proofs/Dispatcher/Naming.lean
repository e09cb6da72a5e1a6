/-
This file shows what a dispatcher makes of the names of fields and arguments, and what becomes of two
that share a name.
-/

import InterfaceContract.Proofs.Contract.Assembly
import InterfaceContract.Proofs.Dispatcher.History
import InterfaceContract.Proofs.Field.Naming

namespace InterfaceContract

open HistoryForm

namespace ExposedArgument

/-- What an argument is bound to when nothing is supplied under its name. -/
def unsupplied (field : String) (argument : ExposedArgument) : Except DispatchError Value :=
  argument.bind field []

theorem bind_of_lookup_eq_none {field : String} {argument : ExposedArgument}
    {supplied : List (String × Value)} (missing : supplied.lookup argument.name = none) :
    argument.bind field supplied = argument.unsupplied field := by
  rw [unsupplied, bind, bind, missing]
  rfl

end ExposedArgument

/-- Two results leave some value out. -/
theorem exists_value_ne (first second : Except DispatchError Value) :
    ∃ value, first ≠ .ok value ∧ second ≠ .ok value := by
  by_contra covered
  simp only [not_exists, not_and_or, not_not] at covered
  -- Each result excludes one value at most.
  have missing := covered .missing
  have null := covered .null
  have empty := covered (.text "")
  grind

namespace Field

/-- The arguments of a field are independent if each can be given any value, whatever else is
supplied, with all others left as they are. -/
def IndependentArguments (field : Field) : Prop :=
  ∀ before argument after, field.exposedArguments = before ++ argument :: after →
    ∀ supplied value, ∃ changed, argument.bind field.name changed = .ok value ∧
      ∀ other ∈ before ++ after,
        other.bind field.name changed = other.bind field.name supplied

theorem independentArguments_of_nodup {field : Field}
    (distinct : (field.exposedArguments.map (·.name)).Nodup) : field.IndependentArguments := by
  intro before argument after order supplied value
  refine ⟨(argument.name, value) :: supplied, ?_, ?_⟩
  · exact (ExposedArgument.Takes.given (List.lookup_cons_self ..)).bind_eq field.name
  · intro other member
    rw [order] at distinct
    have different : other.name ≠ argument.name := key_ne_of_nodup distinct other member
    have unequal : (other.name == argument.name) = false := by simpa using different
    simp [ExposedArgument.bind, List.lookup_cons, unequal]

/-- Two arguments of one name cannot be told apart: what is supplied goes to both. -/
theorem nodup_of_independentArguments {field : Field} (independent : field.IndependentArguments) :
    (field.exposedArguments.map (·.name)).Nodup := by
  rw [List.Nodup, List.pairwise_map, List.pairwise_iff_forall_sublist]
  intro first second ordered same
  obtain ⟨beginning, rest, split, firstMember, secondSublist⟩ := List.cons_sublist_iff.mp ordered
  obtain ⟨before, between, rfl⟩ := List.append_of_mem firstMember
  have order : field.exposedArguments = before ++ first :: (between ++ rest) := by
    rw [split, List.append_assoc, List.cons_append]
  have secondMember : second ∈ before ++ (between ++ rest) := by
    simp [List.singleton_sublist.mp secondSublist]
  -- A value that neither falls back to must be supplied, and one name leads to one supplied value.
  obtain ⟨value, firstOther, secondOther⟩ :=
    exists_value_ne (first.unsupplied field.name) (second.unsupplied field.name)
  obtain ⟨changed, bound, kept⟩ := independent before first (between ++ rest) order [] value
  have secondKept := kept second secondMember
  cases found : changed.lookup first.name with
  | none => exact firstOther ((ExposedArgument.bind_of_lookup_eq_none found).symm.trans bound)
  | some supplied =>
      rw [(ExposedArgument.Takes.given found).bind_eq] at bound
      rw [same] at found
      rw [(ExposedArgument.Takes.given found).bind_eq, bound] at secondKept
      exact secondOther secondKept.symm

theorem independentArguments_iff (field : Field) :
    field.IndependentArguments ↔ (field.exposedArguments.map (·.name)).Nodup :=
  ⟨nodup_of_independentArguments, independentArguments_of_nodup⟩

end Field

namespace CallScope

/-- Binds the arguments of a field and serves its method. -/
def serveField (scope : CallScope) (bound : BoundValue) (field : Field)
    (supplied : List (String × Value)) (environment : Environment) : Outcome :=
  .deferIf scope.asynchronous (.lookup (field.bindArguments supplied environment) fun parameters =>
    scope.serve bound field.method parameters)

/-- All fields are found under their names exactly if no two names are the same. -/
theorem forall_field_eq_ok_iff (scope : CallScope)
    (distinct : (scope.compiled.model.fields.map (·.method)).Nodup) :
    (∀ field ∈ scope.compiled.model.fields, scope.field field.name = .ok field) ↔
      (scope.compiled.model.fields.map (·.name)).Nodup := by
  constructor
  · intro found
    apply List.Nodup.map_on
    · intro first firstMember second secondMember same
      have firstFound := found first firstMember
      rw [same, found second secondMember] at firstFound
      exact (Except.ok.inj firstFound).symm
    · exact distinct.of_map
  · intro names field member
    obtain ⟨earlier, later, order⟩ := List.append_of_mem member
    refine field_eq_ok_iff.mpr ⟨earlier, later, order, rfl, ?_⟩
    intro other otherMember
    rw [order] at names
    exact key_ne_of_nodup names other (List.mem_append_right earlier otherMember)

end CallScope

/-- A wrapped value is read by name if under the name of a field that no later field shares, the method
of that field serves the value. -/
def ReadsByName {δ η : Type} [DispatchForm δ η] (scope : CallScope) (dispatcher : δ) (wrapped : η)
    (bound : BoundValue) : Prop :=
  ∀ earlier field later, scope.compiled.model.fields = earlier ++ field :: later →
    (∀ other ∈ later, other.name ≠ field.name) → ∀ supplied environment,
      DispatchForm.readField dispatcher wrapped field.name supplied environment =
        scope.serveField bound field supplied environment

theorem ServedBy.readsByName {δ η ρ : Type} [HistoryForm δ η ρ] {scope : CallScope}
    {dispatcher : δ} {wrapped : η} {bound : BoundValue}
    (served : ServedBy scope dispatcher wrapped bound) :
    ReadsByName scope dispatcher wrapped bound := by
  intro earlier field later order unshared supplied environment
  have found : scope.field field.name = .ok field :=
    CallScope.field_eq_ok_iff.mpr ⟨earlier, later, order, rfl, unshared⟩
  rw [served.readField, found]
  rfl

/-- Whatever a dispatcher wraps in the course of a history is read by name from then on. -/
def ReadsHistoriesByName {δ η ρ : Type} [HistoryForm δ η ρ] (scope : CallScope) (dispatcher : δ) :
    Prop :=
  ∀ (earlier later : List ρ) (request : ρ) (wrapped : η),
    answer (run dispatcher earlier) request = some (.ok wrapped) →
      ∃ bound, recognition (run dispatcher earlier) request = some bound ∧
        ReadsByName scope (run dispatcher (earlier ++ request :: later)) wrapped bound

theorem ServesHistories.readsByName {δ η ρ : Type} [HistoryForm δ η ρ] {scope : CallScope}
    {dispatcher : δ} (serves : ServesHistories scope dispatcher) :
    ReadsHistoriesByName scope dispatcher := by
  intro earlier later request wrapped answered
  obtain ⟨bound, recognized, served⟩ := serves earlier later request wrapped answered
  exact ⟨bound, recognized, served.readsByName⟩

namespace Dispatcher

def ReadsByName (scope : CallScope) : Dispatcher → Prop
  | .openHandle handles => ReadsHistoriesByName scope handles
  | .closedUnion union => ReadsHistoriesByName scope union

/-- Every dispatcher reads its values by name. -/
theorem readsByName_of_create {contract : CompiledContract} {parts : DispatcherParts}
    {dispatcher : Dispatcher} (created : create contract parts = .ok dispatcher) :
    dispatcher.ReadsByName ⟨contract, parts.defaults⟩ := by
  obtain ⟨dispatch, -, rfl⟩ | ⟨dispatch, union, -, made, rfl⟩ := form_of_create created
  · exact (HandleDispatcher.servesHistories _).readsByName
  · rw [← UnionDispatcher.scope_of_create made]
    exact (UnionDispatcher.servesHistories (UnionDispatcher.nodup_tags_of_create made)).readsByName

end Dispatcher

/-- What the names of a compiled contract come to. Fields and arguments have the names under which
methods and parameters are exposed, and no other check is made: names are different exactly if these
are. Of several fields of one name the last one is read under it, and of several arguments of one name
none can be supplied alone. -/
structure CompiledContract.NamesAlong (declaration : ContractDeclaration)
    (contract : CompiledContract) : Prop where
  named : List.Forall₂ (fun method field => field.NamedBy method)
    (declaration.methods.filter Method.isField) contract.model.fields
  names : contract.model.fields.map (·.name) =
    (declaration.methods.filter Method.isField).filterMap Method.fieldName?
  methods : (contract.model.fields.map (·.method)).Nodup
  found : ∀ defaults,
    (∀ field ∈ contract.model.fields, CallScope.field ⟨contract, defaults⟩ field.name = .ok field) ↔
      (contract.model.fields.map (·.name)).Nodup
  reads : ∀ parts dispatcher, Dispatcher.create contract parts = .ok dispatcher →
    dispatcher.ReadsByName ⟨contract, parts.defaults⟩
  independent : ∀ field ∈ contract.model.fields,
    field.IndependentArguments ↔ (field.exposedArguments.map (·.name)).Nodup

namespace ContractDeclaration

/-- The names of a contract whose methods have different identifiers. -/
theorem compile_namesAlong {declaration : ContractDeclaration} {options : CompilationOptions}
    {contract : CompiledContract} (distinct : (declaration.methods.map (·.ident)).Nodup)
    (compiled : declaration.compile options = .compiled contract) :
    contract.NamesAlong declaration := by
  obtain ⟨directives, -, clean, rfl⟩ := clean_of_compiled compiled
  have named : List.Forall₂ (fun method field => field.NamedBy method)
      (declaration.methods.filter Method.isField) (declaration.acceptedFields directives) :=
    (forall₂_fields clean.forall₂_accepted).imp fun _ _ accepted => accepted.namedBy
  have names : (declaration.methods.filter Method.isField).filterMap Method.fieldName? =
      (declaration.acceptedFields directives).filterMap fun field => some field.name :=
    filterMap_eq_of_forall₂ (named.imp fun _ _ naming => naming.name)
  have idents : (declaration.methods.filter Method.isField).map (·.ident) =
      (declaration.acceptedFields directives).map (·.method) := by
    rw [← List.forall₂_eq_eq_eq, List.forall₂_map_left_iff, List.forall₂_map_right_iff]
    exact named.imp fun _ _ naming => naming.calls.symm
  have methods : ((declaration.acceptedFields directives).map (·.method)).Nodup := by
    rw [← idents]
    exact distinct.sublist (List.filter_sublist.map _)
  rw [List.filterMap_eq_map'] at names
  refine ⟨named, names.symm, methods, ?_, ?_, ?_⟩
  · intro defaults
    exact CallScope.forall_field_eq_ok_iff ⟨_, defaults⟩ methods
  · intro parts dispatcher created
    exact Dispatcher.readsByName_of_create created
  · intro field _
    exact field.independentArguments_iff

theorem compile_namesAlong_character :
    (character.methods.map (·.ident)).Nodup ∧ character.compile = .compiled characterContract ∧
      characterContract.NamesAlong character := by
  have distinct : (character.methods.map (·.ident)).Nodup := by decide
  exact ⟨distinct, compile_character, compile_namesAlong distinct compile_character⟩

def ambiguousDirectives : ContractDirectives where
  implementers := some [⟨.named "Human", ⟨1, 1⟩⟩]

/-- Two methods with one name in camel case, and two parameters likewise. -/
def ambiguous : ContractDeclaration :=
  .ofOutline "Character" {
    directives := ambiguousDirectives
    items := [
      .method (.ofOutline "home_planet" {
        parameters := [
          .ofName "max_length" (.named "u32") {},
          .ofName "maxLength" (.named "u32") {}] }),
      .method (.ofOutline "homePlanet" {})] }

/-- A contract with different identifiers compiles to fields of one name, and to arguments of one
name. -/
theorem ambiguous_not_nodup :
    (ambiguous.methods.map (·.ident)).Nodup ∧
      (∀ method ∈ ambiguous.methods, (method.parameters.map (·.pattern)).Nodup) ∧
      ∃ contract, ambiguous.compile = .compiled contract ∧
        ¬ (contract.model.fields.map (·.name)).Nodup ∧
        ¬ ∀ field ∈ contract.model.fields, (field.exposedArguments.map (·.name)).Nodup := by
  have compiled : ambiguous.compile = .compiled (ambiguous.assembled ambiguousDirectives {}) :=
    compile_eq_compiled_iff.mpr
      ⟨ambiguousDirectives, rfl, by decide +kernel, by decide +kernel, rfl⟩
  exact ⟨by decide, by decide, _, compiled, by decide +kernel, by decide +kernel⟩

end ContractDeclaration

end InterfaceContract
