/-
This file shows that reading a field comes to calling the method behind it.
-/

import InterfaceContract.Proofs.Contract.Coherence
import InterfaceContract.Proofs.Dispatcher.History

namespace InterfaceContract

open HistoryForm

/-- The last field of a name is the one that is kept under it. -/
def InterfaceModel.LastNamed (model : InterfaceModel) (name : String) (field : Field) : Prop :=
  ∃ earlier later, model.fields = earlier ++ field :: later ∧ field.name = name ∧
    ∀ other ∈ later, other.name ≠ name

/-- A name is delegated to a field if its method can be called and if, once the arguments are bound,
reading the name on any handle comes to calling that method on it. -/
structure Delegates {δ η ρ : Type} [HistoryForm δ η ρ] (dispatcher : δ) (name : String)
    (field : Field) : Prop where
  admitted : checkMethod dispatcher field.method = .ok ()
  readField : ∀ (wrapped : η) supplied environment parameters,
    field.bindArguments supplied environment = .ok parameters →
      DispatchForm.readField dispatcher wrapped name supplied environment =
        DispatchForm.call dispatcher wrapped field.method parameters

/-- In the course of every history the name of a field is delegated to the last field of that name. -/
def DelegatesInHistories {δ η ρ : Type} [HistoryForm δ η ρ] (dispatcher : δ)
    (model : InterfaceModel) : Prop :=
  ∀ (history : List ρ) name, name ∈ model.fields.map (·.name) →
    ∃ field, model.LastNamed name field ∧ Delegates (run dispatcher history) name field

section

variable {δ η ρ : Type} [HistoryForm δ η ρ] [StableForm δ] {dispatcher : δ}

/-- Behind the two checks, fields and methods take the same way. -/
theorem delegates_of_admitted {name : String} {field : Field}
    (found : (scope dispatcher).field name = .ok field)
    (admitted : checkMethod dispatcher field.method = .ok ()) :
    Delegates dispatcher name field where
  admitted := admitted
  readField := by
    intro wrapped supplied environment parameters bound
    rw [StableForm.readField_eq, StableForm.call_eq, found, admitted]
    simp only [Outcome.lookup_ok, CallScope.runField, CallScope.runMethod, bound]

/-- It is enough that the methods of all fields can be called. -/
theorem delegatesInHistories_of_admitted
    (admitted : ∀ (history : List ρ), ∀ field ∈ (scope dispatcher).compiled.model.fields,
      checkMethod (run dispatcher history) field.method = .ok ()) :
    DelegatesInHistories dispatcher (scope dispatcher).compiled.model := by
  intro history name known
  obtain ⟨named, member, rfl⟩ := List.mem_map.mp known
  obtain ⟨field, found⟩ := CallScope.exists_field member
  obtain ⟨earlier, later, order, same, unshared⟩ := CallScope.field_eq_ok_iff.mp found
  refine ⟨field, ⟨earlier, later, order, same, unshared⟩, ?_⟩
  apply delegates_of_admitted
  · rwa [scope_run]
  · exact admitted history field (by simp [order])

end

/-- Handles let every method be called. -/
theorem HandleDispatcher.delegatesInHistories (dispatcher : HandleDispatcher) :
    DelegatesInHistories dispatcher dispatcher.scope.compiled.model :=
  delegatesInHistories_of_admitted fun _ _ _ => rfl

/-- A union lets the methods of its contract be called. -/
theorem UnionDispatcher.delegatesInHistories (dispatcher : UnionDispatcher)
    (admitted : ∀ field ∈ dispatcher.scope.compiled.model.fields,
      dispatcher.checkMethod field.method = .ok ()) :
    DelegatesInHistories dispatcher dispatcher.scope.compiled.model := by
  refine delegatesInHistories_of_admitted fun history field member => ?_
  rw [run_eq]
  exact admitted field member

namespace ContractDeclaration

variable {declaration : ContractDeclaration} {options : CompilationOptions}
  {contract : CompiledContract}

/-- The method behind every field of a compiled contract has a signature. -/
theorem exists_signature_of_mem_fields (compiled : declaration.compile options = .compiled contract)
    {field : Field} (member : field ∈ contract.model.fields) :
    ∃ signature ∈ contract.adaptation.methods, signature.ident = field.method := by
  have listed (method : Method) (methodMember : method ∈ declaration.methods) :=
    exists_signature_of_mem compiled methodMember
  obtain ⟨directives, found, clean, rfl⟩ := clean_of_compiled compiled
  obtain ⟨method, methodMember, -, named, -⟩ := (clean.wellFormed_field member).origin
  rw [← named]
  exact listed method methodMember

/-- So a union over that contract lets it be called. -/
theorem checkMethod_of_mem_fields (compiled : declaration.compile options = .compiled contract)
    {union : UnionDispatcher} (closed : contract.dispatch = .closedUnion union.dispatch)
    {field : Field} (member : field ∈ contract.model.fields) :
    union.checkMethod field.method = .ok () := by
  obtain ⟨signature, listed, named⟩ := exists_signature_of_mem_fields compiled member
  have exposed : union.dispatch.methods.any (·.ident == field.method) = true := by
    rw [(exposes_of_compiled compiled closed).methods, List.any_eq_true]
    exact ⟨signature, listed, by simpa using named⟩
  rw [UnionDispatcher.checkMethod, if_pos exposed]

end ContractDeclaration

namespace Dispatcher

/-- A dispatcher of either form delegates the names of fields. -/
def Delegates (model : InterfaceModel) : Dispatcher → Prop
  | .openHandle handles => DelegatesInHistories handles model
  | .closedUnion union => DelegatesInHistories union model

/-- Every dispatcher over a compiled contract delegates its fields to their methods. -/
theorem create_delegates {declaration : ContractDeclaration} {options : CompilationOptions}
    {contract : CompiledContract} {parts : DispatcherParts} {dispatcher : Dispatcher}
    (compiled : declaration.compile options = .compiled contract)
    (created : create contract parts = .ok dispatcher) : dispatcher.Delegates contract.model := by
  obtain ⟨dispatch, -, rfl⟩ | ⟨dispatch, union, closed, made, rfl⟩ := form_of_create created
  · exact HandleDispatcher.delegatesInHistories
      (.create ⟨contract, parts.defaults⟩ dispatch parts.externals parts.bindings)
  · obtain ⟨-, variants, -, rfl⟩ := UnionDispatcher.create_eq_ok_iff.mp made
    refine UnionDispatcher.delegatesInHistories
      ⟨⟨contract, parts.defaults⟩, dispatch, variants.foldl UnionDispatcher.bindTag []⟩ ?_
    intro field member
    exact ContractDeclaration.checkMethod_of_mem_fields compiled closed member

theorem create_delegates_character :
    character.compile = .compiled characterContract ∧
      create characterContract ⟨[droidBinding, humanBinding], [], []⟩ =
        .ok (.closedUnion (characterDispatcher droidBinding)) ∧
      Delegates characterContract.model (.closedUnion (characterDispatcher droidBinding)) := by
  have made : UnionDispatcher.create ⟨characterContract, []⟩ characterUnion
      [droidBinding, humanBinding] = .ok (characterDispatcher droidBinding) :=
    create_characterDispatcher rfl
  have created : create characterContract ⟨[droidBinding, humanBinding], [], []⟩ =
      .ok (.closedUnion (characterDispatcher droidBinding)) := by
    rw [create]
    simp only [dispatch_characterContract, made]
    rfl
  exact ⟨compile_character, created, create_delegates compile_character created⟩

end Dispatcher

end InterfaceContract
