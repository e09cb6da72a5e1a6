/-
This file shows that the fields of a compiled contract line up with its methods by position.
-/

import InterfaceContract.Dispatcher.Call
import InterfaceContract.Proofs.Contract.Assembly
import InterfaceContract.Proofs.Field.Rules

namespace InterfaceContract

/-- A field mirrors a method if its arguments are those of the parameters, one for one, and if
whatever is bound to them has the length of the method's adapted signature. -/
structure Field.Mirrors (internal asynchronous : Bool) (method : Method) (field : Field) :
    Prop where
  named : field.method = method.ident
  arguments : List.Forall₂ (fun parameter argument =>
      parameter.resolve internal = .ok argument ∧ argument.Fits internal parameter)
    method.parameters field.arguments
  lengths : ∀ supplied environment values, field.bindArguments supplied environment = .ok values →
    values.length = method.parameters.length ∧
      values.length = (method.signature asynchronous).parameters.length
  values : ∀ supplied environment values, field.bindArguments supplied environment = .ok values →
    List.Forall₂ (fun parameter value => ∃ argument, parameter.resolve internal = .ok argument ∧
        argument.bind field.name supplied environment = .ok value)
      method.parameters values

/-- A compiled contract mirrors its declaration if its signatures are those of the methods and its
fields mirror the methods that are neither ignored nor downcasts, one for one and in their order. -/
structure CompiledContract.Mirrors (declaration : ContractDeclaration)
    (directives : ContractDirectives) (contract : CompiledContract) : Prop where
  signatures : contract.adaptation.methods =
    declaration.methods.map (Method.signature contract.adaptation.asynchronous)
  fields : List.Forall₂
    (Field.Mirrors directives.isInternal contract.adaptation.asynchronous)
    (declaration.methods.filter Method.isField) contract.model.fields

/-- What is bound to the arguments stands beside the parameters that the arguments come from. -/
theorem Field.forall₂_bindArguments {internal : Bool} {parameters : List Parameter} {field : Field}
    {supplied : List (String × Value)} {environment : Environment} {values : List Value}
    (resolved : List.Forall₂ (fun parameter argument => parameter.resolve internal = .ok argument)
      parameters field.arguments)
    (bound : field.bindArguments supplied environment = .ok values) :
    List.Forall₂ (fun parameter value => ∃ argument, parameter.resolve internal = .ok argument ∧
        argument.bind field.name supplied environment = .ok value)
      parameters values :=
  forall₂_through resolved (forall₂_of_mapM_eq_ok bound)

/-- An accepted field mirrors its method. -/
theorem Method.Accepted.mirrors {internal : Bool} {method : Method} {field : Field}
    (accepted : method.Accepted internal (.field field)) (asynchronous : Bool) :
    field.Mirrors internal asynchronous method := by
  cases accepted with
  | field found unignored unmarked checked resolved distinct =>
      refine ⟨rfl, ?_, ?_, ?_⟩
      · exact resolved.imp fun parameter argument alone => ⟨alone, parameter.fits_of_resolve alone⟩
      · intro supplied environment values bound
        have length := (Field.forall₂_bindArguments resolved bound).length_eq.symm
        refine ⟨length, ?_⟩
        rw [length, signature, List.length_map]
      · intro supplied environment values bound
        exact Field.forall₂_bindArguments resolved bound

namespace ContractDeclaration

/-- Every compiled contract mirrors its declaration, so no value is shifted to a neighbouring
parameter. -/
theorem compile_mirrors {declaration : ContractDeclaration} {options : CompilationOptions}
    {contract : CompiledContract} (compiled : declaration.compile options = .compiled contract) :
    ∃ directives, declaration.directives = .found directives ∧
      contract.Mirrors declaration directives := by
  obtain ⟨directives, found, clean, rfl⟩ := clean_of_compiled compiled
  refine ⟨directives, found, rfl, ?_⟩
  apply (forall₂_fields clean.forall₂_accepted).imp
  intro method field accepted
  exact accepted.mirrors _

theorem compile_mirrors_character :
    character.compile = .compiled (character.assembled characterDirectives {}) ∧
      ∃ directives, character.directives = .found directives ∧
        (character.assembled characterDirectives {}).Mirrors character directives :=
  ⟨compile_character, compile_mirrors compile_character⟩

end ContractDeclaration

end InterfaceContract
