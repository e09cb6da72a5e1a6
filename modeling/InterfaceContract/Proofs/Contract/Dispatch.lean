/-
This file shows that the dispatch of a compiled contract exposes its implementers and its methods.
-/

import InterfaceContract.Proofs.Contract.Assembly
import InterfaceContract.Proofs.Dispatch.FreshTag

namespace InterfaceContract

/-- A union exposes a contract if its variants are the implementers, in their order and under
different tags, and its methods are those of the contract. -/
structure UnionDispatch.Exposes (contract : CompiledContract) (dispatch : UnionDispatch) :
    Prop where
  types : dispatch.variants.map (·.type) = contract.model.implementers.map (·.type)
  tags : (dispatch.variants.map (·.tag)).Nodup
  methods : dispatch.methods = contract.adaptation.methods

theorem Dispatch.select_eq_closedUnion {declaration : ContractDeclaration}
    {request : Option DispatchRequest} {implementers : List Implementer} {scalar : Scalar}
    {context : Option TypeExpr} {methods : List Signature} {dispatch : UnionDispatch}
    (selected : Dispatch.select declaration request implementers scalar context methods =
      .closedUnion dispatch) :
    dispatch.variants = Variant.ofTypes (implementers.map (·.type)) ∧
      dispatch.methods = methods := by
  rcases request with _ | _ | _
  · cases selected
    exact ⟨rfl, rfl⟩
  · cases selected
  · cases selected
    exact ⟨rfl, rfl⟩

theorem Dispatch.exists_closedUnion_of_select (declaration : ContractDeclaration)
    {request : Option DispatchRequest} (closed : ∀ name, request ≠ some (.openHandle name))
    (implementers : List Implementer) (scalar : Scalar) (context : Option TypeExpr)
    (methods : List Signature) :
    ∃ dispatch, Dispatch.select declaration request implementers scalar context methods =
      .closedUnion dispatch := by
  rcases request with _ | name | _
  · exact ⟨_, rfl⟩
  · exact absurd rfl (closed name)
  · exact ⟨_, rfl⟩

namespace ContractDeclaration

variable {declaration : ContractDeclaration}

/-- The union of a compiled contract exposes it. -/
theorem exposes_of_compiled {options : CompilationOptions} {contract : CompiledContract}
    {dispatch : UnionDispatch} (compiled : declaration.compile options = .compiled contract)
    (closed : contract.dispatch = .closedUnion dispatch) : dispatch.Exposes contract := by
  obtain ⟨directives, -, -, rfl⟩ := clean_of_compiled compiled
  obtain ⟨variants, methods⟩ := Dispatch.select_eq_closedUnion closed
  refine ⟨?_, ?_, methods⟩
  · rw [variants, Variant.types_ofTypes]
    rfl
  · rw [variants]
    exact Variant.nodup_tags_ofTypes _

/-- The signatures of a compiled contract are those of its methods. -/
theorem signatures_of_compiled {options : CompilationOptions} {contract : CompiledContract}
    (compiled : declaration.compile options = .compiled contract) :
    contract.adaptation.methods =
      declaration.methods.map (Method.signature contract.adaptation.asynchronous) := by
  obtain ⟨directives, -, -, rfl⟩ := clean_of_compiled compiled
  rfl

/-- The same contract with another request for its dispatch. -/
def withDispatch (declaration : ContractDeclaration) (request : Option DispatchRequest) :
    ContractDeclaration :=
  match declaration.directives with
  | .found directives =>
      { declaration with directives := .found { directives with dispatch := request } }
  | .failed _ => declaration

end ContractDeclaration

/-- Two compiled contracts describe the same interface if they differ in nothing that calls depend
on. -/
structure CompiledContract.SameInterface (left right : CompiledContract) : Prop where
  name : left.model.name = right.model.name
  fields : left.model.fields = right.model.fields
  implementers : left.model.implementers = right.model.implementers
  adaptation : left.adaptation = right.adaptation

namespace CompiledContract.SameInterface

variable {first second third : CompiledContract}

theorem symm (same : first.SameInterface second) : second.SameInterface first :=
  ⟨same.name.symm, same.fields.symm, same.implementers.symm, same.adaptation.symm⟩

theorem trans (same : first.SameInterface second) (next : second.SameInterface third) :
    first.SameInterface third :=
  ⟨same.name.trans next.name, same.fields.trans next.fields,
    same.implementers.trans next.implementers, same.adaptation.trans next.adaptation⟩

end CompiledContract.SameInterface

namespace ContractDeclaration

/-- Whether a contract compiles, and to which interface, does not depend on its dispatch. -/
theorem compile_withDispatch {declaration : ContractDeclaration} {options : CompilationOptions}
    {contract : CompiledContract} (compiled : declaration.compile options = .compiled contract)
    (request : Option DispatchRequest) :
    ∃ redirected, (declaration.withDispatch request).compile options = .compiled redirected ∧
      contract.SameInterface redirected ∧
      redirected.dispatch = .select declaration request redirected.model.implementers
        redirected.model.scalar redirected.model.context redirected.adaptation.methods := by
  obtain ⟨directives, found, early, late, rfl⟩ := compile_eq_compiled_iff.mp compiled
  have replaced : declaration.withDispatch request =
      { declaration with directives := .found { directives with dispatch := request } } := by
    rw [withDispatch, found]
  rw [replaced]
  exact ⟨_, compile_eq_compiled_iff.mpr ⟨_, rfl, early, late, rfl⟩, ⟨rfl, rfl, rfl, rfl⟩, rfl⟩

end ContractDeclaration

section

/-- The sample contract, compiled to a union. -/
def characterContract : CompiledContract :=
  character.assembled characterDirectives {}

def characterUnion : UnionDispatch :=
  .ofContract character "CharacterValue" characterContract.model.implementers
    characterContract.adaptation.methods

theorem dispatch_characterContract : characterContract.dispatch = .closedUnion characterUnion := rfl

theorem variants_characterUnion :
    characterUnion.variants = [⟨"Human", human⟩, ⟨"Droid", droid⟩] := by
  decide +kernel

theorem render_human : human.render = "Human<'a>" := by decide +kernel

theorem render_droid : droid.render = "model::Droid" := by decide +kernel

end

end InterfaceContract
