/-
This file shows that the declared downcasts of a compiled contract and the implementers that carry a
downcast correspond one to one.
-/

import InterfaceContract.Proofs.Contract.Implementers

namespace InterfaceContract

/-- A model carries exactly the given downcasts: they are in bijection with the implementers that
carry one, and each is bound to its partner alone, the one implementer of its type. -/
structure InterfaceModel.CarriesExactly (declared : List DeclaredDowncast)
    (model : InterfaceModel) : Prop where
  distinct : (model.implementers.map (·.type)).Nodup
  paired : ∃ pairing : Fin declared.length ≃
      {implementer // implementer ∈ model.implementers ∧ implementer.downcast.isSome},
    ∀ index, ∀ implementer ∈ model.implementers,
      (declared[index].BoundTo implementer ↔ implementer = pairing index) ∧
      (declared[index].target? = some implementer.type ↔ implementer = pairing index)

namespace ContractDeclaration

variable {declaration : ContractDeclaration} {directives : ContractDirectives}

/-- No two declared downcasts of a clean contract narrow to one type. -/
theorem Clean.nodup_declaredDowncasts (clean : declaration.Clean directives) :
    ((declaration.declaredDowncasts directives).map DeclaredDowncast.target?).Nodup := by
  have sameTargets : (declaration.declaredDowncasts directives).map DeclaredDowncast.target? =
      ((declaration.requests directives).map (·.target)).map some := by
    rw [List.map_map, ← List.forall₂_eq_eq_eq, List.forall₂_map_left_iff,
      List.forall₂_map_right_iff]
    exact clean.forall₂_requests.imp fun _ _ requests => requests.target?_eq
  rw [sameTargets]
  exact clean.nodup_targets.map (Option.some_injective _)

/-- No downcast is lost, doubled or made up: every compiled contract carries exactly the declared
ones. -/
theorem compile_carriesExactly {options : CompilationOptions} {contract : CompiledContract}
    (compiled : declaration.compile options = .compiled contract) :
    ∃ directives, declaration.directives = .found directives ∧
      contract.model.CarriesExactly (declaration.declaredDowncasts directives) := by
  obtain ⟨directives, found, clean, rfl⟩ := clean_of_compiled compiled
  have distinct := nodup_types_implementers declaration directives
  have distinctTypes : ((declaration.implementers directives).map fun implementer =>
      some implementer.type).Nodup := by
    have injected := distinct.map (Option.some_injective _)
    rwa [List.map_map] at injected
  refine ⟨directives, found, distinct, ?_⟩
  apply exists_pairing DeclaredDowncast.target?_of_boundTo clean.nodup_declaredDowncasts
    distinctTypes
  · intro declared member
    obtain ⟨implementer, implementerMember, bound⟩ := clean.exists_boundTo member
    exact ⟨implementer, implementerMember, bound.isSome_downcast, bound⟩
  · intro implementer member carries
    obtain existing | ⟨unbound, -⟩ := clean.boundTo_or_bare member
    · exact existing
    · rw [unbound] at carries
      cases carries

theorem compile_carriesExactly_character :
    character.compile = .compiled (character.assembled characterDirectives {}) ∧
      ∃ directives, character.directives = .found directives ∧
        (character.assembled characterDirectives {}).model.CarriesExactly
          (character.declaredDowncasts directives) :=
  ⟨compile_character, compile_carriesExactly compile_character⟩

end ContractDeclaration

end InterfaceContract
