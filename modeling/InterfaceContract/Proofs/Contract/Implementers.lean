/-
This file shows which implementers a contract has and which downcast requests they serve.
-/

import InterfaceContract.Proofs.Contract.Assembly
import InterfaceContract.Proofs.Downcast.Binding
import InterfaceContract.Proofs.Implementer.MergeHistory

namespace InterfaceContract

namespace ContractDeclaration

variable {declaration : ContractDeclaration} {directives : ContractDirectives}

/-- The downcasts of a contract in the order of their merge: external ones first. -/
def requests (declaration : ContractDeclaration) (directives : ContractDirectives) :
    List DowncastRequest :=
  directives.declaredFunctions.map NarrowingFunction.toRequest ++
    (declaration.acceptedDowncasts directives).map NarrowingMethod.toRequest

/-- The implementers of the compiled contract. -/
def implementers (declaration : ContractDeclaration) (directives : ContractDirectives) :
    List Implementer :=
  (declaration.mergeMethods directives).result.implementers

/-- Both merges are one. -/
theorem reports_acceptAll_requests (declaration : ContractDeclaration)
    (directives : ContractDirectives) :
    ((Registry.ofDeclared directives.declaredImplementers).acceptAll
        (declaration.requests directives)).reports =
      directives.mergeExternal.reports ++ (declaration.mergeMethods directives).reports :=
  Registry.reports_acceptAll_append _ _ _

/-- Each implementer is the first of its type, with the first request into it. -/
theorem implementers_eq (declaration : ContractDeclaration) (directives : ContractDirectives) :
    declaration.implementers directives =
      (firstOfEachType directives.declaredImplementers).map fun declared =>
        ((RegistryEntry.ofDeclared declared).offer
          (declaration.requests directives)).toImplementer := by
  have merged : (declaration.mergeMethods directives).result =
      ((Registry.ofDeclared directives.declaredImplementers).acceptAll
        (declaration.requests directives)).result :=
    (Registry.result_acceptAll_append _ _ _).symm
  rw [implementers, merged, Registry.result_acceptAll_ofDeclared, Registry.implementers_after]

theorem types_implementers (declaration : ContractDeclaration) (directives : ContractDirectives) :
    (declaration.implementers directives).map (fun implementer =>
        (⟨implementer.type, implementer.span⟩ : Located TypeExpr)) =
      firstOfEachType directives.declaredImplementers := by
  rw [implementers_eq, List.map_map]
  exact List.map_id' _

theorem nodup_types_implementers (declaration : ContractDeclaration)
    (directives : ContractDirectives) :
    ((declaration.implementers directives).map (·.type)).Nodup := by
  have distinct := Registry.distinct_ofDeclared directives.declaredImplementers
  rw [Registry.Distinct, Registry.entries_ofDeclared, List.map_map] at distinct
  rw [implementers_eq, List.map_map]
  exact distinct

/-- An implementer serves some request or carries nothing. -/
theorem serves_or_bare {implementer : Implementer}
    (member : implementer ∈ declaration.implementers directives) :
    (∃ request ∈ declaration.requests directives, implementer.Serves request) ∨
      implementer.downcast = none ∧ implementer.contextType = none := by
  rw [implementers_eq] at member
  obtain ⟨declared, -, rfl⟩ := List.mem_map.mp member
  cases found : (declaration.requests directives).find? (·.target == declared.value) with
  | none => exact .inr (RegistryEntry.bare_of_find?_eq_none found)
  | some request =>
      exact .inl ⟨request, List.mem_of_find?_eq_some found,
        RegistryEntry.serves_of_find?_eq_some found⟩

/-- No request into a clean contract is reported. -/
theorem Clean.acceptAll_requests (clean : declaration.Clean directives) :
    ((Registry.ofDeclared directives.declaredImplementers).acceptAll
      (declaration.requests directives)).reports = [] := by
  rw [reports_acceptAll_requests, clean.external, clean.merge]
  rfl

/-- Every request into a clean contract is served. -/
theorem Clean.exists_serves (clean : declaration.Clean directives) {request : DowncastRequest}
    (member : request ∈ declaration.requests directives) :
    ∃ implementer ∈ declaration.implementers directives, implementer.Serves request := by
  obtain ⟨distinctTargets, targets⟩ :=
    Registry.targets_of_clean (Registry.distinct_ofDeclared _) clean.acceptAll_requests
  obtain ⟨entry, entryMember, typed, -⟩ := targets request member
  rw [Registry.entries_ofDeclared] at entryMember
  obtain ⟨declared, declaredMember, rfl⟩ := List.mem_map.mp entryMember
  have found := (find?_key_eq_some_iff distinctTargets).mpr ⟨member, typed.symm⟩
  refine ⟨_, ?_, RegistryEntry.serves_of_find?_eq_some found⟩
  rw [implementers_eq]
  exact List.mem_map_of_mem declaredMember

/-- No two requests into a clean contract go to one type. -/
theorem Clean.nodup_targets (clean : declaration.Clean directives) :
    ((declaration.requests directives).map (·.target)).Nodup :=
  (Registry.targets_of_clean (Registry.distinct_ofDeclared _) clean.acceptAll_requests).1

/-- All downcasts that a contract declares: the external functions, then the methods marked as
downcasts. -/
def declaredDowncasts (declaration : ContractDeclaration) (directives : ContractDirectives) :
    List DeclaredDowncast :=
  directives.declaredFunctions.map .external ++
    (declaration.methods.filter Method.isDowncast).map .method

theorem mem_methods_of_declared {marked : Method}
    (member : .method marked ∈ declaration.declaredDowncasts directives) :
    marked ∈ declaration.methods := by
  rcases List.mem_append.mp member with external | internal
  · obtain ⟨_, _, ⟨⟩⟩ := List.mem_map.mp external
  · obtain ⟨_, filtered, ⟨⟩⟩ := List.mem_map.mp internal
    exact List.mem_of_mem_filter filtered

/-- Every declared downcast of a clean contract makes its request, in their order. -/
theorem Clean.forall₂_requests (clean : declaration.Clean directives) :
    List.Forall₂ DeclaredDowncast.Requests (declaration.declaredDowncasts directives)
      (declaration.requests directives) := by
  apply List.rel_append
  · rw [List.forall₂_map_left_iff, List.forall₂_map_right_iff, List.forall₂_same]
    intro downcast _
    exact .external downcast
  · rw [List.forall₂_map_left_iff, List.forall₂_map_right_iff]
    apply (forall₂_downcasts clean.forall₂_accepted).imp
    intro method narrowing accepted
    exact .method accepted

/-- An implementer of a clean contract is bound to by a declared downcast or carries nothing. -/
theorem Clean.boundTo_or_bare (clean : declaration.Clean directives) {implementer : Implementer}
    (member : implementer ∈ declaration.implementers directives) :
    (∃ declared ∈ declaration.declaredDowncasts directives, declared.BoundTo implementer) ∨
      implementer.downcast = none ∧ implementer.contextType = none := by
  obtain ⟨request, requestMember, served⟩ | bare := serves_or_bare member
  · obtain ⟨declared, declaredMember, requests⟩ :=
      exists_mem_of_forall₂ clean.forall₂_requests requestMember
    exact .inl ⟨declared, declaredMember, requests.boundTo served⟩
  · exact .inr bare

/-- Every declared downcast of a clean contract is bound to an implementer. -/
theorem Clean.exists_boundTo (clean : declaration.Clean directives) {declared : DeclaredDowncast}
    (member : declared ∈ declaration.declaredDowncasts directives) :
    ∃ implementer ∈ declaration.implementers directives, declared.BoundTo implementer := by
  obtain ⟨request, requestMember, requests⟩ :=
    exists_mem_of_forall₂ clean.forall₂_requests.flip member
  obtain ⟨implementer, implementerMember, served⟩ := clean.exists_serves requestMember
  exact ⟨implementer, implementerMember, requests.boundTo served⟩

end ContractDeclaration

end InterfaceContract
