/-
This file shows that the model of every compiled contract obeys all rules at once.
-/

import InterfaceContract.Proofs.Contract.Implementers
import InterfaceContract.Proofs.Field.Rules
import InterfaceContract.Proofs.TypeExpr.LifetimeNames

namespace InterfaceContract

/-- The rules of a field that comes from one of the given methods. -/
structure Field.WellFormed (internal : Bool) (methods : List Method) (field : Field) : Prop where
  unreserved : internal = false → Name.isReserved field.name = false
  unreservedArguments : internal = false →
    ∀ argument, .regular argument ∈ field.arguments → Name.isReserved argument.name = false
  roles : ∀ role, field.arguments.countP (·.engineRole? == some role) ≤ 1
  lifetimes : ∀ lifetime ∈ field.type.lifetimes, lifetime = anonymousLifetime
  origin : ∃ method ∈ methods, (method.classify internal).result = some (.field field) ∧
    method.ident = field.method ∧ ∃ span, method.receiver = some ⟨.shared, span⟩

/-- The rules of an implementer whose downcast method is one of the given methods. -/
structure Implementer.WellFormed (methods : List Method) (implementer : Implementer) : Prop where
  contextType : implementer.contextType.isSome ↔
    ∃ name, implementer.downcast = some (.method name true)
  origin : ∀ name withContext, implementer.downcast = some (.method name withContext) →
    ∃ method ∈ methods, method.ident = name ∧
      method.Narrows implementer.type implementer.contextType

/-- The rules of the model that is compiled from a declaration. -/
structure InterfaceModel.WellFormed (declaration : ContractDeclaration)
    (directives : ContractDirectives) (model : InterfaceModel) : Prop where
  unreserved : directives.isInternal = false → Name.isReserved model.name = false
  fields : ∀ field ∈ model.fields, field.WellFormed directives.isInternal declaration.methods
  distinct : model.implementers.Pairwise fun earlier later => (earlier.type == later.type) = false
  firstDeclared : model.implementers.map (fun implementer =>
      (⟨implementer.type, implementer.span⟩ : Located TypeExpr)) =
    firstOfEachType directives.declaredImplementers
  implementers : ∀ implementer ∈ model.implementers, implementer.WellFormed declaration.methods

/-- An accepted field obeys the rules. -/
theorem Method.Accepted.wellFormed {internal : Bool} {methods : List Method} {method : Method}
    {field : Field} (member : method ∈ methods)
    (classified : (method.classify internal).result = some (.field field))
    (accepted : method.Accepted internal (.field field)) : field.WellFormed internal methods := by
  cases accepted with
  | field found unignored unmarked checked resolved distinct =>
      obtain ⟨-, unreserved, receiver⟩ := rules_of_checkField checked
      refine ⟨unreserved, ?_, ?_, ?_, ⟨method, member, classified, rfl, receiver⟩⟩
      · intro exposed argument argumentMember
        obtain ⟨parameter, -, alone⟩ := exists_mem_of_forall₂ resolved argumentMember
        exact (parameter.fits_of_resolve alone).2 exposed
      · intro role
        rw [← List.count_filterMap]
        exact List.nodup_iff_count_le_one.mp distinct role
      · intro lifetime
        exact TypeExpr.eq_anonymous_of_mem_lifetimes

namespace ContractDeclaration

variable {declaration : ContractDeclaration} {directives : ContractDirectives}

theorem Clean.wellFormed_field (clean : declaration.Clean directives) {field : Field}
    (member : field ∈ declaration.acceptedFields directives) :
    field.WellFormed directives.isInternal declaration.methods := by
  obtain ⟨classification, classificationMember, kept⟩ := List.mem_filterMap.mp member
  obtain ⟨method, methodMember, classified⟩ := List.mem_filterMap.mp classificationMember
  cases classification with
  | ignored => cases kept
  | downcast => cases kept
  | field accepted' =>
      obtain rfl := Option.some.inj kept
      obtain ⟨classification, classified', accepted⟩ :=
        Method.accepted_of_clean (List.flatMap_eq_nil_iff.mp clean.methods method methodMember)
      obtain rfl := Option.some.inj (classified.symm.trans classified')
      exact accepted.wellFormed methodMember classified

theorem Clean.wellFormed_implementer (clean : declaration.Clean directives)
    {implementer : Implementer}
    (member : implementer ∈ declaration.implementers directives) :
    implementer.WellFormed declaration.methods := by
  obtain ⟨declared, declaredMember, bound⟩ | ⟨unbound, contextless⟩ := clean.boundTo_or_bare member
  · cases declared with
    | external downcast =>
        obtain ⟨-, routed, contextless⟩ := bound
        exact ⟨by simp [routed, contextless], by simp [routed]⟩
    | method marked =>
        obtain ⟨narrows, routed⟩ := bound
        refine ⟨by simp [routed], ?_⟩
        intro name withContext bound
        rw [routed] at bound
        cases bound
        exact ⟨marked, mem_methods_of_declared declaredMember, rfl, narrows⟩
  · exact ⟨by simp [unbound, contextless], by simp [unbound]⟩

/-- The model of every compiled contract obeys all rules at once. -/
theorem compile_wellFormed {options : CompilationOptions} {contract : CompiledContract}
    (compiled : declaration.compile options = .compiled contract) :
    ∃ directives, declaration.directives = .found directives ∧
      contract.model.WellFormed declaration directives := by
  obtain ⟨directives, found, clean, rfl⟩ := clean_of_compiled compiled
  refine ⟨directives, found, ?_, ?_, ?_, ?_, ?_⟩
  · intro exposed
    change Name.isReserved (directives.exposedName declaration.ident) = false
    simpa [nameReports, exposed] using clean.name
  · intro field member
    exact clean.wellFormed_field member
  · have distinct := nodup_types_implementers declaration directives
    rw [List.Nodup, List.pairwise_map] at distinct
    exact distinct.imp beq_false_of_ne
  · exact types_implementers declaration directives
  · intro implementer member
    exact clean.wellFormed_implementer member

theorem compile_wellFormed_character :
    character.compile = .compiled (character.assembled characterDirectives {}) ∧
      ∃ directives, character.directives = .found directives ∧
        (character.assembled characterDirectives {}).model.WellFormed character directives :=
  ⟨compile_character, compile_wellFormed compile_character⟩

end ContractDeclaration

end InterfaceContract
