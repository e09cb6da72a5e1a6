/-
This file shows that marking a contract as internal does nothing but lift the rule against reserved
names.
-/

import InterfaceContract.Proofs.Contract.Reports
import InterfaceContract.Proofs.Field.Reservation

namespace InterfaceContract

/-- No name in the model is reserved. -/
structure InterfaceModel.Unreserved (model : InterfaceModel) : Prop where
  name : Name.isReserved model.name = false
  fields : ∀ field ∈ model.fields, field.Unreserved

/-- The compilation of an internal contract differs from that of the same contract under the common
rules in nothing but the rule against reserved names. -/
structure Compilation.OnlyLiftsReservation (common internal : Compilation CompiledContract) :
    Prop where
  compiles : (∃ contract, common = .compiled contract) ↔
    ∃ contract, internal = .compiled contract ∧ contract.model.Unreserved
  same : ∀ contract other, common = .compiled contract → internal = .compiled other →
    contract = other
  unreported : ∀ diagnostics, internal = .rejected diagnostics →
    ∀ diagnostic ∈ diagnostics, diagnostic.code ≠ .reservedName

namespace Registry

/-- A downcast is never rejected for a name. -/
theorem code_ne_of_mem_reports_acceptAll {registry : Registry} {requests : List DowncastRequest}
    {diagnostic : Diagnostic} (member : diagnostic ∈ (registry.acceptAll requests).reports) :
    diagnostic.code ≠ .reservedName := by
  intro reserves
  obtain ⟨before, request, problem, rejected, rfl⟩ := exists_attach_of_mem_acceptAll member
  rw [attach] at rejected
  split at rejected
  · obtain rfl := Except.error.inj rejected
    cases reserves
  · split at rejected
    · obtain rfl := Except.error.inj rejected
      cases reserves
    · cases rejected

end Registry

def ContractDirectives.markInternal (directives : ContractDirectives) (span : Span) :
    ContractDirectives :=
  { directives with internal := some span }

namespace ContractDeclaration

variable {declaration : ContractDeclaration} {directives : ContractDirectives}

/-- The same contract, marked as internal. -/
def markInternal (declaration : ContractDeclaration) (span : Span) : ContractDeclaration :=
  match declaration.directives with
  | .found directives => { declaration with directives := .found (directives.markInternal span) }
  | .failed _ => declaration

theorem markInternal_of_found (found : declaration.directives = .found directives) (span : Span) :
    declaration.markInternal span =
      { declaration with directives := .found (directives.markInternal span) } := by
  rw [markInternal, found]

/-- Methods without a report are the accepted ones. -/
theorem forall₂_accepted_iff {classifications : List Classification} :
    List.Forall₂ (Method.Accepted directives.isInternal) declaration.methods classifications ↔
      declaration.methodReports directives = [] ∧
        declaration.accepted directives = classifications := by
  refine ⟨clean_of_forall₂_accepted, ?_⟩
  rintro ⟨clean, rfl⟩
  exact forall₂_accepted_of_clean clean

theorem nameReports_markInternal (declaration : ContractDeclaration)
    (directives : ContractDirectives) (span : Span) :
    declaration.nameReports (directives.markInternal span) = [] := rfl

theorem nameReports_eq_nil_iff (common : directives.internal = none) :
    declaration.nameReports directives = [] ↔
      Name.isReserved (directives.exposedName declaration.ident) = false := by
  simp [nameReports, ContractDirectives.isInternal, common]

/-- Under the common rules the methods are accepted exactly if they are accepted in an internal
contract and no field among them has a reserved name. -/
theorem accepted_markInternal_iff (common : directives.internal = none) (span : Span)
    {classifications : List Classification} :
    declaration.methodReports directives = [] ∧
        declaration.accepted directives = classifications ↔
      (declaration.methodReports (directives.markInternal span) = [] ∧
        declaration.accepted (directives.markInternal span) = classifications) ∧
          ∀ classification ∈ classifications, classification.Unreserved := by
  have exposed : directives.isInternal = false := by rw [ContractDirectives.isInternal, common]; rfl
  have internal : (directives.markInternal span).isInternal = true := rfl
  have bySplit : Method.Accepted false = fun method classification =>
      method.Accepted true classification ∧ classification.Unreserved := by
    funext method classification
    exact propext Method.accepted_false_iff
  rw [← forall₂_accepted_iff, ← forall₂_accepted_iff, exposed, internal, bySplit,
    forall₂_and_right_iff]

theorem mergeMethods_markInternal {span : Span}
    (same : declaration.accepted (directives.markInternal span) = declaration.accepted directives) :
    declaration.mergeMethods (directives.markInternal span) =
      declaration.mergeMethods directives := by
  rw [mergeMethods, acceptedDowncasts, same]
  rfl

/-- The same methods are assembled to the same contract. -/
theorem assembled_markInternal {span : Span}
    (same : declaration.accepted (directives.markInternal span) = declaration.accepted directives)
    (options : CompilationOptions) :
    declaration.assembled (directives.markInternal span) options =
      declaration.assembled directives options := by
  have fields : declaration.acceptedFields (directives.markInternal span) =
      declaration.acceptedFields directives := by rw [acceptedFields, same, acceptedFields]
  rw [assembled, assembled, fields, mergeMethods_markInternal same]
  rfl

theorem unreserved_assembled_iff {options : CompilationOptions} :
    (declaration.assembled directives options).model.Unreserved ↔
      Name.isReserved (directives.exposedName declaration.ident) = false ∧
        ∀ classification ∈ declaration.accepted directives, classification.Unreserved := by
  constructor
  · rintro ⟨name, fields⟩
    refine ⟨name, ?_⟩
    intro classification member field kept
    exact fields field (List.mem_filterMap.mpr ⟨classification, member, kept⟩)
  · rintro ⟨name, unreserved⟩
    refine ⟨name, ?_⟩
    intro field member
    obtain ⟨classification, classificationMember, kept⟩ := List.mem_filterMap.mp member
    exact unreserved classification classificationMember field kept

/-- Under the common rules a contract is clean exactly if it is clean as an internal one and no name
in its model is reserved, and then it is assembled to the same contract. -/
theorem clean_markInternal_iff (common : directives.internal = none) (span : Span)
    (options : CompilationOptions) {contract : CompiledContract} :
    declaration.Clean directives ∧ contract = declaration.assembled directives options ↔
      (declaration.Clean (directives.markInternal span) ∧
        contract = declaration.assembled (directives.markInternal span) options) ∧
          contract.model.Unreserved := by
  constructor
  · rintro ⟨clean, rfl⟩
    obtain ⟨⟨methods, same⟩, unreserved⟩ :=
      (accepted_markInternal_iff common span).mp ⟨clean.methods, rfl⟩
    have merge : (declaration.mergeMethods (directives.markInternal span)).reports = [] := by
      rw [mergeMethods_markInternal same]
      exact clean.merge
    refine ⟨⟨⟨nameReports_markInternal declaration directives span, clean.external, methods, merge⟩,
      (assembled_markInternal same options).symm⟩, ?_⟩
    exact unreserved_assembled_iff.mpr ⟨(nameReports_eq_nil_iff common).mp clean.name, unreserved⟩
  · rintro ⟨⟨clean, rfl⟩, unreserved⟩
    obtain ⟨name, unreservedFields⟩ := unreserved_assembled_iff.mp unreserved
    obtain ⟨methods, same⟩ :=
      (accepted_markInternal_iff common span).mpr ⟨⟨clean.methods, rfl⟩, unreservedFields⟩
    have merge : (declaration.mergeMethods directives).reports = [] := by
      rw [← mergeMethods_markInternal same.symm]
      exact clean.merge
    exact ⟨⟨(nameReports_eq_nil_iff common).mpr name, clean.external, methods, merge⟩,
      assembled_markInternal same.symm options⟩

/-- Whether a contract is clean depends on the directives that are looked at, and not on its own. -/
theorem clean_withDirectives_iff {own : Extraction ContractDirectives} :
    ({ declaration with directives := own } : ContractDeclaration).Clean directives ↔
      declaration.Clean directives :=
  ⟨fun clean => ⟨clean.name, clean.external, clean.methods, clean.merge⟩,
    fun clean => ⟨clean.name, clean.external, clean.methods, clean.merge⟩⟩

/-- A contract compiles under the common rules exactly if it compiles to the same as an internal one
and no name in the model is reserved. -/
theorem compile_eq_compiled_iff_markInternal (found : declaration.directives = .found directives)
    (common : directives.internal = none) (span : Span) {options : CompilationOptions}
    {contract : CompiledContract} :
    declaration.compile options = .compiled contract ↔
      (declaration.markInternal span).compile options = .compiled contract ∧
        contract.model.Unreserved := by
  rw [compile_eq_compiled_iff_clean, compile_eq_compiled_iff_clean, markInternal_of_found found, found]
  simp only [Extraction.found.injEq, exists_eq_left', clean_withDirectives_iff]
  exact clean_markInternal_iff common span options

/-- No name is reported in an internal contract. -/
theorem code_ne_of_mem_reports (found : declaration.directives = .found directives)
    (internal : directives.isInternal = true) {diagnostic : Diagnostic}
    (member : diagnostic ∈ declaration.reports) : diagnostic.code ≠ .reservedName := by
  have unnamed : declaration.nameReports directives = [] := by simp [nameReports, internal]
  rw [reports, found] at member
  simp only [earlyReports, unnamed, List.nil_append] at member
  split at member
  · rcases List.mem_append.mp member with classified | merged
    · obtain ⟨method, -, reported⟩ := List.mem_flatMap.mp classified
      intro reserves
      have common := Method.internal_eq_false_of_mem_reports_classify reported reserves
      rw [internal] at common
      cases common
    · exact Registry.code_ne_of_mem_reports_acceptAll merged
  · exact Registry.code_ne_of_mem_reports_acceptAll member

/-- The mark lifts the rule against reserved names and changes nothing else. -/
theorem markInternal_onlyLiftsReservation (found : declaration.directives = .found directives)
    (common : directives.internal = none) (span : Span) (options : CompilationOptions) :
    (declaration.compile options).OnlyLiftsReservation
      ((declaration.markInternal span).compile options) := by
  have compiles : ∀ contract, declaration.compile options = .compiled contract ↔
      (declaration.markInternal span).compile options = .compiled contract ∧
        contract.model.Unreserved :=
    fun _ => compile_eq_compiled_iff_markInternal found common span
  refine ⟨exists_congr compiles, ?_, ?_⟩
  · intro contract other compiledCommon compiledInternal
    obtain ⟨compiledToo, -⟩ := (compiles contract).mp compiledCommon
    exact Compilation.compiled.inj (compiledToo.symm.trans compiledInternal)
  · intro diagnostics rejected
    have marked : (declaration.markInternal span).directives =
        .found (directives.markInternal span) := by rw [markInternal_of_found found]
    have told := compile_tells_reports (declaration.markInternal span) options
    rw [rejected] at told
    obtain ⟨rfl, -⟩ := told
    intro diagnostic member
    exact code_ne_of_mem_reports marked rfl member

/-- A contract with a reserved field name and a reserved argument name. -/
def schema : ContractDeclaration :=
  .ofOutline "Schema" {
    items := [
      .method (.ofOutline "__kind" { span := ⟨2, 1⟩ }),
      .method (.ofOutline "fields" {
        parameters := [.ofName "__deprecated" (.named "bool") { span := ⟨3, 8⟩ }]
        span := ⟨3, 1⟩ })] }

theorem markInternal_onlyLiftsReservation_schema :
    schema.directives = .found {} ∧ ({} : ContractDirectives).internal = none ∧
      schema.compile.OnlyLiftsReservation (schema.markInternal ⟨1, 1⟩).compile ∧
      schema.reports = [
        (Problem.reservedName ⟨2, 1⟩).toDiagnostic, (Problem.reservedName ⟨3, 8⟩).toDiagnostic] ∧
      (schema.markInternal ⟨1, 1⟩).reports = [] :=
  ⟨rfl, rfl, markInternal_onlyLiftsReservation rfl rfl ⟨1, 1⟩ {}, by decide +kernel,
    by decide +kernel⟩

end ContractDeclaration

end InterfaceContract
