/-
This file writes the compilation of a contract as one equation over what its parts come to alone.
-/

import InterfaceContract.Contract.Compilation
import InterfaceContract.Declaration.Builder
import InterfaceContract.Proofs.Classification.Acceptance
import InterfaceContract.Proofs.Implementer.Merge

namespace InterfaceContract

namespace ContractDirectives

def isInternal (directives : ContractDirectives) : Bool :=
  directives.internal.isSome

def declaredImplementers (directives : ContractDirectives) : List (Located TypeExpr) :=
  directives.implementers.getD []

def declaredFunctions (directives : ContractDirectives) : List NarrowingFunction :=
  directives.externalDowncasts.getD []

/-- The merge of the declared implementers with the external downcasts. -/
def mergeExternal (directives : ContractDirectives) : Reporting Registry :=
  (Registry.ofDeclared directives.declaredImplementers).acceptExternal directives.declaredFunctions

end ContractDirectives

namespace ContractDeclaration

/-- The report on the name of a contract. -/
def nameReports (declaration : ContractDeclaration) (directives : ContractDirectives) :
    List Diagnostic :=
  if !directives.isInternal && Name.isReserved (directives.exposedName declaration.ident) then
    [(Problem.reservedName (directives.nameSpan declaration.span)).toDiagnostic]
  else []

/-- The reports that stop a compilation before any method is looked at. -/
def earlyReports (declaration : ContractDeclaration) (directives : ContractDirectives) :
    List Diagnostic :=
  declaration.nameReports directives ++ directives.mergeExternal.reports

/-- What each method is accepted as on its own, rejected ones left out. -/
def accepted (declaration : ContractDeclaration) (directives : ContractDirectives) :
    List Classification :=
  declaration.methods.filterMap fun method => (method.classify directives.isInternal).result

def acceptedFields (declaration : ContractDeclaration) (directives : ContractDirectives) :
    List Field :=
  (declaration.accepted directives).filterMap Classification.field?

def acceptedDowncasts (declaration : ContractDeclaration) (directives : ContractDirectives) :
    List NarrowingMethod :=
  (declaration.accepted directives).filterMap Classification.downcast?

/-- The merge of the accepted downcast methods with what the external downcasts left. -/
def mergeMethods (declaration : ContractDeclaration) (directives : ContractDirectives) :
    Reporting Registry :=
  directives.mergeExternal.result.acceptMethods (declaration.acceptedDowncasts directives)

/-- The reports on the methods, each looked at on its own. -/
def methodReports (declaration : ContractDeclaration) (directives : ContractDirectives) :
    List Diagnostic :=
  declaration.methods.flatMap fun method => (method.classify directives.isInternal).reports

/-- The reports on the methods, and then on the downcasts among them. -/
def lateReports (declaration : ContractDeclaration) (directives : ContractDirectives) :
    List Diagnostic :=
  declaration.methodReports directives ++ (declaration.mergeMethods directives).reports

/-- All that is wrong with a contract, as far as it is looked at. -/
def reports (declaration : ContractDeclaration) : List Diagnostic :=
  match declaration.directives with
  | .failed failure => [(Problem.directiveFailure failure).toDiagnostic]
  | .found directives =>
      if declaration.earlyReports directives = [] then declaration.lateReports directives
      else declaration.earlyReports directives

/-- The compiled contract that the accepted parts come to. -/
def assembled (declaration : ContractDeclaration) (directives : ContractDirectives)
    (options : CompilationOptions) : CompiledContract :=
  let fields := declaration.acceptedFields directives
  let implementers := (declaration.mergeMethods directives).result.implementers
  let context := directives.chosenContext fields implementers
  let threaded := ThreadedContract.ofDirectives declaration directives options
  let adaptation := Adaptation.ofMethods directives.asynchronous.isSome declaration.methods
  .ofParts declaration (.ofDirectives declaration directives) fields implementers context threaded
    adaptation (.select declaration directives.dispatch implementers threaded.scalar context
      adaptation.methods)

end ContractDeclaration

namespace ContractSettings

variable {declaration : ContractDeclaration}

theorem run_read_of_failed {failure : DirectiveFailure}
    (failed : declaration.directives = .failed failure) :
    (read declaration).run.run {} =
      (none, ⟨[(Problem.directiveFailure failure).toDiagnostic]⟩) := by
  rw [read, failed]
  rfl

theorem run_read_of_found {directives : ContractDirectives}
    (found : declaration.directives = .found directives) :
    (read declaration).run.run {} =
      (some (ofDirectives declaration directives), ⟨declaration.nameReports directives⟩) := by
  rw [read, found, ContractDeclaration.nameReports]
  change (if !directives.isInternal &&
      Name.isReserved (directives.exposedName declaration.ident) then
      _ else _ : Stopping ContractSettings).run.run {} = _
  split <;> rfl

end ContractSettings

namespace Registry

/-- The gate before the methods. -/
theorem run_ofDirectives (directives : ContractDirectives) (sink : Sink) :
    (Registry.ofDirectives directives).run.run sink =
      if sink.diagnostics ++ directives.mergeExternal.reports = [] then
        (some directives.mergeExternal.result, {})
      else (none, ⟨sink.diagnostics ++ directives.mergeExternal.reports⟩) :=
  Stopping.run_gate (appendOnly_acceptAll _ _) id sink

/-- The gate behind the methods. -/
theorem run_finish (registry : Registry) (downcasts : List NarrowingMethod) (sink : Sink) :
    (registry.finish downcasts).run.run sink =
      if sink.diagnostics ++ (registry.acceptMethods downcasts).reports = [] then
        (some (registry.acceptMethods downcasts).result.implementers, {})
      else (none, ⟨sink.diagnostics ++ (registry.acceptMethods downcasts).reports⟩) :=
  Stopping.run_gate (appendOnly_acceptAll _ _) implementers sink

end Registry

namespace ContractDeclaration

variable {declaration : ContractDeclaration} {directives : ContractDirectives}

theorem ofList_accepted (declaration : ContractDeclaration) (directives : ContractDirectives) :
    (classifyMethods directives.isInternal declaration.methods).result =
      .ofList (declaration.accepted directives) :=
  result_classifyMethods directives.isInternal declaration.methods

/-- A contract whose directives cannot be read reports that and nothing else. -/
theorem compile_of_failed {failure : DirectiveFailure}
    (failed : declaration.directives = .failed failure) (options : CompilationOptions) :
    declaration.compile options =
      .rejected [(Problem.directiveFailure failure).toDiagnostic] :=
  congrArg Compilation.ofRun
    (Pipeline.run_single_bind_of_stop (ContractSettings.run_read_of_failed failed) _)

/-- Early reports stop a compilation before any method is looked at. -/
theorem compile_of_early (found : declaration.directives = .found directives)
    (dirty : declaration.earlyReports directives ≠ []) (options : CompilationOptions) :
    declaration.compile options = .rejected (declaration.earlyReports directives) := by
  have external : (Registry.ofDirectives directives).run.run ⟨declaration.nameReports directives⟩ =
      (none, ⟨declaration.earlyReports directives⟩) := by
    rw [Registry.run_ofDirectives]
    exact if_neg dirty
  have ended : (declaration.pipeline options).run.run.run {} =
      (none, ⟨declaration.earlyReports directives⟩) := by
    refine (Pipeline.run_single_bind_of_pass (ContractSettings.run_read_of_found found) _).trans ?_
    exact Pipeline.run_single_bind_of_stop external _
  rw [compile, Compilation.ofPipeline, ended]
  rfl

/-- Without early reports the methods decide. -/
theorem compile_of_late (found : declaration.directives = .found directives)
    (clean : declaration.earlyReports directives = []) (options : CompilationOptions) :
    declaration.compile options =
      if declaration.lateReports directives = [] then
        .compiled (declaration.assembled directives options)
      else .rejected (declaration.lateReports directives) := by
  have external : (Registry.ofDirectives directives).run.run ⟨declaration.nameReports directives⟩ =
      (some directives.mergeExternal.result, {}) := by
    rw [Registry.run_ofDirectives]
    exact if_pos clean
  have classified :
      (liftM (classifyMethods directives.isInternal declaration.methods) : Stopping _).run.run {} =
        (some (.ofList (declaration.accepted directives)),
          ⟨declaration.methodReports directives⟩) := by
    rw [Stopping.run_lift, appendOnly_classifyMethods, ofList_accepted, reports_classifyMethods]
    rfl
  have finished := Registry.run_finish directives.mergeExternal.result
    (declaration.acceptedDowncasts directives) ⟨declaration.methodReports directives⟩
  have ended : (declaration.pipeline options).run.run.run {} =
      if declaration.lateReports directives = [] then
        (some (declaration.assembled directives options), {})
      else (none, ⟨declaration.lateReports directives⟩) := by
    refine (Pipeline.run_single_bind_of_pass (ContractSettings.run_read_of_found found) _).trans ?_
    refine (Pipeline.run_single_bind_of_pass external _).trans ?_
    refine (Pipeline.run_single_bind_of_pass classified _).trans ?_
    by_cases late : declaration.lateReports directives = []
    · rw [if_pos late]
      -- Behind the last gate no stage stops, and the results are put together.
      refine (Pipeline.run_single_bind_of_pass (finished.trans (if_pos late)) _).trans ?_
      rfl
    · rw [if_neg late]
      exact Pipeline.run_single_bind_of_stop (finished.trans (if_neg late)) _
  rw [compile, Compilation.ofPipeline, ended]
  split <;> rfl

/-- Exactly the contracts without a report are compiled. -/
theorem compile_eq_compiled_iff {options : CompilationOptions} {contract : CompiledContract} :
    declaration.compile options = .compiled contract ↔
      ∃ directives, declaration.directives = .found directives ∧
        declaration.earlyReports directives = [] ∧ declaration.lateReports directives = [] ∧
        contract = declaration.assembled directives options := by
  cases found : declaration.directives with
  | failed failure => simp [compile_of_failed found]
  | found directives =>
      by_cases early : declaration.earlyReports directives = []
      · by_cases late : declaration.lateReports directives = []
        · rw [compile_of_late found early, if_pos late]
          constructor
          · intro equal
            exact ⟨directives, rfl, early, late, (Compilation.compiled.inj equal).symm⟩
          · rintro ⟨_, ⟨⟩, -, -, rfl⟩
            rfl
        · simp [compile_of_late found early, late]
      · simp [compile_of_early found early, early]

/-- A contract is clean if none of its parts is reported. -/
structure Clean (declaration : ContractDeclaration) (directives : ContractDirectives) : Prop where
  name : declaration.nameReports directives = []
  external : directives.mergeExternal.reports = []
  methods : declaration.methodReports directives = []
  merge : (declaration.mergeMethods directives).reports = []

/-- Whatever is compiled is clean and put together from its accepted parts. -/
theorem clean_of_compiled {options : CompilationOptions} {contract : CompiledContract}
    (compiled : declaration.compile options = .compiled contract) :
    ∃ directives, declaration.directives = .found directives ∧ declaration.Clean directives ∧
      contract = declaration.assembled directives options := by
  obtain ⟨directives, found, early, late, assembled⟩ := compile_eq_compiled_iff.mp compiled
  obtain ⟨name, external⟩ := List.append_eq_nil_iff.mp early
  obtain ⟨methods, merge⟩ := List.append_eq_nil_iff.mp late
  exact ⟨directives, found, ⟨name, external, methods, merge⟩, assembled⟩

/-- Exactly the clean contracts are compiled. -/
theorem compile_eq_compiled_iff_clean {options : CompilationOptions} {contract : CompiledContract} :
    declaration.compile options = .compiled contract ↔
      ∃ directives, declaration.directives = .found directives ∧ declaration.Clean directives ∧
        contract = declaration.assembled directives options := by
  refine ⟨clean_of_compiled, ?_⟩
  rintro ⟨directives, found, clean, assembled⟩
  have early := List.append_eq_nil_iff.mpr ⟨clean.name, clean.external⟩
  have late := List.append_eq_nil_iff.mpr ⟨clean.methods, clean.merge⟩
  exact compile_eq_compiled_iff.mpr ⟨directives, found, early, late, assembled⟩

/-- The methods of a clean contract are accepted, one for one. -/
theorem Clean.forall₂_accepted (clean : declaration.Clean directives) :
    List.Forall₂ (Method.Accepted directives.isInternal) declaration.methods
      (declaration.accepted directives) :=
  forall₂_accepted_of_clean clean.methods

end ContractDeclaration

section

/-- The type `Option<&'a T>` that a downcast method returns. -/
def optionalReference (target : TypeExpr) : TypeExpr :=
  .path "std::option::Option" [.type (.reference false (some "a") target)]

def human : TypeExpr :=
  .path "Human" [.lifetime "a"]

def droid : TypeExpr :=
  .named "model::Droid"

/-- Humans are declared twice; droids have an external downcast. -/
def characterDirectives : ContractDirectives where
  implementers := some [⟨human, ⟨1, 10⟩⟩, ⟨droid, ⟨1, 20⟩⟩, ⟨human, ⟨1, 30⟩⟩]
  externalDowncasts := some [⟨droid, ⟨"droid_of", ⟨1, 40⟩⟩⟩]

/-- A contract with a field of every kind of argument, an ignored method and a downcast method. -/
def character : ContractDeclaration :=
  .ofOutline "Character" {
    directives := characterDirectives
    items := [
      .method (.ofOutline "home_planet" {
        parameters := [
          .ofName "ctx" (.shared (.named "Database")) {},
          .ofDestructuring "Point { x, y }" (.named "Point")
            { directives := { name := some ⟨"at", ⟨2, 4⟩⟩ } },
          .ofName "handle" (.named "Executor") { directives := { executor := some ⟨2, 9⟩ } }]
        output := some (.reference false (some "a") (.named "str")) }),
      .method (.ofOutline "__debug" { receiver := none, directives := { ignore := some ⟨3, 1⟩ } }),
      .method (.ofOutline "as_human" {
        parameters := [.ofName "db" (.shared (.named "Database")) {}]
        output := some (optionalReference human)
        directives := { downcast := some ⟨4, 1⟩ } })] }

/-- The same contract with directives that cannot be read. -/
def unreadableCharacter : ContractDeclaration :=
  { character with directives := .failed ⟨"bad", ⟨2, 3⟩⟩ }

theorem compile_character :
    character.compile = .compiled (character.assembled characterDirectives {}) :=
  ContractDeclaration.compile_eq_compiled_iff.mpr
    ⟨characterDirectives, rfl, by decide +kernel, by decide +kernel, rfl⟩

end

end InterfaceContract
