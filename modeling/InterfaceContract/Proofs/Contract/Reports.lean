/-
This file shows that a compilation tells all that is wrong with a contract, and nothing else.
-/

import InterfaceContract.Proofs.Classification.Accounting
import InterfaceContract.Proofs.Contract.Implementers
import InterfaceContract.Proofs.Pipeline.Editing

namespace InterfaceContract

/-- A compilation tells exactly the given reports; it compiles exactly if there are none. -/
def Compilation.Tells {α : Type} (reports : List Diagnostic) : Compilation α → Prop
  | .compiled _ => reports = []
  | .rejected diagnostics => diagnostics = reports ∧ diagnostics ≠ []

namespace ContractDeclaration

theorem compile_tells_reports (declaration : ContractDeclaration) (options : CompilationOptions) :
    (declaration.compile options).Tells declaration.reports := by
  cases found : declaration.directives with
  | failed failure =>
      rw [compile_of_failed found, reports, found]
      exact ⟨rfl, List.cons_ne_nil _ _⟩
  | found directives =>
      rw [reports, found]
      simp only
      by_cases early : declaration.earlyReports directives = []
      · rw [compile_of_late found early, if_pos early]
        by_cases late : declaration.lateReports directives = []
        · rw [if_pos late]
          exact late
        · rw [if_neg late]
          exact ⟨rfl, late⟩
      · rw [compile_of_early found early, if_neg early]
        exact ⟨rfl, early⟩

/-- The name that a contract is exposed under, and the place that is to blame for it: a directive gives
both, or the declaration does, without the mark of a raw identifier. -/
inductive NamedAt (declaration : ContractDeclaration) (directives : ContractDirectives) :
    String → Span → Prop where
  | directive {name : Located String} (given : directives.name = some name) :
      NamedAt declaration directives name.value name.span
  | raw {name : String} (unnamed : directives.name = none)
      (marked : declaration.ident = "r#" ++ name) :
      NamedAt declaration directives name declaration.span
  | plain (unnamed : directives.name = none) (unmarked : ∀ name, declaration.ident ≠ "r#" ++ name) :
      NamedAt declaration directives declaration.ident declaration.span

/-- What is reported about the name of a contract. -/
inductive NameReported (declaration : ContractDeclaration) (directives : ContractDirectives) :
    List Diagnostic → Prop where
  | reserved {name : String} {span : Span} (named : declaration.NamedAt directives name span)
      (mark : ['_', '_'] <+: name.toList) (common : directives.internal = none) :
      NameReported declaration directives [{
        code := .reservedName
        message := "names starting with `__` are reserved for the introspection system"
        span := span
        notes := ["rename it, or mark the contract as `internal`"]
        related := none }]
  | free {name : String} {span : Span} (named : declaration.NamedAt directives name span)
      (allowed : ¬ ['_', '_'] <+: name.toList ∨ directives.internal.isSome) :
      NameReported declaration directives []

/-- The external downcasts that a contract declares. -/
def externalRequests (directives : ContractDirectives) : List DowncastRequest :=
  (DowncastMerge.external directives.declaredFunctions).requests

/-- The downcasts among its accepted methods. -/
def methodRequests (declaration : ContractDeclaration) (directives : ContractDirectives) :
    List DowncastRequest :=
  (DowncastMerge.methods (declaration.acceptedDowncasts directives)).requests

/-- The reports of a contract: that its directives cannot be read; or else what is wrong with its name
and its external downcasts; or else what is wrong with its methods, each looked at on its own, and with
the downcasts among them. The methods account for what is reported about them, and the downcasts are
answered one after another. -/
inductive AllReports (declaration : ContractDeclaration) : List Diagnostic → Prop where
  | unreadable {failure : DirectiveFailure} (failed : declaration.directives = .failed failure) :
      AllReports declaration [{
        code := .directiveFailure
        message := failure.message
        span := failure.span
        notes := []
        related := none }]
  | early {directives : ContractDirectives} {onName : List Diagnostic}
      (found : declaration.directives = .found directives)
      (named : declaration.NameReported directives onName)
      (answered : DowncastRequest.AllAnswered directives.declaredImplementers
        (externalRequests directives) directives.mergeExternal.reports)
      (faulty : onName ++ directives.mergeExternal.reports ≠ []) :
      AllReports declaration (onName ++ directives.mergeExternal.reports)
  | late {directives : ContractDirectives} (found : declaration.directives = .found directives)
      (named : declaration.NameReported directives [])
      (merged : directives.mergeExternal.reports = [])
      (accounted : ∀ method ∈ declaration.methods,
        method.Accounted directives.isInternal (method.classify directives.isInternal).result
          (method.classify directives.isInternal).reports)
      (answered : DowncastRequest.AllAnswered directives.declaredImplementers
        (externalRequests directives ++ declaration.methodRequests directives)
        (declaration.mergeMethods directives).reports) :
      AllReports declaration
        (declaration.methodReports directives ++ (declaration.mergeMethods directives).reports)

section

variable {declaration : ContractDeclaration} {directives : ContractDirectives}

theorem NameReported.worded {onName : List Diagnostic}
    (named : declaration.NameReported directives onName) : ∀ report ∈ onName, report.Worded := by
  cases named with
  | @reserved name span named mark common =>
      exact List.forall_mem_singleton.mpr ⟨_, .reservedName span⟩
  | free named allowed => exact List.forall_mem_nil _

theorem AllReports.worded {reports : List Diagnostic} (all : declaration.AllReports reports) :
    ∀ report ∈ reports, report.Worded := by
  cases all with
  | @unreadable failure failed =>
      exact List.forall_mem_singleton.mpr ⟨_, .directiveFailure failure⟩
  | early found named answered faulty =>
      rw [List.forall_mem_append]
      exact ⟨named.worded, fun report => Registry.worded_of_mem_acceptAll⟩
  | late found named merged accounted answered =>
      rw [List.forall_mem_append]
      refine ⟨?_, fun report => Registry.worded_of_mem_acceptAll⟩
      intro report member
      obtain ⟨method, methodMember, reported⟩ := List.mem_flatMap.mp member
      exact (accounted method methodMember).worded report reported

end

/-- A hook that counts its calls. -/
def countingHook : Hook StageResult Nat where
  before := some fun _ _ => modify fun session => { session with world := session.world + 1 }
  after := some fun _ _ _ => modify fun session => { session with world := session.world + 1 }

theorem countingHook_quiet : countingHook.Quiet where
  before := by
    rintro _ ⟨⟩ contract stage session
    rfl
  after := by
    rintro _ ⟨⟩ contract stage ending session
    rfl

/-- A hook that writes a note of its own under the first diagnostic. -/
def annotatingHook : EditingHook StageResult Nat where
  after := some fun _ _ _ => pure fun position diagnostic =>
    if position = 0 then { diagnostic with notes := diagnostic.notes ++ ["x"] } else diagnostic

theorem annotatingHook_quiet : annotatingHook.plain.Quiet where
  before := by
    rintro _ ⟨⟩
  after := by
    rintro _ ⟨⟩ contract stage ending session
    rfl

/-- A contract with a mutable receiver, a second context argument and an unknown downcast target. -/
def faultyCharacter : ContractDeclaration :=
  .ofOutline "Character" {
    directives := characterDirectives
    items := [
      .method (.ofOutline "rename" { receiver := some .mutable, span := ⟨2, 1⟩ }),
      .method (.ofOutline "friends" {
        parameters := [
          .ofName "ctx" (.named "Database") { span := ⟨3, 4⟩ },
          .ofName "context" (.named "Database") { span := ⟨3, 9⟩ }]
        span := ⟨3, 1⟩ }),
      .method (.ofOutline "as_wookiee" {
        output := some (optionalReference (.named "Wookiee"))
        span := ⟨4, 1⟩
        directives := { downcast := some ⟨4, 1⟩ } })] }

end ContractDeclaration

end InterfaceContract
