/-
This file shows that a contract which is forced to be asynchronous compiles to the same, but for its
signatures.
-/

import InterfaceContract.Proofs.Contract.Dispatch

namespace InterfaceContract

namespace Compilation

variable {α β : Type}

def map (change : α → β) : Compilation α → Compilation β
  | .compiled value => .compiled (change value)
  | .rejected diagnostics => .rejected diagnostics

/-- Both compilations are rejected for the same reasons, or both come to values that are related. -/
def SameRejectionOr (Related : α → β → Prop) : Compilation α → Compilation β → Prop
  | .compiled value, .compiled other => Related value other
  | .rejected diagnostics, .rejected others => diagnostics = others
  | _, _ => False

theorem sameRejectionOr_map {Related : α → β → Prop} {change : α → β} {compilation : Compilation α}
    (related : ∀ value, compilation = .compiled value → Related value (change value)) :
    SameRejectionOr Related compilation (compilation.map change) := by
  cases compilation with
  | compiled value => exact related value rfl
  | rejected diagnostics => rfl

theorem eq_map_of_sameRejectionOr {change : α → β} {compilation : Compilation α}
    {other : Compilation β}
    (same : SameRejectionOr (fun value image => image = change value) compilation other) :
    other = compilation.map change := by
  cases compilation with
  | compiled value =>
      cases other with
      | compiled image => exact congrArg _ same
      | rejected _ => cases same
  | rejected diagnostics =>
      cases other with
      | compiled _ => cases same
      | rejected others => exact congrArg _ (Eq.symm same)

end Compilation

/-- Contracts that are reported alike are rejected alike, or each is assembled. -/
theorem ContractDeclaration.sameRejectionOr_compile {declaration other : ContractDeclaration}
    {directives otherDirectives : ContractDirectives} {options : CompilationOptions}
    {Related : CompiledContract → CompiledContract → Prop}
    (found : declaration.directives = .found directives)
    (foundOther : other.directives = .found otherDirectives)
    (earlyReports : other.earlyReports otherDirectives = declaration.earlyReports directives)
    (lateReports : other.lateReports otherDirectives = declaration.lateReports directives)
    (related : Related (declaration.assembled directives options)
      (other.assembled otherDirectives options)) :
    Compilation.SameRejectionOr Related (declaration.compile options) (other.compile options) := by
  by_cases early : declaration.earlyReports directives = []
  · rw [compile_of_late found early, compile_of_late foundOther (earlyReports.trans early),
      lateReports]
    split
    · exact related
    · rfl
  · rw [compile_of_early found early, compile_of_early foundOther (by rwa [earlyReports])]
    exact earlyReports.symm

def Signature.asAsync (signature : Signature) : Signature :=
  { signature with isAsync := true }

def UnionDispatch.asAsync (dispatch : UnionDispatch) : UnionDispatch :=
  { dispatch with methods := dispatch.methods.map Signature.asAsync }

/-- A handle carries no signatures. -/
def Dispatch.asAsync : Dispatch → Dispatch
  | .openHandle dispatch => .openHandle dispatch
  | .closedUnion dispatch => .closedUnion dispatch.asAsync

def Adaptation.asAsync (adaptation : Adaptation) : Adaptation where
  asynchronous := true
  bounds := adaptation.bounds
  methods := adaptation.methods.map Signature.asAsync

/-- The same compiled contract with asynchronous signatures. -/
def CompiledContract.asAsync (contract : CompiledContract) : CompiledContract where
  model := contract.model
  dispatch := contract.dispatch.asAsync
  adaptation := contract.adaptation.asAsync

namespace Adaptation

variable {methods : List Method}

theorem isAsynchronous_eq_false (prompt : ∀ method ∈ methods, method.isAsync = false) :
    isAsynchronous false methods = false := by
  simpa [isAsynchronous] using prompt

/-- Where no method is asynchronous, forcing asynchrony adds no bound. -/
theorem ofMethods_true (methods : List Method) :
    ofMethods true methods = (ofMethods false methods).asAsync := by
  simp [ofMethods, asAsync, isAsynchronous, Signature.asAsync, Method.signature]

end Adaptation

theorem Dispatch.select_map_asAsync (declaration : ContractDeclaration)
    (request : Option DispatchRequest) (implementers : List Implementer) (scalar : Scalar)
    (context : Option TypeExpr) (methods : List Signature) :
    Dispatch.select declaration request implementers scalar context
        (methods.map Signature.asAsync) =
      (Dispatch.select declaration request implementers scalar context methods).asAsync := by
  rcases request with _ | _ | _ <;> rfl

namespace ContractDeclaration

variable {declaration : ContractDeclaration} {directives : ContractDirectives}

/-- The same contract, forced to be asynchronous. -/
def forceAsync (declaration : ContractDeclaration) (span : Span) : ContractDeclaration :=
  match declaration.directives with
  | .found directives =>
      { declaration with directives := .found { directives with asynchronous := some span } }
  | .failed _ => declaration

theorem forceAsync_of_found (found : declaration.directives = .found directives) (span : Span) :
    declaration.forceAsync span =
      { declaration with directives := .found { directives with asynchronous := some span } } := by
  rw [forceAsync, found]

theorem assembled_forceAsync (unforced : directives.asynchronous = none) (span : Span)
    (options : CompilationOptions) :
    declaration.assembled { directives with asynchronous := some span } options =
      (declaration.assembled directives options).asAsync := by
  have signatures : Adaptation.ofMethods directives.asynchronous.isSome declaration.methods =
      Adaptation.ofMethods false declaration.methods := by
    rw [unforced]
    rfl
  rw [assembled, assembled, signatures]
  simp only [Option.isSome_some, Adaptation.ofMethods_true]
  simp only [CompiledContract.ofParts, CompiledContract.asAsync, ← Dispatch.select_map_asAsync]
  rfl

/-- Whether a contract compiles, and with which reports it is rejected, does not depend on whether it
is forced to be asynchronous. -/
theorem compile_forceAsync (found : declaration.directives = .found directives)
    (unforced : directives.asynchronous = none) (span : Span) (options : CompilationOptions) :
    (declaration.forceAsync span).compile options =
      (declaration.compile options).map CompiledContract.asAsync := by
  have forced : (declaration.forceAsync span).directives =
      .found { directives with asynchronous := some span } := by
    rw [forceAsync_of_found found]
  have earlyReports : (declaration.forceAsync span).earlyReports
      { directives with asynchronous := some span } = declaration.earlyReports directives := by
    rw [forceAsync_of_found found]
    rfl
  have lateReports : (declaration.forceAsync span).lateReports
      { directives with asynchronous := some span } = declaration.lateReports directives := by
    rw [forceAsync_of_found found]
    rfl
  have assembled : (declaration.forceAsync span).assembled
      { directives with asynchronous := some span } options =
        (declaration.assembled directives options).asAsync := by
    rw [forceAsync_of_found found, ← assembled_forceAsync unforced span options]
    rfl
  exact Compilation.eq_map_of_sameRejectionOr
    (sameRejectionOr_compile found forced earlyReports lateReports assembled)

end ContractDeclaration

end InterfaceContract
