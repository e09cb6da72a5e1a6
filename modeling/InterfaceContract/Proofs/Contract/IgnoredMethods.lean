/-
This file shows that an ignored method leaves no trace in a compiled contract but its signature.
-/

import InterfaceContract.Proofs.Contract.Asynchrony

namespace InterfaceContract

/-- The signatures without the one of a method that stands between others. The flags of the others
differ only where that method alone makes the contract asynchronous. -/
structure Signature.Omits (forced : Bool) (before : List Method) (method : Method)
    (after : List Method) (whole rest : List Signature) : Prop where
  entry : ∃ asynchronous, whole[before.length]? = some (method.signature asynchronous)
  others : rest.map Signature.asAsync = (whole.eraseIdx before.length).map Signature.asAsync
  flags : rest ≠ whole.eraseIdx before.length →
    method.isAsync = true ∧ forced = false ∧ ∀ other ∈ before ++ after, other.isAsync = false

/-- A compiled contract omits nothing but the signature of a method. -/
structure CompiledContract.OmitsSignature (forced : Bool) (before : List Method) (method : Method)
    (after : List Method) (whole rest : CompiledContract) : Prop where
  model : rest.model = whole.model
  signatures : Signature.Omits forced before method after whole.adaptation.methods
    rest.adaptation.methods
  handle : ∀ dispatch, whole.dispatch = .openHandle dispatch → rest.dispatch = .openHandle dispatch
  union : ∀ dispatch, whole.dispatch = .closedUnion dispatch →
    ∃ methods, rest.dispatch = .closedUnion { dispatch with methods := methods } ∧
      Signature.Omits forced before method after dispatch.methods methods

namespace Adaptation

variable {forced : Bool} {before after : List Method} {method : Method}

/-- Either a method alone makes a contract asynchronous, or the contract is asynchronous without it
as well. -/
theorem isAsynchronous_cases (forced : Bool) (before : List Method) (method : Method)
    (after : List Method) :
    isAsynchronous forced (before ++ method :: after) = isAsynchronous forced (before ++ after) ∨
      method.isAsync = true ∧ forced = false ∧
        ∀ other ∈ before ++ after, other.isAsync = false := by
  cases suspended : method.isAsync with
  | false => exact .inl (by simp [isAsynchronous, suspended])
  | true =>
      cases without : isAsynchronous forced (before ++ after) with
      | true => exact .inl (by simp [isAsynchronous, suspended])
      | false =>
          rw [isAsynchronous, Bool.or_eq_false_iff, List.any_eq_false] at without
          exact .inr ⟨rfl, without.1, fun other member => by simpa using without.2 other member⟩

theorem omits_ofMethods (forced : Bool) (before : List Method) (method : Method)
    (after : List Method) :
    Signature.Omits forced before method after (ofMethods forced (before ++ method :: after)).methods
      (ofMethods forced (before ++ after)).methods := by
  have erased (asynchronous : Bool) :
      ((before ++ method :: after).map (Method.signature asynchronous)).eraseIdx before.length =
        (before ++ after).map (Method.signature asynchronous) := by
    rw [List.map_append, List.map_cons, List.eraseIdx_append_of_length_le (by simp)]
    simp
  have asAsync (asynchronous : Bool) (methods : List Method) :
      (methods.map (Method.signature asynchronous)).map Signature.asAsync =
        methods.map (Method.signature true) := by
    simp [Signature.asAsync, Method.signature]
  refine ⟨⟨isAsynchronous forced (before ++ method :: after), by simp [ofMethods]⟩, ?_, ?_⟩
  · rw [ofMethods, ofMethods, erased, asAsync, asAsync]
  · intro differ
    rcases isAsynchronous_cases forced before method after with same | alone
    · rw [ofMethods, ofMethods, erased, same] at differ
      exact absurd rfl differ
    · exact alone

end Adaptation

/-- The same contract with other items. -/
def ContractDeclaration.withItems (declaration : ContractDeclaration) (items : List ContractItem) :
    ContractDeclaration :=
  { declaration with items := items }

namespace Dispatch

variable {declaration : ContractDeclaration} {request : Option DispatchRequest}
  {implementers : List Implementer} {scalar : Scalar} {context : Option TypeExpr}
  {methods : List Signature}

/-- A handle carries no item of its contract. -/
theorem select_withItems_of_openHandle {dispatch : HandleDispatch}
    (selected : select declaration request implementers scalar context methods =
      .openHandle dispatch) (items : List ContractItem) (otherMethods : List Signature) :
    select (declaration.withItems items) request implementers scalar context otherMethods =
      .openHandle dispatch := by
  rcases request with _ | name | name
  · cases selected
  · exact selected
  · cases selected

/-- A union exposes the same associated items under other methods. -/
theorem select_withItems_of_closedUnion {dispatch : UnionDispatch}
    (selected : select declaration request implementers scalar context methods =
      .closedUnion dispatch) {items : List ContractItem}
    (sameTypes : (declaration.withItems items).associatedTypes = declaration.associatedTypes)
    (sameConstants : (declaration.withItems items).associatedConstants =
      declaration.associatedConstants) (otherMethods : List Signature) :
    select (declaration.withItems items) request implementers scalar context otherMethods =
      .closedUnion { dispatch with methods := otherMethods } := by
  rcases request with _ | name | name
  · cases selected
    rw [select, UnionDispatch.ofContract, sameTypes, sameConstants]
    rfl
  · cases selected
  · cases selected
    rw [select, UnionDispatch.ofContract, sameTypes, sameConstants]
    rfl

end Dispatch

/-- An ignored method is classified by its mark alone, whatever its shape. -/
theorem Method.classify_of_isIgnored {method : Method} (ignored : method.isIgnored = true)
    (internal : Bool) : method.classify internal = pure (some .ignored) := by
  cases found : method.directives with
  | failed failure => simp [isIgnored, found] at ignored
  | found directives =>
      have marked : directives.ignore.isSome := by simpa [isIgnored, found] using ignored
      exact classify_of_ignored found marked

namespace ContractDeclaration

section

variable {declaration : ContractDeclaration} {before after : List ContractItem} {method : Method}
  (listed : declaration.items = before ++ .method method :: after)

include listed

theorem methods_of_listed : declaration.methods =
    before.filterMap ContractItem.method? ++ method :: after.filterMap ContractItem.method? := by
  rw [methods, listed, List.filterMap_append, List.filterMap_cons]
  rfl

theorem associatedTypes_withItems :
    (declaration.withItems (before ++ after)).associatedTypes = declaration.associatedTypes := by
  rw [associatedTypes, associatedTypes, listed, withItems, List.filterMap_append,
    List.filterMap_append, List.filterMap_cons_none rfl]

theorem associatedConstants_withItems :
    (declaration.withItems (before ++ after)).associatedConstants =
      declaration.associatedConstants := by
  rw [associatedConstants, associatedConstants, listed, withItems, List.filterMap_append,
    List.filterMap_append, List.filterMap_cons_none rfl]

variable (ignored : method.isIgnored = true) (directives : ContractDirectives)

include ignored

/-- Without an ignored method the methods are reported alike. -/
theorem methodReports_withItems :
    (declaration.withItems (before ++ after)).methodReports directives =
      declaration.methodReports directives := by
  rw [methodReports, methodReports, methods_of_listed listed, methods, withItems,
    List.filterMap_append, List.flatMap_append, List.flatMap_append, List.flatMap_cons,
    Method.classify_of_isIgnored ignored, Reporting.reports_pure, List.nil_append]

/-- An ignored method adds one classification, which nothing is read off. -/
theorem exists_accepted_split :
    ∃ first last, declaration.accepted directives = first ++ .ignored :: last ∧
      (declaration.withItems (before ++ after)).accepted directives = first ++ last := by
  let result (method : Method) := (method.classify directives.isInternal).result
  refine ⟨(before.filterMap ContractItem.method?).filterMap result,
    (after.filterMap ContractItem.method?).filterMap result, ?_, ?_⟩
  · rw [accepted, methods_of_listed listed, List.filterMap_append, List.filterMap_cons,
      Method.classify_of_isIgnored ignored, Reporting.result_pure]
  · rw [accepted, methods, withItems, List.filterMap_append, List.filterMap_append]

theorem acceptedFields_withItems :
    (declaration.withItems (before ++ after)).acceptedFields directives =
      declaration.acceptedFields directives := by
  obtain ⟨first, last, whole, rest⟩ := exists_accepted_split listed ignored directives
  rw [acceptedFields, acceptedFields, whole, rest, List.filterMap_append, List.filterMap_append,
    List.filterMap_cons_none rfl]

theorem mergeMethods_withItems :
    (declaration.withItems (before ++ after)).mergeMethods directives =
      declaration.mergeMethods directives := by
  obtain ⟨first, last, whole, rest⟩ := exists_accepted_split listed ignored directives
  rw [mergeMethods, mergeMethods, acceptedDowncasts, acceptedDowncasts, whole, rest,
    List.filterMap_append, List.filterMap_append, List.filterMap_cons_none rfl]

theorem lateReports_withItems :
    (declaration.withItems (before ++ after)).lateReports directives =
      declaration.lateReports directives := by
  rw [lateReports, lateReports, methodReports_withItems listed ignored,
    mergeMethods_withItems listed ignored]

theorem assembled_withItems (options : CompilationOptions) :
    (declaration.assembled directives options).OmitsSignature directives.asynchronous.isSome
      (before.filterMap ContractItem.method?) method (after.filterMap ContractItem.method?)
      ((declaration.withItems (before ++ after)).assembled directives options) := by
  have omits := Adaptation.omits_ofMethods directives.asynchronous.isSome
    (before.filterMap ContractItem.method?) method (after.filterMap ContractItem.method?)
  have methodsOfRest : (declaration.withItems (before ++ after)).methods =
      before.filterMap ContractItem.method? ++ after.filterMap ContractItem.method? :=
    List.filterMap_append
  rw [assembled, assembled, acceptedFields_withItems listed ignored,
    mergeMethods_withItems listed ignored, methods_of_listed listed, methodsOfRest]
  refine ⟨rfl, omits, ?_, ?_⟩
  · intro dispatch selected
    exact Dispatch.select_withItems_of_openHandle selected (before ++ after) _
  · intro dispatch selected
    obtain ⟨-, methods⟩ := Dispatch.select_eq_closedUnion selected
    refine ⟨_, Dispatch.select_withItems_of_closedUnion selected
      (associatedTypes_withItems listed) (associatedConstants_withItems listed) _, ?_⟩
    rw [methods]
    exact omits

/-- Leaving out an ignored method changes neither the reports nor the model, whatever the method
declares beside its mark. -/
theorem compile_withoutIgnored (options : CompilationOptions) :
    Compilation.SameRejectionOr
      (fun whole rest => ∃ directives, declaration.directives = .found directives ∧
        whole.OmitsSignature directives.asynchronous.isSome
          (before.filterMap ContractItem.method?) method (after.filterMap ContractItem.method?) rest)
      (declaration.compile options)
      ((declaration.withItems (before ++ after)).compile options) := by
  cases found : declaration.directives with
  | failed failure =>
      have foundToo : (declaration.withItems (before ++ after)).directives = .failed failure := found
      rw [compile_of_failed found, compile_of_failed foundToo]
      rfl
  | found directives =>
      have foundToo : (declaration.withItems (before ++ after)).directives = .found directives :=
        found
      exact sameRejectionOr_compile found foundToo rfl
        (lateReports_withItems listed ignored directives)
        ⟨directives, rfl, assembled_withItems listed ignored directives options⟩

end

/-- An ignored method that is asynchronous and that no field could stand for. -/
def probe : Method :=
  .ofOutline "__probe" {
    receiver := none
    parameters := [.ofName "depth" (.named "u8") { failure := some ⟨"unknown directive", ⟨3, 9⟩⟩ }]
    isAsync := true
    hasDefault := true
    directives := { ignore := some ⟨3, 1⟩ } }

def titleItem : ContractItem :=
  .method (.ofOutline "title" { output := some (.named "String") })

def payloadItem : ContractItem :=
  .associatedType ⟨"Payload", [], ⟨4, 1⟩⟩

/-- A contract that is asynchronous for its ignored method only. -/
def probed : ContractDeclaration :=
  .ofOutline "Probed" { items := [titleItem, .method probe, payloadItem] }

theorem compile_withoutIgnored_probed :
    probed.items = [titleItem] ++ .method probe :: [payloadItem] ∧ probe.isIgnored = true ∧
      Compilation.SameRejectionOr
        (fun whole rest => ∃ directives, probed.directives = .found directives ∧
          whole.OmitsSignature directives.asynchronous.isSome
            ([titleItem].filterMap ContractItem.method?) probe
            ([payloadItem].filterMap ContractItem.method?) rest)
        probed.compile (probed.withItems ([titleItem] ++ [payloadItem])).compile ∧
      probed.reports = [] ∧ (probed.assembled {} {}).adaptation.asynchronous = true ∧
      ((probed.withItems [titleItem, payloadItem]).assembled {} {}).adaptation.asynchronous = false :=
  ⟨rfl, rfl, compile_withoutIgnored rfl rfl {}, by decide +kernel, rfl, rfl⟩

end ContractDeclaration

end InterfaceContract
