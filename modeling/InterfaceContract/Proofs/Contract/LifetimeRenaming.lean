/-
This file shows that no field of a compiled contract depends on how the outputs of its methods name
their lifetimes.
-/

import InterfaceContract.Proofs.Contract.IgnoredMethods
import InterfaceContract.Proofs.TypeExpr.SameShape

namespace InterfaceContract

/-- The same method with another output. -/
def Method.withOutput (method : Method) (output : Option TypeExpr) : Method :=
  { method with output := output }

/-- The lifetimes in the output of a method get other names. -/
inductive Method.RenamesOutput (method : Method) : Method → Prop
  | intro {output : Option TypeExpr} (same : Option.Rel TypeExpr.SameShape method.output output) :
      RenamesOutput method (method.withOutput output)

/-- A method that is a downcast narrows to the same target as before. -/
def Method.KeepsTarget (method renamed : Method) : Prop :=
  method.isDowncast = true → renamed.narrowedType? = method.narrowedType?

/-- Items other than methods stay as they are. -/
inductive ContractItem.RenamesOutput : ContractItem → ContractItem → Prop
  | method {method renamed : Method} (renames : method.RenamesOutput renamed) :
      RenamesOutput (.method method) (.method renamed)
  | associatedType (item : AssociatedType) :
      RenamesOutput (.associatedType item) (.associatedType item)
  | associatedConstant (item : AssociatedConstant) :
      RenamesOutput (.associatedConstant item) (.associatedConstant item)

namespace Method

variable {method : Method} {output : Option TypeExpr}

theorem hideLifetimes_outputType_withOutput
    (same : Option.Rel TypeExpr.SameShape method.output output) :
    (method.withOutput output).outputType.hideLifetimes = method.outputType.hideLifetimes := by
  change (output.getD .unit).hideLifetimes = (method.output.getD .unit).hideLifetimes
  generalize method.output = declared at same ⊢
  cases same with
  | some same => exact (TypeExpr.hideLifetimes_eq_iff.mpr same).symm
  | none => rfl

theorem asField_withOutput (same : Option.Rel TypeExpr.SameShape method.output output)
    (internal : Bool) (directives : MethodDirectives) :
    (method.withOutput output).asField internal directives =
      method.asField internal directives := by
  have toField : (method.withOutput output).toField directives = method.toField directives := by
    funext name arguments
    rw [Method.toField, hideLifetimes_outputType_withOutput same]
    rfl
  cases checked : method.checkField internal directives with
  | error problem =>
      have checkedToo : (method.withOutput output).checkField internal directives =
          .error problem := checked
      rw [asField_of_error checked, asField_of_error checkedToo]
  | ok name =>
      have checkedToo : (method.withOutput output).checkField internal directives = .ok name :=
        checked
      rw [asField_of_ok checked, asField_of_ok checkedToo, toField]
      rfl

/-- A downcast reads nothing off an output but its target. -/
theorem asNarrowing_withOutput
    (target : (method.withOutput output).narrowedType? = method.narrowedType?) :
    (method.withOutput output).asNarrowing = method.asNarrowing := by
  rw [asNarrowing, asNarrowing, target]
  rfl

/-- A renamed method is classified as before, unless it is a downcast to another target. -/
theorem classify_withOutput (same : Option.Rel TypeExpr.SameShape method.output output)
    (target : method.KeepsTarget (method.withOutput output)) (internal : Bool) :
    (method.withOutput output).classify internal = method.classify internal := by
  have directivesToo : (method.withOutput output).directives = method.directives := rfl
  obtain ⟨failure, failed⟩ | ⟨directives, found, marked | ⟨unignored, marked⟩ |
    ⟨unignored, unmarked⟩⟩ := method.directives_cases
  · rw [classify_of_failed failed, classify_of_failed (directivesToo.trans failed)]
  · rw [classify_of_ignored found marked,
      classify_of_ignored (directivesToo.trans found) marked]
  · have downcast : method.isDowncast = true := by simp [isDowncast, found, unignored, marked]
    rw [classify_of_downcast found unignored marked,
      classify_of_downcast (directivesToo.trans found) unignored marked,
      asNarrowing_withOutput (target downcast)]
  · rw [classify_of_unmarked found unignored unmarked,
      classify_of_unmarked (directivesToo.trans found) unignored unmarked, asField_withOutput same]

/-- A method marked as a downcast is never accepted as a field. -/
theorem field?_classify_of_isDowncast (downcast : method.isDowncast = true) (internal : Bool) :
    (method.classify internal).result.bind Classification.field? = none := by
  cases found : method.directives with
  | failed failure => simp [isDowncast, found] at downcast
  | found directives =>
      simp only [isDowncast, found, Bool.and_eq_true, Option.isNone_iff_eq_none] at downcast
      rw [classify_of_downcast found downcast.1 downcast.2, Reporting.result_attempt]
      cases method.asNarrowing <;> rfl

/-- A renamed method is accepted as the same field. -/
theorem field?_classify_withOutput (same : Option.Rel TypeExpr.SameShape method.output output)
    (internal : Bool) :
    ((method.withOutput output).classify internal).result.bind Classification.field? =
      (method.classify internal).result.bind Classification.field? := by
  cases downcast : method.isDowncast with
  | true =>
      have downcastToo : (method.withOutput output).isDowncast = true := downcast
      rw [field?_classify_of_isDowncast downcast, field?_classify_of_isDowncast downcastToo]
  | false =>
      have target : method.KeepsTarget (method.withOutput output) := by
        intro marked
        rw [downcast] at marked
        cases marked
      rw [classify_withOutput same target]

end Method

namespace ContractDeclaration

variable {declaration : ContractDeclaration} {items : List ContractItem}
  {directives : ContractDirectives}

theorem forall₂_methods_of_renamesOutput
    (renames : List.Forall₂ ContractItem.RenamesOutput declaration.items items) :
    List.Forall₂ Method.RenamesOutput declaration.methods (declaration.withItems items).methods := by
  refine List.rel_filterMap ?_ renames
  intro item renamed related
  cases related with
  | method renames => exact .some renames
  | associatedType item => exact .none
  | associatedConstant item => exact .none

theorem acceptedFields_eq_filterMap (declaration : ContractDeclaration)
    (directives : ContractDirectives) :
    declaration.acceptedFields directives = declaration.methods.filterMap fun method =>
      (method.classify directives.isInternal).result.bind Classification.field? :=
  List.filterMap_filterMap

/-- All fields are the same, whichever methods are renamed. -/
theorem acceptedFields_withItems_of_renamesOutput
    (renames : List.Forall₂ ContractItem.RenamesOutput declaration.items items)
    (directives : ContractDirectives) :
    (declaration.withItems items).acceptedFields directives =
      declaration.acceptedFields directives := by
  rw [acceptedFields_eq_filterMap, acceptedFields_eq_filterMap]
  refine (filterMap_eq_of_forall₂ ?_).symm
  refine (forall₂_methods_of_renamesOutput renames).imp ?_
  rintro method _ ⟨same⟩
  exact (Method.field?_classify_withOutput same directives.isInternal).symm

/-- A renaming that leaves the targets of downcasts alone leaves every method as it is classified. -/
theorem map_classify_withItems_of_renamesOutput
    (renames : List.Forall₂ ContractItem.RenamesOutput declaration.items items)
    (targets : List.Forall₂ Method.KeepsTarget declaration.methods
      (declaration.withItems items).methods) (internal : Bool) :
    (declaration.withItems items).methods.map (Method.classify internal) =
      declaration.methods.map (Method.classify internal) := by
  rw [← List.forall₂_eq_eq_eq, List.forall₂_map_left_iff, List.forall₂_map_right_iff]
  refine (forall₂_and (forall₂_methods_of_renamesOutput renames) targets).flip.imp ?_
  rintro _ method ⟨⟨same⟩, target⟩
  exact Method.classify_withOutput same target internal

theorem methodReports_eq_flatMap (declaration : ContractDeclaration)
    (directives : ContractDirectives) :
    declaration.methodReports directives =
      (declaration.methods.map (Method.classify directives.isInternal)).flatMap
        Reporting.reports := by
  rw [methodReports, List.flatMap_map]

theorem accepted_eq_filterMap (declaration : ContractDeclaration)
    (directives : ContractDirectives) :
    declaration.accepted directives =
      (declaration.methods.map (Method.classify directives.isInternal)).filterMap
        Reporting.result := by
  rw [accepted, List.filterMap_map]
  rfl

section

variable (same : (declaration.withItems items).methods.map (Method.classify directives.isInternal) =
  declaration.methods.map (Method.classify directives.isInternal))

include same

/-- Methods that are classified alike are merged alike. -/
theorem mergeMethods_withItems_of_map_classify :
    (declaration.withItems items).mergeMethods directives =
      declaration.mergeMethods directives := by
  rw [mergeMethods, mergeMethods, acceptedDowncasts, acceptedDowncasts, accepted_eq_filterMap,
    accepted_eq_filterMap, same]

theorem lateReports_withItems_of_map_classify :
    (declaration.withItems items).lateReports directives =
      declaration.lateReports directives := by
  rw [lateReports, lateReports, mergeMethods_withItems_of_map_classify same,
    methodReports_eq_flatMap, methodReports_eq_flatMap, same]

end

/-- The fields of a compiled contract do not depend on how the outputs of its methods name their
lifetimes. Where downcasts keep their targets, neither does anything else in the model, nor whether the
contract compiles. -/
structure ForgetsLifetimes (declaration : ContractDeclaration) (items : List ContractItem)
    (options : CompilationOptions) : Prop where
  fields : ∀ contract renamed, declaration.compile options = .compiled contract →
    (declaration.withItems items).compile options = .compiled renamed →
      renamed.model.fields = contract.model.fields
  model : List.Forall₂ Method.KeepsTarget declaration.methods
      (declaration.withItems items).methods →
    Compilation.SameRejectionOr (fun contract renamed => renamed.model = contract.model)
      (declaration.compile options) ((declaration.withItems items).compile options)

theorem forgetsLifetimes_of_renamesOutput
    (renames : List.Forall₂ ContractItem.RenamesOutput declaration.items items)
    (options : CompilationOptions) : declaration.ForgetsLifetimes items options := by
  constructor
  case fields =>
    intro contract renamed compiled compiledToo
    obtain ⟨directives, found, -, rfl⟩ := clean_of_compiled compiled
    obtain ⟨_, foundToo, -, rfl⟩ := clean_of_compiled compiledToo
    obtain rfl := Extraction.found.inj (found.symm.trans foundToo)
    exact acceptedFields_withItems_of_renamesOutput renames directives
  case model =>
    intro targets
    cases found : declaration.directives with
    | failed failure =>
        have foundToo : (declaration.withItems items).directives = .failed failure := found
        rw [compile_of_failed found, compile_of_failed foundToo]
        rfl
    | found directives =>
        have foundToo : (declaration.withItems items).directives = .found directives := found
        have same := map_classify_withItems_of_renamesOutput renames targets directives.isInternal
        refine sameRejectionOr_compile found foundToo rfl
          (lateReports_withItems_of_map_classify same) ?_
        rw [assembled, assembled, mergeMethods_withItems_of_map_classify same,
          acceptedFields_withItems_of_renamesOutput renames directives]
        rfl

/-- Hiding lifetimes makes exactly the types equal that differ in nothing but their names. So the
fields of a compiled contract do not depend on these names. -/
theorem hideLifetimes_forgetsNames :
    (∀ type : TypeExpr, type.HidesLifetimes type.hideLifetimes) ∧
      (∀ left right : TypeExpr,
        (left.hideLifetimes == right.hideLifetimes) = true ↔ left.SameShape right) ∧
      ∀ (declaration : ContractDeclaration) (items : List ContractItem) (options : CompilationOptions),
        List.Forall₂ ContractItem.RenamesOutput declaration.items items →
          declaration.ForgetsLifetimes items options := by
  refine ⟨TypeExpr.hidesLifetimes, ?_, ?_⟩
  · intro left right
    rw [beq_iff_eq]
    exact TypeExpr.hideLifetimes_eq_iff
  · intro declaration items options renames
    exact forgetsLifetimes_of_renamesOutput renames options

/-- The type `&'a Cow<'a, str>`, with its lifetime named. -/
def borrowedCow (lifetime : String) : TypeExpr :=
  .reference false (some lifetime) (.path "Cow" [.lifetime lifetime, .type (.named "str")])

/-- The type `Option<&'a Human<'b>>`, with its lifetimes named. -/
def optionalHuman (lifetime inner : String) : TypeExpr :=
  .path "Option" [.type (.reference false (some lifetime) (.path "Human" [.lifetime inner]))]

def voyageDirectives : ContractDirectives where
  implementers := some [⟨human, ⟨1, 10⟩⟩]

/-- A contract with a field and a downcast, whose outputs name lifetimes. -/
def voyage (lifetime inner : String) : ContractDeclaration :=
  .ofOutline "Voyage" {
    directives := voyageDirectives
    items := [
      .method (.ofOutline "captain_name" { output := some (borrowedCow lifetime) }),
      .associatedConstant ⟨"DECKS", .named "u8", ⟨3, 1⟩⟩,
      .method (.ofOutline "as_human" {
        output := some (optionalHuman lifetime inner)
        directives := { downcast := some ⟨4, 1⟩ }
        span := ⟨4, 1⟩ })] }

theorem renamesOutput_voyage (lifetime inner other otherInner : String) :
    List.Forall₂ ContractItem.RenamesOutput (voyage lifetime inner).items
      (voyage other otherInner).items := by
  have cow : (borrowedCow lifetime).SameShape (borrowedCow other) :=
    TypeExpr.hideLifetimes_eq_iff.mp rfl
  have target : (optionalHuman lifetime inner).SameShape (optionalHuman other otherInner) :=
    TypeExpr.hideLifetimes_eq_iff.mp rfl
  exact .cons (.method (.intro (.some cow)))
    (.cons (.associatedConstant _) (.cons (.method (.intro (.some target))) .nil))

/-- Under other names the sample compiles to the same fields and the same model. -/
theorem hideLifetimes_forgetsNames_voyage :
    List.Forall₂ ContractItem.RenamesOutput (voyage "a" "a").items (voyage "b" "a").items ∧
      borrowedCow "a" ≠ borrowedCow "b" ∧
      (∃ contract renamed, (voyage "a" "a").compile = .compiled contract ∧
        (voyage "b" "a").compile = .compiled renamed ∧
        renamed.model.fields = contract.model.fields) ∧
      Compilation.SameRejectionOr (fun contract renamed => renamed.model = contract.model)
        (voyage "a" "a").compile (voyage "b" "a").compile := by
  have renames := renamesOutput_voyage "a" "a" "b" "a"
  obtain ⟨fields, model⟩ := hideLifetimes_forgetsNames.2.2 (voyage "a" "a") _ {} renames
  have compiled : (voyage "a" "a").compile =
      .compiled ((voyage "a" "a").assembled voyageDirectives {}) :=
    compile_eq_compiled_iff.mpr ⟨_, rfl, by decide +kernel, by decide +kernel, rfl⟩
  have compiledToo : (voyage "b" "a").compile =
      .compiled ((voyage "b" "a").assembled voyageDirectives {}) :=
    compile_eq_compiled_iff.mpr ⟨_, rfl, by decide +kernel, by decide +kernel, rfl⟩
  exact ⟨renames, by decide +kernel,
    ⟨_, _, compiled, compiledToo, fields _ _ compiled compiledToo⟩,
    model (.cons nofun (.cons (fun _ => rfl) .nil))⟩

/-- A downcast to a renamed target is none to the implementer any more. -/
example : (voyage "a" "b").reports = [(Problem.unknownDowncastTarget ⟨4, 1⟩).toDiagnostic] := by
  decide +kernel

end ContractDeclaration

end InterfaceContract
