/-
This file shows that a field binds its arguments before the body of its method runs.
-/

import InterfaceContract.Proofs.Dispatcher.History

namespace InterfaceContract

open HistoryForm

/-- On a wrapped value, the arguments of a field are bound before the body of its method is looked
for. -/
structure BindsFirst {δ η : Type} [DispatchForm δ η] (scope : CallScope) (dispatcher : δ)
    (wrapped : η) (bound : BoundValue) : Prop where
  missed : ∀ name field supplied environment argument, scope.field name = .ok field →
    field.FirstMissed supplied argument →
      DispatchForm.readField dispatcher wrapped name supplied environment =
        .deferIf scope.asynchronous (.refuse (.missingArgument field.name argument.name))
  served : ∀ name field supplied environment values, scope.field name = .ok field →
    List.Forall₂ (Argument.Receives supplied environment) field.arguments values →
      DispatchForm.readField dispatcher wrapped name supplied environment =
        .deferIf scope.asynchronous (scope.serve bound field.method values)

theorem ServedBy.bindsFirst {δ η ρ : Type} [HistoryForm δ η ρ] {scope : CallScope}
    {dispatcher : δ} {wrapped : η} {bound : BoundValue}
    (served : ServedBy scope dispatcher wrapped bound) :
    BindsFirst scope dispatcher wrapped bound where
  missed := by
    intro name field supplied environment argument found missed
    have failed : field.bindArguments supplied environment =
        .error (.missingArgument field.name argument.name) :=
      Field.bindArguments_eq_error_iff.mpr ⟨argument, missed, rfl⟩
    rw [served.readField, found, Outcome.lookup_ok, failed, Outcome.lookup_error]
  served := by
    intro name field supplied environment values found receives
    rw [served.readField, found, Outcome.lookup_ok, Field.bindArguments_eq_ok_iff.mpr receives,
      Outcome.lookup_ok]

/-- Whatever a dispatcher wraps in the course of a history, arguments are bound first from then on. -/
def BindsFirstInHistories {δ η ρ : Type} [HistoryForm δ η ρ] (scope : CallScope) (dispatcher : δ) :
    Prop :=
  ∀ (earlier later : List ρ) (request : ρ) (wrapped : η),
    answer (run dispatcher earlier) request = some (.ok wrapped) →
      ∃ bound, recognition (run dispatcher earlier) request = some bound ∧
        BindsFirst scope (run dispatcher (earlier ++ request :: later)) wrapped bound

theorem ServesHistories.bindsFirst {δ η ρ : Type} [HistoryForm δ η ρ] {scope : CallScope}
    {dispatcher : δ} (serves : ServesHistories scope dispatcher) :
    BindsFirstInHistories scope dispatcher := by
  intro earlier later request wrapped answered
  obtain ⟨bound, recognized, served⟩ := serves earlier later request wrapped answered
  exact ⟨bound, recognized, served.bindsFirst⟩

namespace Dispatcher

def BindsFirst (scope : CallScope) : Dispatcher → Prop
  | .openHandle handles => BindsFirstInHistories scope handles
  | .closedUnion union => BindsFirstInHistories scope union

theorem bindsFirst_of_create {contract : CompiledContract} {parts : DispatcherParts}
    {dispatcher : Dispatcher} (created : create contract parts = .ok dispatcher) :
    dispatcher.BindsFirst ⟨contract, parts.defaults⟩ := by
  obtain ⟨dispatch, -, rfl⟩ | ⟨dispatch, union, -, made, rfl⟩ := form_of_create created
  · exact (HandleDispatcher.servesHistories _).bindsFirst
  · rw [← UnionDispatcher.scope_of_create made]
    exact (UnionDispatcher.servesHistories (UnionDispatcher.nodup_tags_of_create made)).bindsFirst

end Dispatcher

namespace CompiledContract

/-- How the fields of a compiled contract bind their arguments, alone and in every dispatcher. -/
structure BindsArguments (contract : CompiledContract) : Prop where
  fields : ∀ field ∈ contract.model.fields, field.BindsArguments
  dispatchers : ∀ parts dispatcher, Dispatcher.create contract parts = .ok dispatcher →
    dispatcher.BindsFirst ⟨contract, parts.defaults⟩

/-- An argument that is missed is reported, the first one if there are several, and then no body runs.
Otherwise every position gets its value, and nothing depends on what is supplied under other names. -/
theorem compiled_bindsArguments (contract : CompiledContract) : contract.BindsArguments where
  fields field _ := field.bindsArguments
  dispatchers _ _ := Dispatcher.bindsFirst_of_create

/-- A field with a context, two defaults of which one is a null, an optional argument and two arguments
that have to be supplied. -/
def gathering : ContractDeclaration :=
  .ofOutline "Character" {
    items := [
      .method (.ofOutline "friends" {
        parameters := [
          .ofName "ctx" (.shared (.named "Database")) {},
          .ofName "first" (.named "i32") { directives := { fallback := some ⟨.number 10, ⟨2, 1⟩⟩ } },
          .ofName "after" (.named "String") { directives := { fallback := some ⟨.null, ⟨3, 1⟩⟩ } },
          .ofName "filter" (.path "std::option::Option" [.type (.named "Filter")]) {},
          .ofName "nickname" (.named "String") {},
          .ofName "home" (.named "String") {}] })] }

def friends : Field where
  name := "friends"
  type := .unit
  arguments := [
    .context (.named "Database"),
    .regular { name := "first", type := .named "i32", fallback := some (.number 10) },
    .regular { name := "after", type := .named "String", fallback := some .null },
    .regular { name := "filter", type := .path "std::option::Option" [.type (.named "Filter")] },
    .regular { name := "nickname", type := .named "String" },
    .regular { name := "home", type := .named "String" }]
  method := "friends"
  isAsync := false

theorem compile_gathering : gathering.compile = .compiled (gathering.assembled {} {}) :=
  ContractDeclaration.compile_eq_compiled_iff.mpr ⟨{}, rfl, by decide +kernel, by decide +kernel, rfl⟩

/-- Every kind of argument takes its value; without a home only that is reported, and arguments are
bound first in a dispatcher too. -/
theorem compiled_bindsArguments_gathering :
    gathering.compile = .compiled (gathering.assembled {} {}) ∧
      (gathering.assembled {} {}).model.fields = [friends] ∧
      friends.bindArguments [("nickname", .null), ("home", .text "Tatooine")]
          { context := .text "database" } =
        .ok [.text "database", .number 10, .null, .null, .null, .text "Tatooine"] ∧
      friends.bindArguments [("nickname", .null)] {} =
        .error (.missingArgument "friends" "home") ∧
      Dispatcher.create characterHandles.scope.compiled ⟨[droidBinding, humanBinding], [], []⟩ =
        .ok (.openHandle characterHandles) ∧
      Dispatcher.BindsFirst characterHandles.scope (.openHandle characterHandles) := by
  have created : Dispatcher.create characterHandles.scope.compiled
      ⟨[droidBinding, humanBinding], [], []⟩ = .ok (.openHandle characterHandles) := rfl
  have binds : friends.BindsArguments :=
    (compiled_bindsArguments (gathering.assembled {} {})).fields friends (List.mem_singleton.mpr rfl)
  have last : Segmented "std::option::Option" (["std", "option"] ++ ["Option"]) :=
    segmented_iff.mpr (by decide +kernel)
  have optional : TypeExpr.IsOption (.path "std::option::Option" [.type (.named "Filter")]) :=
    .path last _
  have required : ¬ TypeExpr.IsOption (.named "String") := by
    rw [← TypeExpr.isOptional_iff]
    decide +kernel
  refine ⟨compile_gathering, rfl, (binds.values _ _ _).mpr ?_, (binds.reports _ _ _).mpr ?_, created,
    (compiled_bindsArguments _).dispatchers _ _ created⟩
  · refine .cons .context (.cons (.regular ?_) (.cons (.regular ?_) (.cons (.regular ?_)
      (.cons (.regular (.given rfl)) (.cons (.regular (.given rfl)) .nil)))))
    · exact .byDefault (by decide) rfl nofun
    · exact .byDefault (by decide) rfl nofun
    · exact .leftOut (by decide) nofun optional
  · refine ⟨{ name := "home", type := .named "String" }, ⟨friends.arguments.dropLast, [], rfl,
      ⟨by decide, nofun, required⟩, ?_⟩, rfl⟩
    rintro other member ⟨absent, noDefault, unconditional⟩
    simp only [friends, List.dropLast, List.mem_cons, List.not_mem_nil, or_false, reduceCtorEq,
      false_or, Argument.regular.injEq] at member
    obtain rfl | rfl | rfl | rfl := member
    · cases noDefault _ rfl
    · cases noDefault _ rfl
    · exact unconditional optional
    · exact absent (by decide)

end CompiledContract

end InterfaceContract
