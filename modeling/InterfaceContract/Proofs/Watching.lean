/-
This file says which stages a compilation executes, and that hooks observe exactly these.
-/

import InterfaceContract.Block.Compilation
import InterfaceContract.Proofs.Contract.Reports
import InterfaceContract.Proofs.Pipeline.Recording

namespace InterfaceContract

namespace ContractDeclaration

/-- The stages that the compilation of a contract executes. -/
def stageRuns (declaration : ContractDeclaration) (options : CompilationOptions) :
    List (StageRun StageResult) :=
  (declaration.pipeline options).stageRuns {}

/-- Three of the stages may stop: the one that reads the directives, and the two that merge
downcasts. -/
theorem follows_pipeline (declaration : ContractDeclaration) (options : CompilationOptions) :
    Pipeline.Follows [.options, .externalDowncasts, .methodDowncasts] Stage.all
      (declaration.pipeline options) := by
  apply Pipeline.Follows.bind_of_mem (by decide)
  intro settings
  apply Pipeline.Follows.bind_of_mem (by decide)
  intro registry
  apply Pipeline.Follows.bind_lift
  intro classified
  apply Pipeline.Follows.bind_of_mem (by decide)
  intro implementers
  apply Pipeline.Follows.bind_pure
  intro context
  apply Pipeline.Follows.bind_pure
  intro threaded
  apply Pipeline.Follows.bind_pure
  intro adaptation
  apply Pipeline.Follows.bind_pure
  intro dispatch
  exact Pipeline.Follows.single_pure

example : (faultyCharacter.stageRuns {}).map (·.stage) =
    [.options, .externalDowncasts, .classify, .methodDowncasts] := by
  decide +kernel

/-- The first stage is the only one exactly if the directives cannot be read. -/
theorem stages_eq_options_iff (declaration : ContractDeclaration) (options : CompilationOptions) :
    (declaration.stageRuns options).map (·.stage) = [.options] ↔
      ∃ failure, declaration.directives = .failed failure := by
  cases found : declaration.directives with
  | failed failure =>
      have stopped : declaration.stageRuns options = [⟨.options, .stopped _⟩] :=
        Pipeline.stageRuns_stage_of_stop (ContractSettings.run_read_of_failed found) _
      rw [stopped]
      exact iff_of_true rfl ⟨failure, rfl⟩
  | found directives =>
      have passed : declaration.stageRuns options = ⟨.options, .passed _⟩ :: _ :=
        Pipeline.stageRuns_stage_of_pass (ContractSettings.run_read_of_found found) _
      rw [passed]
      simp only [List.map_cons, List.cons.injEq, true_and, List.map_eq_nil_iff]
      refine iff_of_false (Pipeline.stageRuns_stage_ne_nil _) ?_
      rintro ⟨failure, ⟨⟩⟩

/-- What hooks see of the compilation of a contract: it ends with the last stage, or with the first of
three that stops. It ends with the very first exactly if the directives cannot be read. -/
structure ObservedBy {ω : Type} (hooks : List (String × EditingHook StageResult ω))
    (world : ω) (options : CompilationOptions) (declaration : ContractDeclaration) : Prop where
  observed : Compilation.Observed (EditingHook.plainAll hooks) (declaration.compile options)
    (declaration.stageRuns options)
    (declaration.compileEdited (hooks.map (·.2)) world options)
    (declaration.compileEdited (EditingHook.recordAll hooks) ([], world) options)
  endsAlong : (declaration.compile options).EndsAlong
    [.options, .externalDowncasts, .methodDowncasts] Stage.all (declaration.stageRuns options)
  stages_eq_options_iff : (declaration.stageRuns options).map (·.stage) = [.options] ↔
    ∃ failure, declaration.directives = .failed failure

end ContractDeclaration

namespace ImplementationBlock

def stageRuns (block : ImplementationBlock) (options : CompilationOptions) :
    List (StageRun StageResult) :=
  (block.pipeline options).stageRuns {}

theorem follows_pipeline (block : ImplementationBlock) (options : CompilationOptions) :
    Pipeline.Follows [.options] [.options, .scalar, .async, .assemble]
      (block.pipeline options) := by
  apply Pipeline.Follows.bind_of_mem (by decide)
  intro directives
  apply Pipeline.Follows.bind_pure
  intro threaded
  apply Pipeline.Follows.bind_pure
  intro adaptation
  exact Pipeline.Follows.single_pure

/-- What hooks see of the compilation of a block: it ends with the last stage, or with the first. -/
structure ObservedBy {ω : Type} (hooks : List (String × EditingHook StageResult ω))
    (world : ω) (options : CompilationOptions) (block : ImplementationBlock) : Prop where
  observed : Compilation.Observed (EditingHook.plainAll hooks) (block.compile options)
    (block.stageRuns options)
    (block.compileEdited (hooks.map (·.2)) world options)
    (block.compileEdited (EditingHook.recordAll hooks) ([], world) options)
  endsAlong : (block.compile options).EndsAlong [.options] [.options, .scalar, .async, .assemble]
    (block.stageRuns options)

end ImplementationBlock

namespace EditingHook

/-- Quiet hooks that write nothing into what they are shown observe every compilation, of contracts and
of implementation blocks. -/
theorem observe_compilations {ω : Type} {hooks : List (String × EditingHook StageResult ω)}
    (quiet : ∀ entry ∈ hooks, entry.2.plain.Quiet) (leaves : ∀ entry ∈ hooks, entry.2.LeavesShown)
    (world : ω) (options : CompilationOptions) :
    (∀ declaration : ContractDeclaration, declaration.ObservedBy hooks world options) ∧
      ∀ block : ImplementationBlock, block.ObservedBy hooks world options := by
  constructor
  · intro declaration
    refine ⟨?_, ?_, declaration.stages_eq_options_iff options⟩
    · exact Compilation.observed_of_leaves quiet leaves declaration.ident world _
    · exact (declaration.follows_pipeline options).endsAlong {}
  · intro block
    refine ⟨?_, ?_⟩
    · exact Compilation.observed_of_leaves quiet leaves block.contractName world _
    · exact (block.follows_pipeline options).endsAlong {}

/-- Counts, under a key of its own, the stages that are over. -/
def tallyHook : Hook StageResult Nat where
  after := some fun _ _ _ => modify fun session =>
    { session with store := session.store.set "tally" (.number (session.store.count "tally" + 1)) }

theorem tallyHook_quiet : tallyHook.Quiet where
  before := by
    rintro _ ⟨⟩
  after := by
    rintro _ ⟨⟩ contract stage ending session
    rfl

def watchers : List (String × EditingHook StageResult Nat) :=
  [("calls", ofHook ContractDeclaration.countingHook), ("tally", ofHook tallyHook)]

theorem watchers_ownsCounter : Hook.OwnsCounter (plainAll watchers) "tally" "tally" := by
  have keeps {action : HookAction Nat Unit} (kept : action.Keeps "tally") :
      action.CountsFor "tally" "tally" "calls" := by
    rwa [HookAction.CountsFor, if_neg (by decide)]
  simp only [Hook.OwnsCounter, plainAll, watchers, List.map_cons, List.map_nil, plain_ofHook,
    List.forall_mem_cons]
  refine ⟨⟨?_, ?_⟩, ⟨?_, ?_⟩, List.forall_mem_nil _⟩
  · rintro _ ⟨⟩ contract stage
    exact keeps fun session => rfl
  · rintro _ ⟨⟩ contract stage ending
    exact keeps fun session => rfl
  · rintro _ ⟨⟩
  · rintro _ ⟨⟩ contract stage ending
    rw [HookAction.CountsFor, if_pos rfl]
    intro session
    exact HookStore.get?_set_same _ _ _

theorem observe_compilations_watchers :
    (∀ entry ∈ watchers, entry.2.plain.Quiet) ∧ (∀ entry ∈ watchers, entry.2.LeavesShown) ∧
      Hook.OwnsCounter (plainAll watchers) "tally" "tally" ∧
      (∀ declaration : ContractDeclaration, declaration.ObservedBy watchers 0 {}) ∧
      ∀ block : ImplementationBlock, block.ObservedBy watchers 0 {} := by
  have quiet : ∀ entry ∈ watchers, entry.2.plain.Quiet := by
    simp only [watchers, List.forall_mem_cons, plain_ofHook]
    exact ⟨ContractDeclaration.countingHook_quiet, tallyHook_quiet, List.forall_mem_nil _⟩
  have leaves : ∀ entry ∈ watchers, entry.2.LeavesShown := by
    simp only [watchers, List.forall_mem_cons]
    exact ⟨leavesShown_ofHook _, leavesShown_ofHook _, List.forall_mem_nil _⟩
  exact ⟨quiet, leaves, watchers_ownsCounter, observe_compilations quiet leaves 0 {}⟩

/-- A hook that raises nothing, but writes into the diagnostics that it is shown, changes the result. -/
theorem annotatingHook_changes :
    ContractDeclaration.annotatingHook.plain.Quiet ∧
      unreadableCharacter.compile = .rejected [{
        code := .directiveFailure
        message := "bad"
        span := ⟨2, 3⟩
        notes := [] }] ∧
      (unreadableCharacter.compileEdited [ContractDeclaration.annotatingHook] 0).1 =
        .ok (.rejected [{
          code := .directiveFailure
          message := "bad"
          span := ⟨2, 3⟩
          notes := ["x"] }]) ∧
      (unreadableCharacter.compileEdited [ContractDeclaration.annotatingHook] 0).1 ≠
        .ok unreadableCharacter.compile := by
  have failed : unreadableCharacter.directives = .failed ⟨"bad", ⟨2, 3⟩⟩ := rfl
  have quiet : ∀ hook ∈ [ContractDeclaration.annotatingHook], hook.plain.Quiet :=
    List.forall_mem_singleton.mpr ContractDeclaration.annotatingHook_quiet
  have alone : unreadableCharacter.compile =
      .rejected [⟨.directiveFailure, "bad", ⟨2, 3⟩, [], none⟩] :=
    ContractDeclaration.compile_of_failed failed {}
  have ended : ((unreadableCharacter.pipeline {}).runEdited [ContractDeclaration.annotatingHook]
      "Character").run.run { session := { world := 0 } } = (.error .stop, {
        sink := ⟨[⟨.directiveFailure, "bad", ⟨2, 3⟩, ["x"], none⟩]⟩
        session := { world := 0 } }) :=
    Pipeline.runEdited_stage_of_stop quiet (ContractSettings.run_read_of_failed failed) rfl
  have edited : (unreadableCharacter.compileEdited [ContractDeclaration.annotatingHook] 0).1 =
      .ok (.rejected [⟨.directiveFailure, "bad", ⟨2, 3⟩, ["x"], none⟩]) :=
    congrArg Compilation.ofWatched ended
  refine ⟨ContractDeclaration.annotatingHook_quiet, alone, edited, ?_⟩
  rw [edited, alone]
  simp

end EditingHook

end InterfaceContract
