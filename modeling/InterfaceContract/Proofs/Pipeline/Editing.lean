/-
This file compares hooks that write into the diagnostics they are shown with hooks that leave them alone.
-/

import InterfaceContract.Pipeline.EditingHook
import InterfaceContract.Proofs.Pipeline.Recording

namespace InterfaceContract

variable {ρ ω α β : Type}

namespace EditingHook

/-- A hook leaves the diagnostics that it is shown as they are. -/
def LeavesShown (hook : EditingHook ρ ω) : Prop :=
  ∀ action ∈ hook.after, ∀ contract stage diagnostics session change left,
    (action contract stage (.stopped diagnostics)).run.run session = (.ok change, left) →
      diagnostics.mapIdx change = diagnostics

/-- What a hook leaves of the diagnostics that it is shown. -/
inductive Wrote (contract : String) (hook : EditingHook ρ ω) (diagnostics : List Diagnostic) :
    List Diagnostic → Prop where
  | nothing (absent : hook.after = none) : Wrote contract hook diagnostics diagnostics
  | changed {action : String → Stage → StageEnding ρ → HookAction ω DiagnosticEdit} {stage : Stage}
      {session left : Session ω} {change : DiagnosticEdit} (present : hook.after = some action)
      (finished : (action contract stage (.stopped diagnostics)).run.run session =
        (.ok change, left)) :
      Wrote contract hook diagnostics (diagnostics.mapIdx change)

variable {hook : EditingHook ρ ω} {hooks : List (EditingHook ρ ω)} {session : Session ω}

theorem Wrote.eq_of_leavesShown {contract : String} {diagnostics left : List Diagnostic}
    (wrote : hook.Wrote contract diagnostics left) (leaves : hook.LeavesShown) :
    left = diagnostics := by
  cases wrote with
  | nothing absent => rfl
  | changed present finished => exact leaves _ present _ _ _ _ _ _ finished

theorem run_discard_of_ok {action : HookAction ω β} {value : β} {left : Session ω}
    (finished : action.run.run session = (.ok value, left)) :
    (discard action).run.run session = (.ok (), left) :=
  Interrupt.run_bind_of_ok finished fun _ => pure ()

theorem run_discard_of_error {action : HookAction ω β} {interrupt : Interrupt} {left : Session ω}
    (raised : action.run.run session = (.error interrupt, left)) :
    (discard action).run.run session = (.error interrupt, left) :=
  Interrupt.run_bind_of_error raised fun _ => pure ()

/-- What a quiet action discards is there. -/
theorem exists_of_quiet_discard {action : HookAction ω β} (quiet : HookAction.Quiet (discard action))
    (session : Session ω) :
    ∃ value, action.run.run session = (.ok value, (discard action).leaves session) := by
  rcases ran : action.run.run session with ⟨interrupt | value, left⟩
  · have raised := quiet session
    rw [run_discard_of_error ran] at raised
    cases raised
  · rw [HookAction.leaves, run_discard_of_ok ran]
    exact ⟨value, rfl⟩

theorem mapIdx_unchanged (diagnostics : List Diagnostic) :
    diagnostics.mapIdx (fun _ diagnostic => diagnostic) = diagnostics := by
  apply List.ext_getElem?
  intro position
  rw [List.getElem?_mapIdx]
  exact Option.map_id'

theorem exists_change (quiet : hook.plain.Quiet)
    {performed : String → Stage → StageEnding ρ → HookAction ω DiagnosticEdit}
    (present : hook.after = some performed) (contract : String) (stage : Stage)
    (ending : StageEnding ρ) (session : Session ω) :
    ∃ change, (performed contract stage ending).run.run session =
      (.ok change, (discard (performed contract stage ending)).leaves session) := by
  apply exists_of_quiet_discard
  refine quiet.after (fun contract stage ending => discard (performed contract stage ending)) ?_
    contract stage ending
  rw [plain, present]
  rfl

theorem discard_bind_pure (action : HookAction ω Unit) (change : DiagnosticEdit) :
    discard (do action; pure change) = action := by
  simp [Functor.discard, map_const]

theorem plain_ofHook (hook : Hook ρ ω) : (ofHook hook).plain = hook := by
  cases hook with
  | mk before after =>
      cases after with
      | none => rfl
      | some action =>
          simp only [plain, ofHook, Option.map_some, Hook.mk.injEq, true_and, Option.some.injEq]
          funext contract stage ending
          exact discard_bind_pure _ _

/-- A hook without edits leaves what it is shown as it is. -/
theorem leavesShown_ofHook (hook : Hook ρ ω) : (ofHook hook).LeavesShown := by
  intro performed present contract stage diagnostics session change left finished
  obtain ⟨action, -, rfl⟩ := Option.map_eq_some_iff.mp present
  rcases ran : (action contract stage (.stopped diagnostics)).run.run session with
    ⟨interrupt | ⟨⟩, after⟩
  · rw [Interrupt.run_bind_of_error ran] at finished
    cases finished
  · rw [Interrupt.run_bind_of_ok ran] at finished
    cases finished
    exact mapIdx_unchanged diagnostics

/-- Records the calls of a hook under a name. -/
def recorded (name : String) (hook : EditingHook ρ ω) :
    EditingHook ρ (List (RecordedCall ρ) × ω) where
  before := hook.before.map fun action contract stage =>
    (action contract stage).recorded ⟨name, stage, none⟩
  after := hook.after.map fun action contract stage ending =>
    (action contract stage ending).recorded ⟨name, stage, some ending⟩

theorem discard_recorded (call : HookCall ρ) (action : HookAction ω β) :
    discard (action.recorded call) = HookAction.recorded call (discard action) := by
  apply ExceptT.ext
  funext session
  rcases ran : action.run.run ⟨session.store, session.world.2⟩ with ⟨interrupt | value, left⟩
  · trans
    · exact run_discard_of_error (HookAction.run_recorded_of_run ran call)
    · exact (HookAction.run_recorded_of_run (run_discard_of_error ran) call).symm
  · trans
    · exact run_discard_of_ok (HookAction.run_recorded_of_run ran call)
    · exact (HookAction.run_recorded_of_run (run_discard_of_ok ran) call).symm

theorem plain_recorded (name : String) (hook : EditingHook ρ ω) :
    (hook.recorded name).plain = hook.plain.recorded name := by
  cases hook with
  | mk before after =>
      cases after with
      | none => rfl
      | some action =>
          simp only [plain, recorded, Hook.recorded, Option.map_some, Hook.mk.injEq, true_and,
            Option.some.injEq]
          funext contract stage ending
          exact discard_recorded _ _

theorem LeavesShown.recorded (leaves : hook.LeavesShown) (name : String) :
    (hook.recorded name).LeavesShown := by
  intro performed present contract stage diagnostics session change left finished
  obtain ⟨action, actionPresent, rfl⟩ := Option.map_eq_some_iff.mp present
  rcases ran : (action contract stage (.stopped diagnostics)).run.run
    ⟨session.store, session.world.2⟩ with ⟨result, after⟩
  have recordedRun :=
    HookAction.run_recorded_of_run ran ⟨name, stage, some (.stopped diagnostics)⟩
  rw [recordedRun, Prod.mk.injEq] at finished
  rw [finished.1] at ran
  exact leaves action actionPresent contract stage diagnostics _ change after ran

def recordAll (hooks : List (String × EditingHook ρ ω)) :
    List (EditingHook ρ (List (RecordedCall ρ) × ω)) :=
  hooks.map fun (name, hook) => hook.recorded name

/-- The hooks under their names, without what they write. -/
def plainAll (hooks : List (String × EditingHook ρ ω)) : List (String × Hook ρ ω) :=
  hooks.map fun (name, hook) => (name, hook.plain)

/-- A quiet hook does what it does without what it writes. -/
theorem exists_run_stopped (quiet : hook.plain.Quiet) (contract : String) (stage : Stage)
    (watch : Watch ω) :
    ∃ shown, (hook.stopped contract stage).run.run watch = (.ok (), {
        sink := ⟨shown⟩
        session := HookAction.performAll
          (Hook.actionsAfter [hook.plain] contract stage (.stopped watch.sink.diagnostics))
          watch.session }) ∧
      hook.Wrote contract watch.sink.diagnostics shown := by
  cases present : hook.after with
  | none =>
      have idle : Hook.actionsAfter [hook.plain] contract stage
          (.stopped watch.sink.diagnostics) = [] := by
        simp [Hook.actionsAfter, plain, present]
      refine ⟨watch.sink.diagnostics, ?_, .nothing present⟩
      rw [stopped, present, idle]
      rfl
  | some performed =>
      obtain ⟨change, finished⟩ := exists_change quiet present contract stage
        (.stopped watch.sink.diagnostics) watch.session
      have performs : Hook.actionsAfter [hook.plain] contract stage
          (.stopped watch.sink.diagnostics) =
            [discard (performed contract stage (.stopped watch.sink.diagnostics))] := by
        simp [Hook.actionsAfter, plain, present]
      refine ⟨watch.sink.diagnostics.mapIdx change, ?_, .changed present finished⟩
      rw [stopped, present, performs]
      exact Watched.run_ofHook_bind finished Watched.edit

theorem callStopped_cons (hook : EditingHook ρ ω) (hooks : List (EditingHook ρ ω))
    (contract : String) (stage : Stage) :
    callStopped (hook :: hooks) contract stage =
      hook.stopped contract stage >>= fun _ => callStopped hooks contract stage := rfl

/-- Quiet hooks that leave what they are shown as it is do what plain hooks do. -/
theorem run_callStopped_of_leaves (quiet : ∀ hook ∈ hooks, hook.plain.Quiet)
    (leaves : ∀ hook ∈ hooks, hook.LeavesShown) (contract : String) (stage : Stage)
    (watch : Watch ω) :
    (callStopped hooks contract stage).run.run watch = (.ok (),
      { watch with
        session := HookAction.performAll
          (Hook.actionsAfter (hooks.map plain) contract stage (.stopped watch.sink.diagnostics))
          watch.session }) := by
  induction hooks generalizing watch with
  | nil => rfl
  | cons hook hooks inductionHypothesis =>
      rw [List.forall_mem_cons] at quiet leaves
      obtain ⟨shown, ran, wrote⟩ := exists_run_stopped quiet.1 contract stage watch
      have both : Hook.actionsAfter ((hook :: hooks).map plain) contract stage
            (.stopped watch.sink.diagnostics) =
          Hook.actionsAfter [hook.plain] contract stage (.stopped watch.sink.diagnostics) ++
            Hook.actionsAfter (hooks.map plain) contract stage
              (.stopped watch.sink.diagnostics) := by
        rw [List.map_cons, ← List.singleton_append]
        exact List.filterMap_append
      rw [callStopped_cons, Interrupt.run_bind_of_ok ran, wrote.eq_of_leavesShown leaves.1,
        inductionHypothesis quiet.2 leaves.2, both, HookAction.performAll_append]

end EditingHook

namespace Pipeline

variable {hooks : List (EditingHook ρ ω)}

theorem quiet_map_plain (quiet : ∀ hook ∈ hooks, hook.plain.Quiet) :
    ∀ hook ∈ hooks.map EditingHook.plain, hook.Quiet :=
  List.forall_mem_map.mpr quiet

section

variable {β : Type} {name : Stage} {body : Stopping β} {present : β → ρ} {next : β → Pipeline ρ α}
  {watch : Watch ω} {sink : Sink}

/-- Behind a stage that stops the hooks are called once more, and the run ends with what they leave. -/
theorem runEdited_stage_of_stop (quiet : ∀ hook ∈ hooks, hook.plain.Quiet) {contract : String}
    (stopped : body.run.run watch.sink = (none, sink)) {left : Watch ω}
    (called : (EditingHook.callStopped hooks contract name).run.run {
        sink := sink
        session := HookAction.performAll
          (Hook.actionsBefore (hooks.map EditingHook.plain) contract name) watch.session } =
      (.ok (), left)) :
    ((stage β name body present next).runEdited hooks contract).run.run watch =
      (.error .stop, left) := by
  have started := Hook.run_callBefore (quiet_map_plain quiet) contract name watch.session
  rw [runEdited, Watched.run_ofHook_bind started, Watched.run_ofBody_bind, stopped]
  exact Interrupt.run_bind_of_ok called _

/-- What a stage that passes came to is shown to the hooks, and the run goes on. -/
theorem runEdited_stage_of_pass (quiet : ∀ hook ∈ hooks, hook.plain.Quiet) (contract : String)
    {value : β} (passed : body.run.run watch.sink = (some value, sink)) :
    ((stage β name body present next).runEdited hooks contract).run.run watch =
      ((next value).runEdited hooks contract).run.run {
        sink := sink
        session := HookAction.performAll (Hook.actionsAround (hooks.map EditingHook.plain) contract
          ⟨name, .passed (present value)⟩) watch.session } := by
  have plain := quiet_map_plain quiet
  have started := Hook.run_callBefore plain contract name watch.session
  have shown := Hook.run_callAfter plain contract name (.passed (present value))
    (HookAction.performAll (Hook.actionsBefore (hooks.map EditingHook.plain) contract name)
      watch.session)
  rw [runEdited, Watched.run_ofHook_bind started, Watched.run_ofBody_bind, passed,
    Hook.actionsAround, HookAction.performAll_append]
  exact Watched.run_ofHook_bind shown _

end

/-- Under quiet hooks that leave what they are shown a run is that under plain hooks. -/
theorem runEdited_of_leaves (quiet : ∀ hook ∈ hooks, hook.plain.Quiet)
    (leaves : ∀ hook ∈ hooks, hook.LeavesShown) (contract : String) (pipeline : Pipeline ρ α)
    (watch : Watch ω) :
    (pipeline.runEdited hooks contract).run.run watch =
      (pipeline.runWith (hooks.map EditingHook.plain) contract).run.run watch := by
  rw [runWith_of_quiet (quiet_map_plain quiet)]
  induction pipeline generalizing watch with
  | finish value => rfl
  | stage β name body present next inductionHypothesis =>
      rw [run_stage]
      rcases ended : body.run.run watch.sink with ⟨_ | value, sink⟩
      · have called := EditingHook.run_callStopped_of_leaves quiet leaves contract name {
          sink := sink
          session := HookAction.performAll
            (Hook.actionsBefore (hooks.map EditingHook.plain) contract name) watch.session }
        rw [runEdited_stage_of_stop quiet ended called, stageRuns_stage_of_stop ended,
          List.flatMap_singleton, Hook.actionsAround, HookAction.performAll_append]
        rfl
      · rw [runEdited_stage_of_pass quiet contract ended, inductionHypothesis,
          stageRuns_stage_of_pass ended, List.flatMap_cons, HookAction.performAll_append]

end Pipeline

namespace Compilation

variable {hooks : List (EditingHook ρ ω)}

theorem watchEdited_of_leaves (quiet : ∀ hook ∈ hooks, hook.plain.Quiet)
    (leaves : ∀ hook ∈ hooks, hook.LeavesShown) (contract : String) (world : ω)
    (pipeline : Pipeline ρ α) :
    watchEdited hooks contract world pipeline =
      watch (hooks.map EditingHook.plain) contract world pipeline := by
  rw [watchEdited, watch, pipeline.runEdited_of_leaves quiet leaves]

/-- Quiet hooks that leave what they are shown as it is observe every compilation. -/
theorem observed_of_leaves {hooks : List (String × EditingHook ρ ω)}
    (quiet : ∀ entry ∈ hooks, entry.2.plain.Quiet) (leaves : ∀ entry ∈ hooks, entry.2.LeavesShown)
    (contract : String) (world : ω) (pipeline : Pipeline ρ α) :
    Observed (EditingHook.plainAll hooks) (.ofPipeline pipeline) (pipeline.stageRuns {})
      (watchEdited (hooks.map (·.2)) contract world pipeline)
      (watchEdited (EditingHook.recordAll hooks) contract ([], world) pipeline) := by
  have plainQuiet : ∀ entry ∈ EditingHook.plainAll hooks, entry.2.Quiet := by
    simpa only [EditingHook.plainAll, List.forall_mem_map] using quiet
  have watched : (hooks.map (·.2)).map EditingHook.plain =
      (EditingHook.plainAll hooks).map (·.2) := by
    simp only [EditingHook.plainAll, List.map_map]
    rfl
  have recorded : (EditingHook.recordAll hooks).map EditingHook.plain =
      Hook.recordAll (EditingHook.plainAll hooks) := by
    simp only [EditingHook.recordAll, EditingHook.plainAll, Hook.recordAll, List.map_map]
    apply List.map_congr_left
    intro entry _
    exact entry.2.plain_recorded entry.1
  have recordedQuiet : ∀ hook ∈ EditingHook.recordAll hooks, hook.plain.Quiet := by
    rw [EditingHook.recordAll, List.forall_mem_map]
    intro entry member
    rw [EditingHook.plain_recorded]
    exact (quiet entry member).recorded entry.1
  rw [watchEdited_of_leaves (List.forall_mem_map.mpr quiet) (List.forall_mem_map.mpr leaves),
    watchEdited_of_leaves recordedQuiet, watched, recorded]
  · exact observed_of_quiet plainQuiet contract world pipeline
  · rw [EditingHook.recordAll, List.forall_mem_map]
    intro entry member
    exact (leaves entry member).recorded entry.1

end Compilation

end InterfaceContract
