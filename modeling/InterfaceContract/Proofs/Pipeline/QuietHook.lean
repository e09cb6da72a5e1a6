/-
This file shows that hooks that raise nothing leave the outcome of a pipeline as it is, and what they
make of their session.
-/

import InterfaceContract.Proofs.Pipeline.StageRuns

namespace InterfaceContract

variable {ρ ω α β : Type}

namespace Interrupt

variable {σ γ : Type} {action : ExceptT Interrupt (StateM σ) β} {state after : σ}

theorem run_bind_of_ok {value : β} (finished : action.run.run state = (.ok value, after))
    (next : β → ExceptT Interrupt (StateM σ) γ) :
    (action >>= next).run.run state = (next value).run.run after := by
  change (ExceptT.bindCont (fun value => next value) (action.run.run state).1).run
    (action.run.run state).2 = _
  rw [finished]
  rfl

theorem run_bind_of_error {interrupt : Interrupt}
    (raised : action.run.run state = (.error interrupt, after))
    (next : β → ExceptT Interrupt (StateM σ) γ) :
    (action >>= next).run.run state = (.error interrupt, after) := by
  change (ExceptT.bindCont (fun value => next value) (action.run.run state).1).run
    (action.run.run state).2 = _
  rw [raised]
  rfl

end Interrupt

/-- A quiet action comes to its end in every session. -/
def HookAction.Quiet (action : HookAction ω Unit) : Prop :=
  ∀ session : Session ω, (action.run.run session).1 = .ok ()

/-- A quiet hook raises nothing, whatever stage it is shown and whatever was stored before. -/
structure Hook.Quiet (hook : Hook ρ ω) : Prop where
  before : ∀ action ∈ hook.before, ∀ contract stage, HookAction.Quiet (action contract stage)
  after : ∀ action ∈ hook.after, ∀ contract stage ending,
    HookAction.Quiet (action contract stage ending)

namespace HookAction

/-- The session as an action leaves it. -/
def leaves (action : HookAction ω Unit) (session : Session ω) : Session ω :=
  (action.run.run session).2

/-- The session as several actions leave it, one after another. -/
def performAll (actions : List (HookAction ω Unit)) (session : Session ω) : Session ω :=
  actions.foldl (fun session action => action.leaves session) session

theorem performAll_append (first second : List (HookAction ω Unit)) (session : Session ω) :
    performAll (first ++ second) session = performAll second (performAll first session) :=
  List.foldl_append

theorem Quiet.run_bind {action : HookAction ω Unit} (quiet : action.Quiet)
    (next : Unit → HookAction ω Unit) (session : Session ω) :
    (action >>= next).run.run session = (next ()).run.run (action.leaves session) := by
  exact Interrupt.run_bind_of_ok (Prod.ext (quiet session) rfl) next

/-- Where there is an action for an item, it is performed. -/
theorem run_forM_of_quiet {choose : β → Option (HookAction ω Unit)} {items : List β}
    (quiet : ∀ item ∈ items, ∀ action ∈ choose item, action.Quiet) (session : Session ω) :
    (items.forM fun item => (choose item).getD (pure ())).run.run session =
      (.ok (), performAll (items.filterMap choose) session) := by
  induction items generalizing session with
  | nil => rfl
  | cons item items inductionHypothesis =>
      have rest : ∀ other ∈ items, ∀ action ∈ choose other, action.Quiet := by
        intro other member
        exact quiet other (List.mem_cons_of_mem item member)
      change ((choose item).getD (pure ()) >>= fun _ => items.forM _).run.run session = _
      cases chosen : choose item with
      | none =>
          rw [List.filterMap_cons_none chosen]
          exact inductionHypothesis rest session
      | some action =>
          rw [List.filterMap_cons_some chosen]
          have first : action.Quiet := quiet item List.mem_cons_self action chosen
          have performed := inductionHypothesis rest (action.leaves session)
          exact (first.run_bind _ session).trans performed

end HookAction

namespace Hook

variable {hooks : List (Hook ρ ω)}

def actionsBefore (hooks : List (Hook ρ ω)) (contract : String) (stage : Stage) :
    List (HookAction ω Unit) :=
  hooks.filterMap fun hook => hook.before.map fun action => action contract stage

def actionsAfter (hooks : List (Hook ρ ω)) (contract : String) (stage : Stage)
    (ending : StageEnding ρ) : List (HookAction ω Unit) :=
  hooks.filterMap fun hook => hook.after.map fun action => action contract stage ending

/-- All that hooks do around a stage. -/
def actionsAround (hooks : List (Hook ρ ω)) (contract : String) (run : StageRun ρ) :
    List (HookAction ω Unit) :=
  actionsBefore hooks contract run.stage ++ actionsAfter hooks contract run.stage run.ending

/-- Quiet hooks do what they do before a stage, and no more. -/
theorem run_callBefore (quiet : ∀ hook ∈ hooks, hook.Quiet) (contract : String) (stage : Stage)
    (session : Session ω) :
    (callBefore hooks contract stage).run.run session =
      (.ok (), HookAction.performAll (actionsBefore hooks contract stage) session) := by
  have called : callBefore hooks contract stage = hooks.forM fun hook =>
      (hook.before.map fun action => action contract stage).getD (pure ()) := by
    rw [callBefore]
    congr 1
    funext hook
    cases hook.before <;> rfl
  rw [called]
  apply HookAction.run_forM_of_quiet
  intro hook member action performed
  obtain ⟨performs, present, rfl⟩ := Option.map_eq_some_iff.mp performed
  exact (quiet hook member).before performs present contract stage

theorem run_callAfter (quiet : ∀ hook ∈ hooks, hook.Quiet) (contract : String) (stage : Stage)
    (ending : StageEnding ρ) (session : Session ω) :
    (callAfter hooks contract stage ending).run.run session =
      (.ok (), HookAction.performAll (actionsAfter hooks contract stage ending) session) := by
  have called : callAfter hooks contract stage ending = hooks.forM fun hook =>
      (hook.after.map fun action => action contract stage ending).getD (pure ()) := by
    rw [callAfter]
    congr 1
    funext hook
    cases hook.after <;> rfl
  rw [called]
  apply HookAction.run_forM_of_quiet
  intro hook member action performed
  obtain ⟨performs, present, rfl⟩ := Option.map_eq_some_iff.mp performed
  exact (quiet hook member).after performs present contract stage ending

end Hook

namespace Watched

/-- A stop is all that a run without hooks can be interrupted by. -/
def interruptOf : Option α → Except Interrupt α
  | some value => .ok value
  | none => .error .stop

theorem run_ofHook (action : HookAction ω β) (watch : Watch ω) :
    (Watched.ofHook action).run.run watch =
      ((action.run.run watch.session).1,
        { watch with session := (action.run.run watch.session).2 }) := rfl

/-- An action that comes to its end changes nothing but the session. -/
theorem run_ofHook_bind {action : HookAction ω β} {watch : Watch ω} {session : Session ω} {value : β}
    (finished : action.run.run watch.session = (.ok value, session)) (next : β → Watched ω α) :
    (Watched.ofHook action >>= next).run.run watch =
      (next value).run.run { watch with session := session } := by
  apply Interrupt.run_bind_of_ok
  rw [run_ofHook, finished]

/-- What a hook raises ends the run. -/
theorem run_ofHook_bind_of_error {action : HookAction ω β} {watch : Watch ω} {session : Session ω}
    {interrupt : Interrupt} (raised : action.run.run watch.session = (.error interrupt, session))
    (next : β → Watched ω α) :
    (Watched.ofHook action >>= next).run.run watch =
      (.error interrupt, { watch with session := session }) := by
  apply Interrupt.run_bind_of_error
  rw [run_ofHook, raised]

theorem run_ofBody_bind (body : Stopping β) (next : Option β → Watched ω α) (watch : Watch ω) :
    (Watched.ofBody body >>= next).run.run watch =
      (next (body.run.run watch.sink).1).run.run
        { watch with sink := (body.run.run watch.sink).2 } := rfl

end Watched

namespace Pipeline

/-- Under quiet hooks a run records and returns what it does with nobody watching, and the hooks do
what they do around each stage that is executed. -/
theorem runWith_of_quiet {hooks : List (Hook ρ ω)} (quiet : ∀ hook ∈ hooks, hook.Quiet)
    (contract : String) (pipeline : Pipeline ρ α) (watch : Watch ω) :
    (pipeline.runWith hooks contract).run.run watch =
      (Watched.interruptOf (pipeline.run.run.run watch.sink).1,
        { sink := (pipeline.run.run.run watch.sink).2,
          session := HookAction.performAll
            ((pipeline.stageRuns watch.sink).flatMap (Hook.actionsAround hooks contract))
            watch.session }) := by
  -- Both the sink and the session change from stage to stage, so every watch is considered.
  induction pipeline generalizing watch with
  | finish value => rfl
  | stage β name body present next inductionHypothesis =>
      have started := Hook.run_callBefore quiet contract name watch.session
      rw [runWith, Watched.run_ofHook_bind started, Watched.run_ofBody_bind, run_stage]
      rcases ended : body.run.run watch.sink with ⟨_ | value, sink⟩
      · have shown := Hook.run_callAfter quiet contract name (.stopped sink.diagnostics)
          (HookAction.performAll (Hook.actionsBefore hooks contract name) watch.session)
        rw [stageRuns_stage_of_stop ended, List.flatMap_singleton, Hook.actionsAround,
          HookAction.performAll_append]
        exact Watched.run_ofHook_bind shown _
      · have shown := Hook.run_callAfter quiet contract name (.passed (present value))
          (HookAction.performAll (Hook.actionsBefore hooks contract name) watch.session)
        rw [stageRuns_stage_of_pass ended, List.flatMap_cons, Hook.actionsAround,
          HookAction.performAll_append, HookAction.performAll_append]
        exact (Watched.run_ofHook_bind shown _).trans (inductionHypothesis value _)

end Pipeline

namespace Compilation

/-- The outcome of a compilation that quiet hooks watch, and the session they leave. -/
theorem watch_eq_of_quiet {hooks : List (Hook ρ ω)} (quiet : ∀ hook ∈ hooks, hook.Quiet)
    (contract : String) (world : ω) (pipeline : Pipeline ρ α) :
    Compilation.watch hooks contract world pipeline =
      (.ok (.ofPipeline pipeline),
        HookAction.performAll
          ((pipeline.stageRuns {}).flatMap (Hook.actionsAround hooks contract))
          { world := world }) := by
  rw [watch, pipeline.runWith_of_quiet quiet contract, ofPipeline]
  rcases pipeline.run.run.run {} with ⟨value | _, sink⟩ <;> rfl

/-- Quiet hooks leave the outcome of a compilation as it is. -/
theorem watch_of_quiet {hooks : List (Hook ρ ω)} (quiet : ∀ hook ∈ hooks, hook.Quiet)
    (contract : String) (world : ω) (pipeline : Pipeline ρ α) :
    (Compilation.watch hooks contract world pipeline).1 = .ok (.ofPipeline pipeline) := by
  rw [watch_eq_of_quiet quiet]

end Compilation

end InterfaceContract
