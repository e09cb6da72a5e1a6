/-
This file shows that a hook which raises something cuts a compilation at that call and nowhere else.
-/

import InterfaceContract.Proofs.Pipeline.Recording

namespace InterfaceContract

variable {ρ ω α β : Type}

/-- A hook call, with what is recorded by then and what is raised behind it. -/
structure HookMoment (ρ : Type) extends HookCall ρ where
  diagnostics : List Diagnostic
  raised : Option Interrupt

/-- A quiet hook with what it is told to raise at a call, once it has done its work. -/
structure RaisingHook (ρ ω : Type) where
  name : String
  hook : Hook ρ ω
  quiet : hook.Quiet
  raises : HookCall ρ → Option Interrupt

/-- A stage that was executed, with what was recorded before it and by its end. -/
structure TimedRun (ρ : Type) extends StageRun ρ where
  earlier : List Diagnostic
  recorded : List Diagnostic

namespace HookAction

/-- An action that raises something behind its work, if there is anything to raise. -/
def thenRaise (action : HookAction ω Unit) : Option Interrupt → HookAction ω Unit
  | none => action
  | some interrupt => do
      action
      throw interrupt

def raising (step : HookMoment ρ × HookAction ω Unit) : HookAction ω Unit :=
  step.2.thenRaise step.1.raised

/-- Performs actions in their order until something is raised; then it is told, with what is recorded
by that moment. -/
def performUntil :
    List (HookMoment ρ × HookAction ω Unit) → Session ω → Option (Interrupt × Sink) × Session ω
  | [], session => (none, session)
  | (moment, action) :: steps, session =>
      match moment.raised with
      | none => performUntil steps (action.leaves session)
      | some interrupt => (some (interrupt, ⟨moment.diagnostics⟩), action.leaves session)

variable {steps : List (HookMoment ρ × HookAction ω Unit)} {moment : HookMoment ρ}
  {action : HookAction ω Unit} {interrupt : Interrupt}

theorem performUntil_cons_of_silent (silent : moment.raised = none) (session : Session ω) :
    performUntil ((moment, action) :: steps) session =
      performUntil steps (action.leaves session) := by
  rw [performUntil, silent]

theorem performUntil_cons_of_raise (raised : moment.raised = some interrupt) (session : Session ω) :
    performUntil ((moment, action) :: steps) session =
      (some (interrupt, ⟨moment.diagnostics⟩), action.leaves session) := by
  rw [performUntil, raised]

/-- Later actions are performed only if nothing was raised before them. -/
theorem performUntil_append (first second : List (HookMoment ρ × HookAction ω Unit))
    (session : Session ω) :
    performUntil (first ++ second) session =
      match performUntil first session with
      | (none, session) => performUntil second session
      | (some raised, session) => (some raised, session) := by
  induction first generalizing session with
  | nil => rfl
  | cons step first inductionHypothesis =>
      rw [List.cons_append]
      cases raised : step.1.raised with
      | none =>
          rw [performUntil_cons_of_silent raised, performUntil_cons_of_silent raised]
          exact inductionHypothesis _
      | some interrupt =>
          rw [performUntil_cons_of_raise raised, performUntil_cons_of_raise raised]

theorem performUntil_of_silent (silent : ∀ step ∈ steps, step.1.raised = none)
    (session : Session ω) :
    performUntil steps session = (none, performAll (steps.map (·.2)) session) := by
  induction steps generalizing session with
  | nil => rfl
  | cons step steps inductionHypothesis =>
      obtain ⟨first, rest⟩ := List.forall_mem_cons.mp silent
      rw [performUntil_cons_of_silent first, inductionHypothesis rest]
      rfl

/-- The first action that raises something is the last one performed. -/
theorem performUntil_of_raise {earlier later : List (HookMoment ρ × HookAction ω Unit)}
    (silent : ∀ step ∈ earlier, step.1.raised = none) (raised : moment.raised = some interrupt)
    (session : Session ω) :
    performUntil (earlier ++ (moment, action) :: later) session =
      (some (interrupt, ⟨moment.diagnostics⟩),
        performAll ((earlier ++ [(moment, action)]).map (·.2)) session) := by
  rw [performUntil_append, performUntil_of_silent silent]
  simp only
  rw [performUntil_cons_of_raise raised, List.map_append, performAll_append]
  rfl

/-- Either nothing is raised at all, or some action is the first one that raises something. -/
theorem silent_or_first_raise (steps : List (HookMoment ρ × HookAction ω Unit)) :
    (∀ step ∈ steps, step.1.raised = none) ∨
      ∃ earlier moment action later interrupt, steps = earlier ++ (moment, action) :: later ∧
        (∀ step ∈ earlier, step.1.raised = none) ∧ moment.raised = some interrupt := by
  induction steps with
  | nil => exact .inl (List.forall_mem_nil _)
  | cons step steps inductionHypothesis =>
      cases first : step.1.raised with
      | some interrupt =>
          exact .inr ⟨[], step.1, step.2, steps, interrupt, rfl, List.forall_mem_nil _, first⟩
      | none =>
          obtain silent | ⟨earlier, moment, action, later, interrupt, rfl, silent, raised⟩ :=
            inductionHypothesis
          · exact .inl (List.forall_mem_cons.mpr ⟨first, silent⟩)
          · exact .inr ⟨step :: earlier, moment, action, later, interrupt, rfl,
              List.forall_mem_cons.mpr ⟨first, silent⟩, raised⟩

theorem records_append (first second : List (HookCall ρ × HookAction ω Unit))
    (session : Session ω) :
    records (first ++ second) session =
      records first session ++ records second (performAll (first.map (·.2)) session) := by
  induction first generalizing session with
  | nil => rfl
  | cons step first inductionHypothesis =>
      rw [List.cons_append, records, records, inductionHypothesis]
      rfl

theorem length_records (actions : List (HookCall ρ × HookAction ω Unit)) (session : Session ω) :
    (records actions session).length = actions.length := by
  have sameCalls := congrArg List.length (map_toHookCall_records actions session)
  simpa using sameCalls

/-- What hooks come to that were called in a row. -/
def outcome : Option (Interrupt × Sink) × Session ω → Except Interrupt Unit × Session ω
  | (none, session) => (.ok (), session)
  | (some (interrupt, _), session) => (.error interrupt, session)

/-- A quiet action is done before anything is raised behind it. -/
theorem Quiet.run_thenRaise_bind (quiet : action.Quiet) (raised : Option Interrupt)
    (next : Unit → HookAction ω Unit) (session : Session ω) :
    (action.thenRaise raised >>= next).run.run session =
      match raised with
      | none => (next ()).run.run (action.leaves session)
      | some interrupt => (.error interrupt, action.leaves session) := by
  cases raised with
  | none => exact quiet.run_bind next session
  | some interrupt =>
      rw [thenRaise, bind_assoc, quiet.run_bind]
      rfl

theorem run_forM_thenRaise {step : β → Option (HookMoment ρ × HookAction ω Unit)} {items : List β}
    (quiet : ∀ item ∈ items, ∀ chosen ∈ step item, chosen.2.Quiet) (session : Session ω) :
    (items.forM fun item => ((step item).map raising).getD (pure ())).run.run session =
      outcome (performUntil (items.filterMap step) session) := by
  induction items generalizing session with
  | nil => rfl
  | cons item items inductionHypothesis =>
      obtain ⟨first, rest⟩ := List.forall_mem_cons.mp quiet
      change (((step item).map raising).getD (pure ()) >>= fun _ => items.forM _).run.run session = _
      cases chosen : step item with
      | none =>
          rw [List.filterMap_cons_none chosen]
          exact inductionHypothesis rest session
      | some pair =>
          rw [List.filterMap_cons_some chosen, Option.map_some, Option.getD_some, raising,
            (first pair chosen).run_thenRaise_bind]
          cases raised : pair.1.raised with
          | none =>
              rw [performUntil_cons_of_silent raised]
              exact inductionHypothesis rest _
          | some interrupt =>
              rw [performUntil_cons_of_raise raised]
              rfl

/-- Between two stages nothing is recorded. -/
theorem sink_of_performUntil {sink : Sink}
    (same : ∀ step ∈ steps, step.1.diagnostics = sink.diagnostics) (session : Session ω) :
    ∀ raised ∈ (performUntil steps session).1, raised.2 = sink := by
  induction steps generalizing session with
  | nil =>
      rintro raised ⟨⟩
  | cons step steps inductionHypothesis =>
      obtain ⟨first, rest⟩ := List.forall_mem_cons.mp same
      cases raised : step.1.raised with
      | none =>
          rw [performUntil_cons_of_silent raised]
          exact inductionHypothesis rest _
      | some interrupt =>
          rw [performUntil_cons_of_raise raised, first]
          rintro _ ⟨⟩
          rfl

end HookAction

namespace Watched

/-- Goes on from a session unless something was raised, which ends the run. -/
def unlessRaised (next : Session ω → Except Interrupt α × Watch ω) :
    Option (Interrupt × Sink) × Session ω → Except Interrupt α × Watch ω
  | (none, session) => next session
  | (some (interrupt, sink), session) => (.error interrupt, { sink := sink, session := session })

theorem unlessRaised_performUntil_append (next : Session ω → Except Interrupt α × Watch ω)
    (first second : List (HookMoment ρ × HookAction ω Unit)) (session : Session ω) :
    unlessRaised next (HookAction.performUntil (first ++ second) session) =
      unlessRaised (fun session => unlessRaised next (HookAction.performUntil second session))
        (HookAction.performUntil first session) := by
  rw [HookAction.performUntil_append]
  rcases HookAction.performUntil first session with ⟨_ | raised, session⟩ <;> rfl

/-- What hooks raise that are called in a row ends the run; otherwise the run goes on. -/
theorem run_ofHook_bind_of_outcome {action : HookAction ω Unit} {watch : Watch ω}
    {performed : Option (Interrupt × Sink) × Session ω}
    (ran : action.run.run watch.session = HookAction.outcome performed)
    (unrecorded : ∀ raised ∈ performed.1, raised.2 = watch.sink) (next : Unit → Watched ω α) :
    (Watched.ofHook action >>= next).run.run watch =
      unlessRaised (fun session => (next ()).run.run { watch with session := session })
        performed := by
  change (ExceptT.bindCont next (action.run.run watch.session).1).run
    { watch with session := (action.run.run watch.session).2 } = _
  rcases performed with ⟨_ | ⟨interrupt, sink⟩, session⟩
  · rw [ran]
    rfl
  · obtain rfl := unrecorded _ rfl
    rw [ran]
    rfl

end Watched

namespace RaisingHook

def moment (hook : RaisingHook ρ ω) (diagnostics : List Diagnostic) (call : HookCall ρ) :
    HookMoment ρ where
  toHookCall := call
  diagnostics := diagnostics
  raised := hook.raises call

/-- The hook that raises what it is told to. -/
def acting (raising : RaisingHook ρ ω) : Hook ρ ω where
  before := raising.hook.before.map fun action contract stage =>
    (action contract stage).thenRaise (raising.raises ⟨raising.name, stage, none⟩)
  after := raising.hook.after.map fun action contract stage ending =>
    (action contract stage ending).thenRaise (raising.raises ⟨raising.name, stage, some ending⟩)

/-- The same hook, recording its calls before it raises anything. -/
def recorded (raising : RaisingHook ρ ω) : RaisingHook ρ (List (RecordedCall ρ) × ω) where
  name := raising.name
  hook := raising.hook.recorded raising.name
  quiet := raising.quiet.recorded raising.name
  raises := raising.raises

/-- The same hook, raising nothing. -/
def calm (raising : RaisingHook ρ ω) : String × Hook ρ ω :=
  (raising.name, raising.hook)

def momentsBefore (hooks : List (RaisingHook ρ ω)) (stage : Stage)
    (diagnostics : List Diagnostic) : List (HookMoment ρ) :=
  hooks.filterMap fun raising => raising.hook.before.map fun _ =>
    raising.moment diagnostics ⟨raising.name, stage, none⟩

def momentsAfter (hooks : List (RaisingHook ρ ω)) (stage : Stage) (ending : StageEnding ρ)
    (diagnostics : List Diagnostic) : List (HookMoment ρ) :=
  hooks.filterMap fun raising => raising.hook.after.map fun _ =>
    raising.moment diagnostics ⟨raising.name, stage, some ending⟩

/-- The calls around a stage, as they are made as long as nothing is raised. -/
def momentsAround (hooks : List (RaisingHook ρ ω)) (run : TimedRun ρ) : List (HookMoment ρ) :=
  momentsBefore hooks run.stage run.earlier ++
    momentsAfter hooks run.stage run.ending run.recorded

def stepBefore (contract : String) (stage : Stage) (diagnostics : List Diagnostic)
    (raising : RaisingHook ρ ω) : Option (HookMoment ρ × HookAction ω Unit) :=
  raising.hook.before.map fun action =>
    (raising.moment diagnostics ⟨raising.name, stage, none⟩, action contract stage)

def stepAfter (contract : String) (stage : Stage) (ending : StageEnding ρ)
    (diagnostics : List Diagnostic) (raising : RaisingHook ρ ω) :
    Option (HookMoment ρ × HookAction ω Unit) :=
  raising.hook.after.map fun action =>
    (raising.moment diagnostics ⟨raising.name, stage, some ending⟩, action contract stage ending)

/-- The same calls, each with what it does. -/
def stepsAround (hooks : List (RaisingHook ρ ω)) (contract : String) (run : TimedRun ρ) :
    List (HookMoment ρ × HookAction ω Unit) :=
  hooks.filterMap (stepBefore contract run.stage run.earlier) ++
    hooks.filterMap (stepAfter contract run.stage run.ending run.recorded)

variable {hooks : List (RaisingHook ρ ω)}

/-- A call with what a recorded hook does at it. -/
def recordedStep (step : HookMoment ρ × HookAction ω Unit) :
    HookMoment ρ × HookAction (List (RecordedCall ρ) × ω) Unit :=
  (step.1, step.2.recorded step.1.toHookCall)

theorem map_fst_stepsAround (contract : String) (run : TimedRun ρ) :
    (stepsAround hooks contract run).map (·.1) = momentsAround hooks run := by
  simp [stepsAround, stepBefore, stepAfter, momentsAround, momentsBefore, momentsAfter,
    List.map_filterMap, Function.comp_def]

/-- The same call of a hook that raises nothing. -/
def calmStep (step : HookMoment ρ × HookAction ω Unit) : HookCall ρ × HookAction ω Unit :=
  (step.1.toHookCall, step.2)

theorem map_calmStep_stepsAround (contract : String) (run : TimedRun ρ) :
    (stepsAround hooks contract run).map calmStep =
      Hook.namedActionsAround (hooks.map calm) contract run.toStageRun := by
  simp [stepsAround, stepBefore, stepAfter, calm, calmStep, moment, Hook.namedActionsAround,
    List.map_filterMap, List.filterMap_map, Function.comp_def]

theorem stepsAround_recorded (contract : String) (run : TimedRun ρ) :
    stepsAround (hooks.map recorded) contract run =
      (stepsAround hooks contract run).map recordedStep := by
  simp [stepsAround, stepBefore, stepAfter, recorded, recordedStep, moment, Hook.recorded,
    List.map_filterMap, List.filterMap_map, Function.comp_def]

/-- Recording changes nothing else. -/
theorem performAll_recordedStep (steps : List (HookMoment ρ × HookAction ω Unit)) (world : ω) :
    HookAction.performAll ((steps.map recordedStep).map (·.2)) { world := ([], world) } =
      (HookAction.performAll (steps.map (·.2)) { world := world }).withRecord
        (HookAction.records (steps.map calmStep) { world := world }) := by
  have performed := HookAction.performAll_recorded (steps.map calmStep) { world := world } []
  rw [List.map_map, List.map_map] at performed
  rw [List.map_map]
  exact performed

theorem map_toHookCall_records (steps : List (HookMoment ρ × HookAction ω Unit))
    (session : Session ω) :
    (HookAction.records (steps.map calmStep) session).map RecordedCall.toHookCall =
      (steps.map (·.1)).map HookMoment.toHookCall := by
  rw [HookAction.map_toHookCall_records, List.map_map, List.map_map]
  rfl

theorem records_until (earlier : List (HookMoment ρ × HookAction ω Unit))
    (step : HookMoment ρ × HookAction ω Unit)
    (later : List (HookMoment ρ × HookAction ω Unit)) (session : Session ω) :
    HookAction.records ((earlier ++ [step]).map calmStep) session =
      (HookAction.records ((earlier ++ step :: later).map calmStep) session).take
        (earlier.length + 1) := by
  have split : (earlier ++ step :: later).map calmStep =
      (earlier ++ [step]).map calmStep ++ later.map calmStep := by simp
  rw [split, HookAction.records_append, List.take_left']
  simp [HookAction.length_records]

theorem run_callBefore_acting (contract : String) (stage : Stage) (diagnostics : List Diagnostic)
    (session : Session ω) :
    (Hook.callBefore (hooks.map acting) contract stage).run.run session =
      HookAction.outcome (HookAction.performUntil
        (hooks.filterMap (stepBefore contract stage diagnostics)) session) := by
  have called : Hook.callBefore (hooks.map acting) contract stage = hooks.forM fun raising =>
      ((stepBefore contract stage diagnostics raising).map HookAction.raising).getD (pure ()) := by
    refine (List.forM_map ..).trans ?_
    congr 1
    funext raising
    rw [acting, stepBefore]
    cases raising.hook.before <;> rfl
  rw [called]
  apply HookAction.run_forM_thenRaise
  intro raising member chosen performed
  obtain ⟨action, present, rfl⟩ := Option.map_eq_some_iff.mp performed
  exact raising.quiet.before action present contract stage

theorem run_callAfter_acting (contract : String) (stage : Stage) (ending : StageEnding ρ)
    (diagnostics : List Diagnostic) (session : Session ω) :
    (Hook.callAfter (hooks.map acting) contract stage ending).run.run session =
      HookAction.outcome (HookAction.performUntil
        (hooks.filterMap (stepAfter contract stage ending diagnostics)) session) := by
  have called : Hook.callAfter (hooks.map acting) contract stage ending =
      hooks.forM fun raising =>
        ((stepAfter contract stage ending diagnostics raising).map HookAction.raising).getD
          (pure ()) := by
    refine (List.forM_map ..).trans ?_
    congr 1
    funext raising
    rw [acting, stepAfter]
    cases raising.hook.after <;> rfl
  rw [called]
  apply HookAction.run_forM_thenRaise
  intro raising member chosen performed
  obtain ⟨action, present, rfl⟩ := Option.map_eq_some_iff.mp performed
  exact raising.quiet.after action present contract stage ending

theorem diagnostics_stepBefore (contract : String) (stage : Stage) (diagnostics : List Diagnostic) :
    ∀ step ∈ hooks.filterMap (stepBefore contract stage diagnostics),
      step.1.diagnostics = diagnostics := by
  intro step member
  obtain ⟨raising, -, performed⟩ := List.mem_filterMap.mp member
  obtain ⟨action, -, rfl⟩ := Option.map_eq_some_iff.mp performed
  rfl

theorem diagnostics_stepAfter (contract : String) (stage : Stage) (ending : StageEnding ρ)
    (diagnostics : List Diagnostic) :
    ∀ step ∈ hooks.filterMap (stepAfter contract stage ending diagnostics),
      step.1.diagnostics = diagnostics := by
  intro step member
  obtain ⟨raising, -, performed⟩ := List.mem_filterMap.mp member
  obtain ⟨action, -, rfl⟩ := Option.map_eq_some_iff.mp performed
  rfl

end RaisingHook

namespace Watched

variable (hooks : List (RaisingHook ρ ω)) (contract : String) (stage : Stage)

theorem run_ofHook_callBefore_bind (watch : Watch ω) (next : Unit → Watched ω α) :
    (Watched.ofHook (Hook.callBefore (hooks.map RaisingHook.acting) contract stage) >>=
        next).run.run watch =
      unlessRaised (fun session => (next ()).run.run { watch with session := session })
        (HookAction.performUntil
          (hooks.filterMap (RaisingHook.stepBefore contract stage watch.sink.diagnostics))
          watch.session) :=
  run_ofHook_bind_of_outcome (RaisingHook.run_callBefore_acting contract stage _ _)
    (HookAction.sink_of_performUntil (RaisingHook.diagnostics_stepBefore contract stage _) _) next

theorem run_ofHook_callAfter_bind (ending : StageEnding ρ) (watch : Watch ω)
    (next : Unit → Watched ω α) :
    (Watched.ofHook (Hook.callAfter (hooks.map RaisingHook.acting) contract stage ending) >>=
        next).run.run watch =
      unlessRaised (fun session => (next ()).run.run { watch with session := session })
        (HookAction.performUntil
          (hooks.filterMap (RaisingHook.stepAfter contract stage ending watch.sink.diagnostics))
          watch.session) :=
  run_ofHook_bind_of_outcome (RaisingHook.run_callAfter_acting contract stage ending _ _)
    (HookAction.sink_of_performUntil (RaisingHook.diagnostics_stepAfter contract stage ending _) _)
    next

end Watched

namespace Pipeline

/-- The stages that a run executes, with what is recorded around each. -/
def timedRuns : Pipeline ρ α → Sink → List (TimedRun ρ)
  | .finish _, _ => []
  | .stage _ name body present next, sink =>
      match body.run.run sink with
      | (some value, after) =>
          ⟨⟨name, .passed (present value)⟩, sink.diagnostics, after.diagnostics⟩ ::
            (next value).timedRuns after
      | (none, after) =>
          [⟨⟨name, .stopped after.diagnostics⟩, sink.diagnostics, after.diagnostics⟩]

section

variable {name : Stage} {body : Stopping β} {present : β → ρ} {sink after : Sink}

theorem timedRuns_stage_of_pass {value : β} (passed : body.run.run sink = (some value, after))
    (next : β → Pipeline ρ α) :
    (stage β name body present next).timedRuns sink =
      ⟨⟨name, .passed (present value)⟩, sink.diagnostics, after.diagnostics⟩ ::
        (next value).timedRuns after := by
  rw [timedRuns, passed]

theorem timedRuns_stage_of_stop (stopped : body.run.run sink = (none, after))
    (next : β → Pipeline ρ α) :
    (stage β name body present next).timedRuns sink =
      [⟨⟨name, .stopped after.diagnostics⟩, sink.diagnostics, after.diagnostics⟩] := by
  rw [timedRuns, stopped]

end

theorem map_toStageRun_timedRuns (pipeline : Pipeline ρ α) (sink : Sink) :
    (pipeline.timedRuns sink).map TimedRun.toStageRun = pipeline.stageRuns sink := by
  induction pipeline generalizing sink with
  | finish value => rfl
  | stage β name body present next inductionHypothesis =>
      rcases ended : body.run.run sink with ⟨_ | value, after⟩
      · rw [timedRuns_stage_of_stop ended, stageRuns_stage_of_stop ended]
        rfl
      · rw [timedRuns_stage_of_pass ended, stageRuns_stage_of_pass ended, List.map_cons,
          inductionHypothesis]

/-- A run under hooks comes to what it comes to with nobody watching, unless something is raised
before its end. -/
theorem runWith_acting (hooks : List (RaisingHook ρ ω)) (contract : String)
    (pipeline : Pipeline ρ α) (watch : Watch ω) :
    (pipeline.runWith (hooks.map RaisingHook.acting) contract).run.run watch =
      Watched.unlessRaised (fun session =>
          (Watched.interruptOf (pipeline.run.run.run watch.sink).1,
            { sink := (pipeline.run.run.run watch.sink).2, session := session }))
        (HookAction.performUntil
          ((pipeline.timedRuns watch.sink).flatMap (RaisingHook.stepsAround hooks contract))
          watch.session) := by
  induction pipeline generalizing watch with
  | finish value => rfl
  | stage β name body present next inductionHypothesis =>
      -- Unless a call before the stage ends the run, the body runs, and the calls after it follow.
      rw [runWith, Watched.run_ofHook_callBefore_bind, run_stage]
      rcases ended : body.run.run watch.sink with ⟨_ | value, after⟩
      · rw [timedRuns_stage_of_stop ended, List.flatMap_singleton, RaisingHook.stepsAround,
          Watched.unlessRaised_performUntil_append]
        congr 1
        funext session
        rw [Watched.run_ofBody_bind, ended]
        exact Watched.run_ofHook_callAfter_bind hooks contract name
          (.stopped after.diagnostics) _ _
      · rw [timedRuns_stage_of_pass ended, List.flatMap_cons, RaisingHook.stepsAround,
          List.append_assoc, Watched.unlessRaised_performUntil_append]
        congr 1
        funext session
        rw [Watched.run_ofBody_bind, ended, Watched.unlessRaised_performUntil_append]
        refine (Watched.run_ofHook_callAfter_bind hooks contract name (.passed (present value))
          _ _).trans ?_
        congr 1
        funext session
        exact inductionHypothesis value _

end Pipeline

/-- A stop rejects a compilation with what is recorded by then; any other error is passed on. -/
def Interrupt.outcome (diagnostics : List Diagnostic) :
    Interrupt → Except HookError (Compilation α)
  | .stop => .ok (.rejected diagnostics)
  | .error problem => .error problem

namespace Compilation

/-- A compilation is cut at the first call behind which something is raised: no later call is made,
and it comes to what was raised. Where nothing is raised, it is as calm as it would be. -/
inductive CutAtRaise (moments : List (HookMoment ρ))
    (calm actual : Except HookError (Compilation α) × Session (List (RecordedCall ρ) × ω)) : Prop
  | whole (silent : ∀ moment ∈ moments, moment.raised = none) (unchanged : actual = calm)
  | cut (earlier : List (HookMoment ρ)) (moment : HookMoment ρ) (later : List (HookMoment ρ))
      (interrupt : Interrupt) (order : moments = earlier ++ moment :: later)
      (silent : ∀ before ∈ earlier, before.raised = none)
      (raised : moment.raised = some interrupt)
      (calls : actual.2.world.1 = calm.2.world.1.take (earlier.length + 1))
      (result : actual.1 = interrupt.outcome moment.diagnostics)

/-- A compilation is interrupted as it should be if it is cut at the first call that raises something,
out of those that are made when nothing is raised, and if recording the calls changes nothing. -/
structure Interrupted (moments : List (HookMoment ρ)) (unwatched : Compilation α)
    (calm actual : Except HookError (Compilation α) × Session (List (RecordedCall ρ) × ω))
    (unrecorded : Except HookError (Compilation α) × Session ω) : Prop where
  result : calm.1 = .ok unwatched
  calls : calm.2.world.1.map RecordedCall.toHookCall = moments.map HookMoment.toHookCall
  cut : CutAtRaise moments calm actual
  unchanged : actual = (unrecorded.1, unrecorded.2.withRecord actual.2.world.1)

variable {hooks : List (RaisingHook ρ ω)} {contract : String} {world : ω} {pipeline : Pipeline ρ α}

theorem watch_of_silent
    (silent : ∀ step ∈ (pipeline.timedRuns {}).flatMap (RaisingHook.stepsAround hooks contract),
      step.1.raised = none) :
    Compilation.watch (hooks.map RaisingHook.acting) contract world pipeline =
      (.ok (.ofPipeline pipeline),
        HookAction.performAll
          (((pipeline.timedRuns {}).flatMap (RaisingHook.stepsAround hooks contract)).map (·.2))
          { world := world }) := by
  rw [watch, pipeline.runWith_acting, HookAction.performUntil_of_silent silent, ofPipeline]
  rcases pipeline.run.run.run {} with ⟨_ | value, sink⟩ <;> rfl

theorem watch_of_raise {earlier later : List (HookMoment ρ × HookAction ω Unit)}
    {moment : HookMoment ρ} {action : HookAction ω Unit} {interrupt : Interrupt}
    (order : (pipeline.timedRuns {}).flatMap (RaisingHook.stepsAround hooks contract) =
      earlier ++ (moment, action) :: later)
    (silent : ∀ step ∈ earlier, step.1.raised = none) (raised : moment.raised = some interrupt) :
    Compilation.watch (hooks.map RaisingHook.acting) contract world pipeline =
      (interrupt.outcome moment.diagnostics,
        HookAction.performAll ((earlier ++ [(moment, action)]).map (·.2)) { world := world }) := by
  rw [watch, pipeline.runWith_acting, order, HookAction.performUntil_of_raise silent raised]
  cases interrupt <;> rfl

theorem watch_calm (hooks : List (RaisingHook ρ ω)) (contract : String) (world : ω)
    (pipeline : Pipeline ρ α) :
    Compilation.watch (Hook.recordAll (hooks.map RaisingHook.calm)) contract ([], world) pipeline =
      (.ok (.ofPipeline pipeline),
        HookAction.performAll ((((pipeline.timedRuns {}).flatMap
            (RaisingHook.stepsAround hooks contract)).map RaisingHook.recordedStep).map (·.2))
          { world := ([], world) }) := by
  have quiet : ∀ entry ∈ hooks.map RaisingHook.calm, entry.2.Quiet := by
    intro entry member
    obtain ⟨raising, -, rfl⟩ := List.mem_map.mp member
    exact raising.quiet
  rw [watch_eq_of_quiet (Hook.quiet_recordAll quiet), Hook.flatMap_actionsAround_recordAll,
    ← pipeline.map_toStageRun_timedRuns, List.flatMap_map]
  simp only [← RaisingHook.map_calmStep_stepsAround, ← List.map_flatMap, List.map_map]
  rfl

/-- Every compilation is interrupted as it should be. -/
theorem interrupted (hooks : List (RaisingHook ρ ω)) (contract : String) (world : ω)
    (pipeline : Pipeline ρ α) :
    Interrupted ((pipeline.timedRuns {}).flatMap (RaisingHook.momentsAround hooks))
      (.ofPipeline pipeline)
      (Compilation.watch (Hook.recordAll (hooks.map RaisingHook.calm)) contract ([], world) pipeline)
      (Compilation.watch ((hooks.map RaisingHook.recorded).map RaisingHook.acting) contract
        ([], world) pipeline)
      (Compilation.watch (hooks.map RaisingHook.acting) contract world pipeline) := by
  have moments : (pipeline.timedRuns {}).flatMap (RaisingHook.momentsAround hooks) =
      ((pipeline.timedRuns {}).flatMap (RaisingHook.stepsAround hooks contract)).map (·.1) := by
    rw [List.map_flatMap, funext (RaisingHook.map_fst_stepsAround contract)]
  have recordedSteps : (pipeline.timedRuns {}).flatMap
        (RaisingHook.stepsAround (hooks.map RaisingHook.recorded) contract) =
      ((pipeline.timedRuns {}).flatMap (RaisingHook.stepsAround hooks contract)).map
        RaisingHook.recordedStep := by
    rw [List.map_flatMap, funext (RaisingHook.stepsAround_recorded contract)]
  -- A recorder raises what its hook raises, so both runs are cut at the same step.
  rw [watch_calm, RaisingHook.performAll_recordedStep, moments]
  obtain silent | ⟨earlier, moment, action, later, interrupt, order, silent, raised⟩ :=
    HookAction.silent_or_first_raise
      ((pipeline.timedRuns {}).flatMap (RaisingHook.stepsAround hooks contract))
  · have silentRecorded : ∀ step ∈ (pipeline.timedRuns {}).flatMap
        (RaisingHook.stepsAround (hooks.map RaisingHook.recorded) contract),
        step.1.raised = none := by
      rw [recordedSteps]
      exact List.forall_mem_map.mpr silent
    rw [watch_of_silent silent, watch_of_silent silentRecorded, recordedSteps,
      RaisingHook.performAll_recordedStep]
    exact ⟨rfl, RaisingHook.map_toHookCall_records _ _, .whole (List.forall_mem_map.mpr silent) rfl,
      rfl⟩
  · have recordedPrefix : earlier.map RaisingHook.recordedStep ++
        [RaisingHook.recordedStep (moment, action)] =
          (earlier ++ [(moment, action)]).map RaisingHook.recordedStep := by
      rw [List.map_append, List.map_singleton]
    rw [order, List.map_append, List.map_cons] at recordedSteps
    rw [watch_of_raise order silent raised, order,
      watch_of_raise recordedSteps (List.forall_mem_map.mpr silent) raised]
    rw [← RaisingHook.recordedStep, recordedPrefix, RaisingHook.performAll_recordedStep]
    refine ⟨rfl, RaisingHook.map_toHookCall_records _ _, ?_, rfl⟩
    refine .cut (earlier.map (·.1)) moment (later.map (·.1)) interrupt ?_
      (List.forall_mem_map.mpr silent) raised ?_ rfl
    · rw [List.map_append, List.map_cons]
    · rw [List.length_map]
      exact RaisingHook.records_until earlier (moment, action) later _

end Compilation

end InterfaceContract
