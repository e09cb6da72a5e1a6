/-
This file records which hooks are called in the course of a compilation, and what they have stored by
then.
-/

import InterfaceContract.Proofs.Pipeline.QuietHook
import Mathlib.Tactic.Ring

namespace InterfaceContract

variable {ρ ω α : Type}

/-- A call of a hook, before a stage or after it. -/
structure HookCall (ρ : Type) where
  hook : String
  stage : Stage
  /-- How the stage ended, if it has. -/
  ending : Option (StageEnding ρ)

/-- A call, with the store as the hook left it. -/
structure RecordedCall (ρ : Type) extends HookCall ρ where
  store : HookStore

/-- Adds a record to the world outside. -/
def Session.withRecord (session : Session ω) (record : List (RecordedCall ρ)) :
    Session (List (RecordedCall ρ) × ω) :=
  ⟨session.store, (record, session.world)⟩

/-- The number that is stored under a key, and zero before one is. -/
def HookStore.count (store : HookStore) (key : String) : Rat :=
  match store.get? key with
  | some (.number value) => value
  | _ => 0

/-- Counting on from one more. -/
theorem map_range_succ_counts (start : Rat) (length : Nat) :
    ((List.range (length + 1)).map fun index : Nat => some (Value.number (start + (index + 1)))) =
      some (.number (start + 1)) ::
        (List.range length).map fun index : Nat => some (.number (start + 1 + (index + 1))) := by
  rw [List.range_succ_eq_map, List.map_cons, List.map_map]
  congr 1
  · simp
  · apply List.map_congr_left
    intro index _
    simp only [Function.comp_apply, Nat.cast_succ]
    congr 2
    ring

namespace HookAction

/-- Raises the counter under a key by one. -/
def Counts (key : String) (action : HookAction ω Unit) : Prop :=
  ∀ session : Session ω,
    (action.leaves session).store.get? key = some (.number (session.store.count key + 1))

/-- Leaves what is stored under a key as it is. -/
def Keeps (key : String) (action : HookAction ω Unit) : Prop :=
  ∀ session : Session ω, (action.leaves session).store.get? key = session.store.get? key

/-- Counts for the caller of a given name, and for no other. -/
def CountsFor (name key caller : String) (action : HookAction ω Unit) : Prop :=
  if caller = name then action.Counts key else action.Keeps key

/-- Does what an action does and records the call. -/
def recorded {β : Type} (call : HookCall ρ) (action : HookAction ω β) :
    HookAction (List (RecordedCall ρ) × ω) β :=
  ExceptT.mk fun session =>
    let (result, ended) := action.run.run ⟨session.store, session.world.2⟩
    (result, ended.withRecord (session.world.1 ++ [⟨call, ended.store⟩]))

/-- Recording keeps what an action comes to. -/
theorem run_recorded_of_run {β : Type} {action : HookAction ω β} {result : Except Interrupt β}
    {session : Session (List (RecordedCall ρ) × ω)} {left : Session ω}
    (ran : action.run.run ⟨session.store, session.world.2⟩ = (result, left)) (call : HookCall ρ) :
    (action.recorded call).run.run session =
      (result, left.withRecord (session.world.1 ++ [⟨call, left.store⟩])) := by
  change (fun ended : Except Interrupt β × Session ω =>
    (ended.1, ended.2.withRecord (session.world.1 ++ [⟨call, ended.2.store⟩])))
      (action.run.run ⟨session.store, session.world.2⟩) = _
  rw [ran]

theorem Quiet.recorded {action : HookAction ω Unit} (quiet : action.Quiet) (call : HookCall ρ) :
    (action.recorded call).Quiet :=
  fun session => quiet ⟨session.store, session.world.2⟩

theorem leaves_recorded (action : HookAction ω Unit) (call : HookCall ρ) (session : Session ω)
    (record : List (RecordedCall ρ)) :
    (action.recorded call).leaves (session.withRecord record) =
      (action.leaves session).withRecord
        (record ++ [⟨call, (action.leaves session).store⟩]) := rfl

/-- The record of several actions, one after another. -/
def records : List (HookCall ρ × HookAction ω Unit) → Session ω → List (RecordedCall ρ)
  | [], _ => []
  | (call, action) :: actions, session =>
      ⟨call, (action.leaves session).store⟩ :: records actions (action.leaves session)

theorem map_toHookCall_records (actions : List (HookCall ρ × HookAction ω Unit))
    (session : Session ω) :
    (records actions session).map RecordedCall.toHookCall = actions.map (·.1) := by
  induction actions generalizing session with
  | nil => rfl
  | cons entry actions inductionHypothesis =>
      rw [records, List.map_cons, List.map_cons, inductionHypothesis]

/-- Recording changes nothing else. -/
theorem performAll_recorded (actions : List (HookCall ρ × HookAction ω Unit)) (session : Session ω)
    (record : List (RecordedCall ρ)) :
    performAll (actions.map fun entry => entry.2.recorded entry.1) (session.withRecord record) =
      (performAll (actions.map (·.2)) session).withRecord (record ++ records actions session) := by
  induction actions generalizing session record with
  | nil => rw [records, List.append_nil]; rfl
  | cons entry actions inductionHypothesis =>
      rw [records, List.map_cons, List.map_cons, performAll, List.foldl_cons, leaves_recorded]
      rw [← performAll, inductionHypothesis, List.append_assoc]
      rfl

/-- Where the actions of one name raise a counter that no other action touches, they find it raised
once for each of them that came before. -/
theorem counts_records {name key : String} {actions : List (HookCall ρ × HookAction ω Unit)}
    (counted : ∀ entry ∈ actions, entry.2.CountsFor name key entry.1.hook) (session : Session ω) :
    ((records actions session).filter (·.hook == name)).map (·.store.get? key) =
      (List.range ((records actions session).filter (·.hook == name)).length).map fun index : Nat =>
        some (.number (session.store.count key + (index + 1))) := by
  induction actions generalizing session with
  | nil => rfl
  | cons entry actions inductionHypothesis =>
      have rest := inductionHypothesis
        (fun other member => counted other (List.mem_cons_of_mem entry member))
        (entry.2.leaves session)
      have first : entry.2.CountsFor name key entry.1.hook := counted entry List.mem_cons_self
      rw [records]
      by_cases called : entry.1.hook = name
      · rw [CountsFor, if_pos called] at first
        have raised := first session
        have once : (entry.2.leaves session).store.count key = session.store.count key + 1 := by
          rw [HookStore.count, raised]
        rw [List.filter_cons_of_pos (by simpa using called), List.map_cons, List.length_cons,
          map_range_succ_counts, rest, raised, once]
      · rw [CountsFor, if_neg called] at first
        have same : (entry.2.leaves session).store.count key = session.store.count key := by
          rw [HookStore.count, first session, HookStore.count]
        rw [List.filter_cons_of_neg (by simpa using called), rest, same]

end HookAction

namespace Hook

/-- Everything that a hook does has a property. -/
structure Each (property : HookAction ω Unit → Prop) (hook : Hook ρ ω) : Prop where
  before : ∀ action ∈ hook.before, ∀ contract stage, property (action contract stage)
  after : ∀ action ∈ hook.after, ∀ contract stage ending, property (action contract stage ending)

/-- The hook of a given name counts its calls under a key that no other hook touches. -/
def OwnsCounter (hooks : List (String × Hook ρ ω)) (name key : String) : Prop :=
  ∀ entry ∈ hooks, entry.2.Each (HookAction.CountsFor name key entry.1)

/-- Records the calls of a hook under a name. -/
def recorded (name : String) (hook : Hook ρ ω) : Hook ρ (List (RecordedCall ρ) × ω) where
  before := hook.before.map fun action contract stage =>
    (action contract stage).recorded ⟨name, stage, none⟩
  after := hook.after.map fun action contract stage ending =>
    (action contract stage ending).recorded ⟨name, stage, some ending⟩

theorem Quiet.recorded {hook : Hook ρ ω} (quiet : hook.Quiet) (name : String) :
    (hook.recorded name).Quiet where
  before := by
    intro performed present contract stage
    obtain ⟨action, actionPresent, rfl⟩ := Option.map_eq_some_iff.mp present
    exact (quiet.before action actionPresent contract stage).recorded _
  after := by
    intro performed present contract stage ending
    obtain ⟨action, actionPresent, rfl⟩ := Option.map_eq_some_iff.mp present
    exact (quiet.after action actionPresent contract stage ending).recorded _

def recordAll (hooks : List (String × Hook ρ ω)) : List (Hook ρ (List (RecordedCall ρ) × ω)) :=
  hooks.map fun (name, hook) => hook.recorded name

variable {hooks : List (String × Hook ρ ω)}

theorem quiet_map_snd (quiet : ∀ entry ∈ hooks, entry.2.Quiet) :
    ∀ hook ∈ hooks.map (·.2), hook.Quiet := by
  intro hook member
  obtain ⟨entry, entryMember, rfl⟩ := List.mem_map.mp member
  exact quiet entry entryMember

theorem quiet_recordAll (quiet : ∀ entry ∈ hooks, entry.2.Quiet) :
    ∀ hook ∈ recordAll hooks, hook.Quiet := by
  intro hook member
  obtain ⟨entry, entryMember, rfl⟩ := List.mem_map.mp member
  exact (quiet entry entryMember).recorded entry.1

def callsBefore (hooks : List (String × Hook ρ ω)) (stage : Stage) : List (HookCall ρ) :=
  hooks.filterMap fun (name, hook) => hook.before.map fun _ => ⟨name, stage, none⟩

def callsAfter (hooks : List (String × Hook ρ ω)) (stage : Stage) (ending : StageEnding ρ) :
    List (HookCall ρ) :=
  hooks.filterMap fun (name, hook) => hook.after.map fun _ => ⟨name, stage, some ending⟩

/-- The calls around a stage: before it every hook that has something to do then, in their order, and
after it likewise. -/
def callsAround (hooks : List (String × Hook ρ ω)) (run : StageRun ρ) : List (HookCall ρ) :=
  callsBefore hooks run.stage ++ callsAfter hooks run.stage run.ending

/-- The same calls, each with what it does. -/
def namedActionsAround (hooks : List (String × Hook ρ ω)) (contract : String) (run : StageRun ρ) :
    List (HookCall ρ × HookAction ω Unit) :=
  (hooks.filterMap fun (name, hook) => hook.before.map fun action =>
    (⟨name, run.stage, none⟩, action contract run.stage)) ++
  hooks.filterMap fun (name, hook) => hook.after.map fun action =>
    (⟨name, run.stage, some run.ending⟩, action contract run.stage run.ending)

theorem map_fst_namedActionsAround (contract : String) (run : StageRun ρ) :
    (namedActionsAround hooks contract run).map (·.1) = callsAround hooks run := by
  simp [namedActionsAround, callsAround, callsBefore, callsAfter, List.map_filterMap,
    Function.comp_def]

theorem map_snd_namedActionsAround (contract : String) (run : StageRun ρ) :
    (namedActionsAround hooks contract run).map (·.2) =
      actionsAround (hooks.map (·.2)) contract run := by
  simp [namedActionsAround, actionsAround, actionsBefore, actionsAfter, List.map_filterMap,
    List.filterMap_map, Function.comp_def]

theorem map_recorded_namedActionsAround (contract : String) (run : StageRun ρ) :
    (namedActionsAround hooks contract run).map (fun entry => entry.2.recorded entry.1) =
      actionsAround (recordAll hooks) contract run := by
  simp [namedActionsAround, actionsAround, actionsBefore, actionsAfter, recordAll, recorded,
    List.map_filterMap, List.filterMap_map, Function.comp_def]

theorem forall_namedActionsAround {property : String → HookAction ω Unit → Prop}
    (each : ∀ entry ∈ hooks, entry.2.Each (property entry.1)) (contract : String)
    (run : StageRun ρ) :
    ∀ entry ∈ namedActionsAround hooks contract run, property entry.1.hook entry.2 := by
  intro entry member
  rcases List.mem_append.mp member with before | after
  · obtain ⟨⟨name, hook⟩, hookMember, performed⟩ := List.mem_filterMap.mp before
    obtain ⟨action, present, rfl⟩ := Option.map_eq_some_iff.mp performed
    exact (each (name, hook) hookMember).before action present contract run.stage
  · obtain ⟨⟨name, hook⟩, hookMember, performed⟩ := List.mem_filterMap.mp after
    obtain ⟨action, present, rfl⟩ := Option.map_eq_some_iff.mp performed
    exact (each (name, hook) hookMember).after action present contract run.stage run.ending

/-- All that hooks do around the stages that are executed. -/
theorem flatMap_actionsAround (contract : String) (runs : List (StageRun ρ)) :
    runs.flatMap (actionsAround (hooks.map (·.2)) contract) =
      (runs.flatMap (namedActionsAround hooks contract)).map (·.2) := by
  simp only [List.map_flatMap, map_snd_namedActionsAround]

theorem flatMap_actionsAround_recordAll (contract : String) (runs : List (StageRun ρ)) :
    runs.flatMap (actionsAround (recordAll hooks) contract) =
      (runs.flatMap (namedActionsAround hooks contract)).map
        fun entry => entry.2.recorded entry.1 := by
  simp only [List.map_flatMap, map_recorded_namedActionsAround]

end Hook

namespace Compilation

/-- Recording the calls of quiet hooks leaves the compilation as it is, and yields the calls around
each stage that is executed. -/
theorem watch_recorded {hooks : List (String × Hook ρ ω)} (quiet : ∀ entry ∈ hooks, entry.2.Quiet)
    (contract : String) (world : ω) (pipeline : Pipeline ρ α) :
    Compilation.watch (Hook.recordAll hooks) contract ([], world) pipeline =
      (.ok (.ofPipeline pipeline),
        (Compilation.watch (hooks.map (·.2)) contract world pipeline).2.withRecord
          (HookAction.records
            ((pipeline.stageRuns {}).flatMap (Hook.namedActionsAround hooks contract))
            { world := world })) := by
  rw [watch_eq_of_quiet (Hook.quiet_recordAll quiet), watch_eq_of_quiet (Hook.quiet_map_snd quiet),
    Hook.flatMap_actionsAround_recordAll, Hook.flatMap_actionsAround]
  exact congrArg _ (HookAction.performAll_recorded _ { world := world } [])

/-- Hooks observe a compilation if it comes to what it comes to with nobody watching, if recording
their calls changes nothing and yields the calls around each executed stage, in order, and if a
counter that a hook keeps counts the calls of that hook. -/
structure Observed (hooks : List (String × Hook ρ ω)) (unwatched : Compilation α)
    (runs : List (StageRun ρ)) (watched : Except HookError (Compilation α) × Session ω)
    (recorded : Except HookError (Compilation α) × Session (List (RecordedCall ρ) × ω)) : Prop where
  result : watched.1 = .ok unwatched
  unchanged : recorded = (.ok unwatched, watched.2.withRecord recorded.2.world.1)
  calls : recorded.2.world.1.map RecordedCall.toHookCall =
    runs.flatMap (Hook.callsAround hooks)
  counter : ∀ name key, Hook.OwnsCounter hooks name key →
    (recorded.2.world.1.filter (·.hook == name)).map (·.store.get? key) =
      (List.range (recorded.2.world.1.filter (·.hook == name)).length).map fun index : Nat =>
        some (.number (index + 1))

/-- Quiet hooks observe every compilation. -/
theorem observed_of_quiet {hooks : List (String × Hook ρ ω)}
    (quiet : ∀ entry ∈ hooks, entry.2.Quiet) (contract : String) (world : ω)
    (pipeline : Pipeline ρ α) :
    Observed hooks (.ofPipeline pipeline) (pipeline.stageRuns {})
      (Compilation.watch (hooks.map (·.2)) contract world pipeline)
      (Compilation.watch (Hook.recordAll hooks) contract ([], world) pipeline) := by
  rw [watch_recorded quiet]
  refine ⟨watch_of_quiet (Hook.quiet_map_snd quiet) contract world pipeline, rfl, ?_, ?_⟩
  · change (HookAction.records _ _).map RecordedCall.toHookCall = _
    rw [HookAction.map_toHookCall_records, List.map_flatMap]
    simp only [Hook.map_fst_namedActionsAround]
  · intro name key owns
    have counted : ∀ entry ∈ (pipeline.stageRuns {}).flatMap
        (Hook.namedActionsAround hooks contract), entry.2.CountsFor name key entry.1.hook := by
      intro entry member
      obtain ⟨run, -, around⟩ := List.mem_flatMap.mp member
      exact Hook.forall_namedActionsAround owns contract run entry around
    have counts := HookAction.counts_records counted { world := world }
    have start : HookStore.count {} key = 0 := rfl
    simp only [start, zero_add] at counts
    exact counts

end Compilation

end InterfaceContract
