/-
This file says what a logger does when it is called: what it reads, prints and raises.
-/

import InterfaceContract.Logging.Logger
import InterfaceContract.Proofs.Pipeline.QuietHook

namespace InterfaceContract

variable {ρ ω α β γ : Type}

namespace LogSettings

/-- The debug list of a logger: its own, or that of the environment. -/
def debugIn (settings : LogSettings) (terminal : Terminal ρ) : Option String :=
  settings.debug <|> terminal.debug

/-- Whether a logger is enabled, if all patterns that this depends on can be read. -/
def enabledIn (settings : LogSettings) (terminal : Terminal ρ) : Except MalformedPattern Bool :=
  channelEnabled settings.channel (settings.debugIn terminal)

end LogSettings

namespace Terminal

/-- A terminal once its clock was read a number of times and an enabled logger wrote some lines. -/
def after (terminal : Terminal ρ) (readings : Nat) (enabled : Bool) (lines : List (LogEntry ρ)) :
    Terminal ρ :=
  { terminal with
    reads := terminal.reads + readings
    log := terminal.log ++ if enabled then lines else [] }

theorem after_nil (terminal : Terminal ρ) (enabled : Bool) :
    terminal.after 0 enabled [] = terminal := by
  simp [after]

theorem after_after (terminal : Terminal ρ) (first second : Nat) (enabled : Bool)
    (lines more : List (LogEntry ρ)) :
    (terminal.after first enabled lines).after second enabled more =
      terminal.after (first + second) enabled (lines ++ more) := by
  cases enabled <;> simp [after, Nat.add_assoc]

end Terminal

namespace Logger

/-- What an enabled logger writes after a stage, unless the stage was too short. -/
def linesAfter (settings : LogSettings) (contract : String) (duration : Rat) (run : StageRun ρ) :
    List (LogEntry ρ) :=
  if settings.minDuration ≤ duration then
    [entryOf settings contract run.stage duration run.ending]
  else []

/-- All that an enabled logger writes about some stages, if the clock is read twice for each. -/
def lines (settings : LogSettings) (contract : String) (clock : Nat → Rat) :
    Nat → List (StageRun ρ) → List (LogEntry ρ)
  | _, [] => []
  | reading, run :: runs =>
      .started contract run.stage ::
        linesAfter settings contract (elapsed (clock reading) (clock (reading + 1))) run ++
          lines settings contract clock (reading + 2) runs

/-- A terminal after some stages. -/
def overStages (settings : LogSettings) (enabled : Bool) (contract : String)
    (terminal : Terminal ρ) (runs : List (StageRun ρ)) : Terminal ρ :=
  terminal.after (2 * runs.length) enabled
    (lines settings contract terminal.clock terminal.reads runs)

variable {settings : LogSettings} {session : Session (Terminal ρ)} {enabled : Bool}
  {malformed : MalformedPattern}

/-- Asks whether a logger is enabled before it writes a line. -/
def announce (settings : LogSettings) (entry : LogEntry ρ) : HookAction (Terminal ρ) Unit := do
  if ← Logger.enabled settings then
    Terminal.print entry

theorem run_enabled (settings : LogSettings) (session : Session (Terminal ρ)) :
    (Logger.enabled settings).run.run session =
      match settings.enabledIn session.world with
      | .ok enabled => (.ok enabled, session)
      | .error malformed => (.error (.error (.malformedPattern malformed)), session) := by
  change (match settings.enabledIn session.world with
    | .ok answer => pure answer
    | .error malformed => throw (.error (.malformedPattern malformed)) :
      HookAction (Terminal ρ) Bool).run.run session = _
  cases settings.enabledIn session.world <;> rfl

theorem run_announce_of_ok (session : Session (Terminal ρ))
    (answered : settings.enabledIn session.world = .ok enabled)
    (entry : LogEntry ρ) :
    (announce settings entry).run.run session =
      (.ok (), { session with world := session.world.after 0 enabled [entry] }) := by
  have asked : (Logger.enabled settings).run.run session = (.ok enabled, session) := by
    rw [run_enabled, answered]
  rw [announce, Interrupt.run_bind_of_ok asked]
  cases enabled with
  | true => rfl
  | false =>
      have unchanged : session.world.after 0 false [entry] = session.world := by
        simp [Terminal.after]
      rw [unchanged]
      rfl

theorem run_announce_of_error (session : Session (Terminal ρ))
    (failed : settings.enabledIn session.world = .error malformed) (entry : LogEntry ρ) :
    (announce settings entry).run.run session =
      (.error (.error (.malformedPattern malformed)), session) := by
  apply Interrupt.run_bind_of_error
  rw [run_enabled, failed]

/-- The session once the clock was read. -/
def later (session : Session (Terminal ρ)) : Session (Terminal ρ) :=
  { session with world := { session.world with reads := session.world.reads + 1 } }

/-- The session once the clock was read before a stage, and its reading was stored. -/
def timed (session : Session (Terminal ρ)) : Session (Terminal ρ) :=
  { later session with
    store := session.store.set startKey (.number (session.world.clock session.world.reads)) }

theorem run_before (settings : LogSettings) (contract : String) (stage : Stage)
    (session : Session (Terminal ρ)) :
    (before settings contract stage).run.run session =
      (announce settings (.started contract stage)).run.run (timed session) := rfl

/-- Behind a start time the clock is read again. -/
theorem run_after {start : Rat} (started : session.store.get? startKey = some (.number start))
    (settings : LogSettings) (contract : String) (stage : Stage) (ending : StageEnding ρ) :
    (after settings contract stage ending).run.run session =
      (if settings.minDuration ≤ elapsed start (session.world.clock session.world.reads) then
        announce settings (entryOf settings contract stage
          (elapsed start (session.world.clock session.world.reads)) ending)
      else pure ()).run.run (later session) := by
  have found : (start? : HookAction (Terminal ρ) _).run.run session = (.ok (some start), session) := by
    have got : (get : HookAction (Terminal ρ) _).run.run session = (.ok session, session) := rfl
    rw [start?, Interrupt.run_bind_of_ok got, started]
    rfl
  rw [after, Interrupt.run_bind_of_ok found]
  rfl

theorem callBefore_hook (settings : LogSettings) (contract : String) (stage : Stage) :
    Hook.callBefore [hook settings] contract stage =
      (before settings contract stage : HookAction (Terminal ρ) Unit) :=
  bind_pure (before settings contract stage)

theorem run_callBefore_of_error
    (failed : settings.enabledIn session.world = .error malformed) (contract : String)
    (stage : Stage) :
    (Hook.callBefore [hook settings] contract stage).run.run session =
      (.error (.error (.malformedPattern malformed)), timed session) := by
  rw [callBefore_hook, run_before, run_announce_of_error (timed session) failed]

end Logger

namespace Pipeline

variable {settings : LogSettings} {malformed : MalformedPattern}

/-- A logger with a malformed pattern raises it before the first stage, with the clock read once. -/
theorem runWith_logger_of_error (contract : String) (pipeline : Pipeline ρ α)
    (watch : Watch (Terminal ρ)) (executes : pipeline.stageRuns watch.sink ≠ [])
    (failed : settings.enabledIn watch.session.world = .error malformed) :
    (pipeline.runWith [Logger.hook settings] contract).run.run watch =
      (.error (.error (.malformedPattern malformed)),
        { watch with session := Logger.timed watch.session }) := by
  cases pipeline with
  | finish value => exact absurd rfl executes
  | stage β name body present next =>
      have raised := Logger.run_callBefore_of_error failed contract name
      rw [runWith, Watched.run_ofHook_bind_of_error raised]

end Pipeline

end InterfaceContract
