/-
This file logs the stages of a compilation with their durations.
-/

import InterfaceContract.Pipeline.Hook
import InterfaceContract.Number.FixedPoint

namespace InterfaceContract

structure LogSettings where
  /-- The name that debug patterns are matched against. -/
  channel : String := "contractc:compile"
  logResults : Bool := false
  logDiagnostics : Bool := true
  /-- Stages that took less time, in milliseconds, are not logged. Only finite numbers are described, not
  the infinite ones and not what is no number. -/
  minDuration : Rat := 0
  /-- Patterns that stand in for those of the environment. -/
  debug : Option String := none
  deriving Repr, DecidableEq

/-- A line of the log. -/
inductive LogEntry (ρ : Type) where
  | started (contract : String) (stage : Stage)
  | passed (contract : String) (stage : Stage) (duration : Rat) (result : Option ρ)
  | stopped (contract : String) (stage : Stage) (duration : Rat) (errorCount : Nat)
      (diagnostics : Option (List String))

namespace LogEntry

variable {ρ : Type}

def durationText (duration : Rat) : String :=
  Number.fixedPoint 2 duration ++ "ms"

/-- The text at the head of a line. -/
def headline : LogEntry ρ → String
  | .started contract stage => s!"→ {contract}.{stage.text}"
  | .passed contract stage duration _ =>
      s!"← {contract}.{stage.text}: ✓ {durationText duration}"
  | .stopped contract stage duration _ _ =>
      s!"← {contract}.{stage.text}: ✗ {durationText duration}"

end LogEntry

/-- The world of a logger: a clock, the patterns of the environment, and the log itself. -/
structure Terminal (ρ : Type) where
  /-- What the clock shows each time it is read. It shows finite numbers, and the time between two of
  them is finite. -/
  clock : Nat → Rat
  reads : Nat := 0
  debug : Option String := none
  log : List (LogEntry ρ) := []

namespace Terminal

variable {ρ : Type}

def readClock : HookAction (Terminal ρ) Rat :=
  modifyGet fun session =>
    let terminal := session.world
    (terminal.clock terminal.reads,
      { session with world := { terminal with reads := terminal.reads + 1 } })

def print (entry : LogEntry ρ) : HookAction (Terminal ρ) Unit :=
  modify fun session =>
    { session with world := { session.world with log := session.world.log ++ [entry] } }

end Terminal

namespace Logger

variable {ρ : Type}

/-- The key of the start time, which all loggers of a compilation share. -/
def startKey : String :=
  "logger start"

def setStart (reading : Rat) : HookAction (Terminal ρ) Unit :=
  modify fun session =>
    { session with store := session.store.set startKey (.number reading) }

def start? : HookAction (Terminal ρ) (Option Rat) := do
  match (← get).store.get? startKey with
  | some (.number reading) => pure (some reading)
  | _ => pure none

/-- The patterns of the logger come before those of the environment. -/
def enabled (options : LogSettings) : HookAction (Terminal ρ) Bool := do
  match channelEnabled options.channel (options.debug <|> (← get).world.debug) with
  | .ok answer => pure answer
  | .error malformed => throw (.error (.malformedPattern malformed))

/-- The time between two readings of the clock, in the clock's own precision. -/
def elapsed (start stop : Rat) : Rat :=
  Number.nearestBinary (stop - start)

/-- The line for a stage that has ended. -/
def entryOf (options : LogSettings) (contract : String) (stage : Stage) (duration : Rat) :
    StageEnding ρ → LogEntry ρ
  | .passed result =>
      .passed contract stage duration (if options.logResults then some result else none)
  | .stopped diagnostics =>
      .stopped contract stage duration diagnostics.length
        (if options.logDiagnostics then some (diagnostics.map Diagnostic.format) else none)

/-- The clock is read whether or not the line is printed. -/
def before (options : LogSettings) (contract : String) (stage : Stage) :
    HookAction (Terminal ρ) Unit := do
  setStart (← Terminal.readClock)
  if ← enabled options then
    Terminal.print (.started contract stage)

/-- Without a start time nothing happens, and a short stage is passed over before the patterns are
looked at. -/
def after (options : LogSettings) (contract : String) (stage : Stage)
    (ending : StageEnding ρ) : HookAction (Terminal ρ) Unit := do
  match ← start? with
  | none => pure ()
  | some start =>
      let duration := elapsed start (← Terminal.readClock)
      if options.minDuration ≤ duration then
        if ← enabled options then
          Terminal.print (entryOf options contract stage duration ending)

/-- A hook that logs every stage. -/
def hook (options : LogSettings) : Hook ρ (Terminal ρ) where
  before := some (before options)
  after := some (after options)

end Logger

end InterfaceContract
