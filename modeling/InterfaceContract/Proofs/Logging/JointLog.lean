/-
This file follows the loggers of one compilation through its stages. They keep their start times under one
key, so that each measures from the last of the readings before a stage.
-/

import InterfaceContract.Proofs.Logging.LoggedRun

namespace InterfaceContract

variable {ρ α : Type}

namespace LogSettings

/-- Whether a logger is enabled; one whose patterns cannot be read is not. -/
def writesIn (settings : LogSettings) (terminal : Terminal ρ) : Bool :=
  match settings.enabledIn terminal with
  | .ok enabled => enabled
  | .error _ => false

/-- All patterns on which it depends whether a logger is enabled can be read. -/
def LegibleIn (settings : LogSettings) (terminal : Terminal ρ) : Prop :=
  settings.enabledIn terminal = .ok (settings.writesIn terminal)

theorem legibleIn_of_ok {settings : LogSettings} {terminal : Terminal ρ} {enabled : Bool}
    (answered : settings.enabledIn terminal = .ok enabled) : settings.LegibleIn terminal := by
  rw [LegibleIn, writesIn, answered]

end LogSettings

namespace Logger

/-- Lines that loggers write one after another, each with the position of its logger. -/
def inTurn (lines : LogSettings → Nat → List (LogEntry ρ)) (loggers : List LogSettings)
    (first : Nat) : List (Nat × LogEntry ρ) :=
  (loggers.zipIdx first).flatMap fun (settings, author) =>
    (lines settings author).map fun line => (author, line)

theorem inTurn_cons (lines : LogSettings → Nat → List (LogEntry ρ)) (settings : LogSettings)
    (loggers : List LogSettings) (first : Nat) :
    inTurn lines (settings :: loggers) first =
      (lines settings first).map (fun line => (first, line)) ++ inTurn lines loggers (first + 1) :=
  rfl

/-- The lines of one logger. -/
def writtenBy (author : Nat) (log : List (Nat × LogEntry ρ)) : List (LogEntry ρ) :=
  (log.filter (·.1 == author)).map (·.2)

theorem writtenBy_append (author : Nat) (first second : List (Nat × LogEntry ρ)) :
    writtenBy author (first ++ second) = writtenBy author first ++ writtenBy author second := by
  simp [writtenBy]

theorem writtenBy_signed (author other : Nat) (lines : List (LogEntry ρ)) :
    writtenBy author (lines.map fun line => (other, line)) = if other = author then lines else [] := by
  by_cases same : other = author <;> simp [writtenBy, List.filter_map, Function.comp_def, same]

theorem writtenBy_inTurn_of_lt {lines : LogSettings → Nat → List (LogEntry ρ)}
    {loggers : List LogSettings} {first author : Nat} (before : author < first) :
    writtenBy author (inTurn lines loggers first) = [] := by
  induction loggers generalizing first with
  | nil => rfl
  | cons settings loggers inductionHypothesis =>
      rw [inTurn_cons, writtenBy_append, writtenBy_signed, if_neg (by omega), List.nil_append]
      exact inductionHypothesis (by omega)

/-- In a turn each logger writes its own lines only. -/
theorem writtenBy_inTurn (lines : LogSettings → Nat → List (LogEntry ρ)) (first : Nat)
    {loggers : List LogSettings} {index : Nat} {settings : LogSettings}
    (placed : loggers[index]? = some settings) :
    writtenBy (first + index) (inTurn lines loggers first) = lines settings (first + index) := by
  induction loggers generalizing first index with
  | nil => cases placed
  | cons other loggers inductionHypothesis =>
      rw [inTurn_cons, writtenBy_append, writtenBy_signed]
      cases index with
      | zero =>
          obtain rfl : other = settings := by simpa using placed
          rw [if_pos (by omega), writtenBy_inTurn_of_lt (by omega), List.append_nil]
          rfl
      | succ index =>
          have later : loggers[index]? = some settings := by simpa using placed
          have moved : first + (index + 1) = first + 1 + index := by omega
          rw [if_neg (by omega), List.nil_append, moved]
          exact inductionHypothesis (first + 1) later

/-- The line that an enabled logger writes before a stage. -/
def startLines (enabled : LogSettings → Bool) (contract : String) (stage : Stage)
    (settings : LogSettings) : List (LogEntry ρ) :=
  if enabled settings then [.started contract stage] else []

/-- What an enabled logger writes after a stage that took it some time. -/
def endLines (enabled : LogSettings → Bool) (contract : String) (run : StageRun ρ)
    (settings : LogSettings) (duration : Rat) : List (LogEntry ρ) :=
  if enabled settings then linesAfter settings contract duration run else []

/-- All that loggers write about a stage. The clock is read once by each before the stage and once by
each after it; the last reading before the stage starts the time for all of them. -/
def stageLog (enabled : LogSettings → Bool) (contract : String) (clock : Nat → Rat)
    (loggers : List LogSettings) (reading : Nat) (run : StageRun ρ) : List (Nat × LogEntry ρ) :=
  inTurn (fun settings _ => startLines enabled contract run.stage settings) loggers 0 ++
    inTurn (fun settings author => endLines enabled contract run settings
      (elapsed (clock (reading + loggers.length - 1))
        (clock (reading + loggers.length + author)))) loggers 0

/-- All that loggers write about some stages. -/
def jointLog (enabled : LogSettings → Bool) (contract : String) (clock : Nat → Rat)
    (loggers : List LogSettings) : Nat → List (StageRun ρ) → List (Nat × LogEntry ρ)
  | _, [] => []
  | reading, run :: runs =>
      stageLog enabled contract clock loggers reading run ++
        jointLog enabled contract clock loggers (reading + 2 * loggers.length) runs

/-- A terminal after some stages. -/
def jointly (loggers : List LogSettings) (contract : String) (terminal : Terminal ρ)
    (runs : List (StageRun ρ)) : Terminal ρ :=
  terminal.after (2 * loggers.length * runs.length) true
    ((jointLog (·.writesIn terminal) contract terminal.clock loggers terminal.reads runs).map (·.2))

theorem jointly_nil (loggers : List LogSettings) (contract : String) (terminal : Terminal ρ) :
    jointly loggers contract terminal [] = terminal :=
  terminal.after_nil true

theorem jointly_cons (loggers : List LogSettings) (contract : String) (terminal : Terminal ρ)
    (run : StageRun ρ) (runs : List (StageRun ρ)) :
    jointly loggers contract terminal (run :: runs) =
      jointly loggers contract (terminal.after (2 * loggers.length) true
        ((stageLog (·.writesIn terminal) contract terminal.clock loggers terminal.reads run).map
          (·.2))) runs := by
  rw [jointly, jointly, Terminal.after_after, jointLog, List.map_append, List.length_cons,
    Nat.mul_add, Nat.mul_one, Nat.add_comm (2 * loggers.length * runs.length)]
  rfl

variable {settings : LogSettings} {loggers : List LogSettings} {session : Session (Terminal ρ)}

/-- What an enabled logger announces is what is written. -/
theorem after_announced (terminal : Terminal ρ) (enabled : Bool) (line : LogEntry ρ) :
    { terminal with reads := terminal.reads + 1 }.after 0 enabled [line] =
      terminal.after 1 true (if enabled then [line] else []) := by
  cases enabled <;> rfl

theorem run_before_of_legible (legible : settings.LegibleIn session.world) (contract : String)
    (stage : Stage) :
    (before settings contract stage).run.run session = (.ok (),
      { store := (timed session).store
        world := session.world.after 1 true
          (startLines (·.writesIn session.world) contract stage settings) }) := by
  rw [run_before, run_announce_of_ok (timed session) legible, startLines, ← after_announced]
  rfl

theorem run_after_of_legible {start : Rat} (legible : settings.LegibleIn session.world)
    (started : session.store.get? startKey = some (.number start)) (contract : String)
    (run : StageRun ρ) :
    (after settings contract run.stage run.ending).run.run session = (.ok (),
      { session with
        world := session.world.after 1 true
          (endLines (·.writesIn session.world) contract run settings
            (elapsed start (session.world.clock session.world.reads))) }) := by
  rw [run_after started, endLines, linesAfter]
  split
  case isTrue long =>
    rw [run_announce_of_ok (later session) legible, ← after_announced]
    rfl
  case isFalse short =>
    rw [ite_self]
    simp only [Terminal.after, if_true, List.append_nil]
    rfl

theorem callBefore_cons (settings : LogSettings) (loggers : List LogSettings) (contract : String)
    (stage : Stage) :
    Hook.callBefore ((settings :: loggers).map hook) contract stage =
      (before settings contract stage >>= fun _ =>
        Hook.callBefore (loggers.map hook) contract stage : HookAction (Terminal ρ) Unit) := rfl

theorem callAfter_cons (settings : LogSettings) (loggers : List LogSettings) (contract : String)
    (stage : Stage) (ending : StageEnding ρ) :
    Hook.callAfter ((settings :: loggers).map hook) contract stage ending =
      after settings contract stage ending >>= fun _ =>
        Hook.callAfter (loggers.map hook) contract stage ending := rfl

/-- The store once some readings were kept, one after another, as the start time. -/
def keepStarts (clock : Nat → Rat) : Nat → Nat → HookStore → HookStore
  | _, 0, store => store
  | reading, count + 1, store =>
      keepStarts clock (reading + 1) count (store.set startKey (.number (clock reading)))

/-- The last reading is the start time that is left. -/
theorem get?_keepStarts (clock : Nat → Rat) (reading count : Nat) (store : HookStore) :
    (keepStarts clock reading (count + 1) store).get? startKey =
      some (.number (clock (reading + count))) := by
  induction count generalizing reading store with
  | zero => exact HookStore.get?_set_same store startKey (.number (clock reading))
  | succ count inductionHypothesis =>
      have moved : reading + (count + 1) = reading + 1 + count := by omega
      rw [keepStarts, inductionHypothesis, moved]

/-- A terminal once loggers have read the clock and written some lines, each in its turn. -/
def writeInTurn (lines : LogSettings → Nat → List (LogEntry ρ)) (loggers : List LogSettings)
    (first : Nat) (terminal : Terminal ρ) : Terminal ρ :=
  terminal.after loggers.length true ((inTurn lines loggers first).map (·.2))

theorem writeInTurn_nil (lines : LogSettings → Nat → List (LogEntry ρ)) (first : Nat)
    (terminal : Terminal ρ) : writeInTurn lines [] first terminal = terminal :=
  terminal.after_nil true

/-- The first of several loggers takes one reading, and its lines come first. -/
theorem writeInTurn_cons (lines : LogSettings → Nat → List (LogEntry ρ)) (settings : LogSettings)
    (loggers : List LogSettings) (first : Nat) (terminal : Terminal ρ) :
    writeInTurn lines (settings :: loggers) first terminal =
      writeInTurn lines loggers (first + 1) (terminal.after 1 true (lines settings first)) := by
  have signed : ((lines settings first).map fun line => (first, line)).map (·.2) =
      lines settings first := by
    rw [List.map_map]
    exact List.map_id _
  rw [writeInTurn, writeInTurn, Terminal.after_after, inTurn_cons, List.map_append, signed,
    List.length_cons, Nat.add_comm 1]

theorem run_callBefore_loggers (session : Session (Terminal ρ)) (contract : String) (stage : Stage)
    (first : Nat) (legible : ∀ settings ∈ loggers, settings.LegibleIn session.world) :
    (Hook.callBefore (loggers.map hook) contract stage).run.run session = (.ok (),
      { store := keepStarts session.world.clock session.world.reads loggers.length session.store
        world := writeInTurn
          (fun settings _ => startLines (·.writesIn session.world) contract stage settings) loggers
          first session.world }) := by
  induction loggers generalizing session first with
  | nil =>
      rw [writeInTurn_nil]
      rfl
  | cons settings loggers inductionHypothesis =>
      obtain ⟨legibleFirst, legibleRest⟩ := List.forall_mem_cons.mp legible
      have announced := run_before_of_legible legibleFirst contract stage
      rw [callBefore_cons, Interrupt.run_bind_of_ok announced, writeInTurn_cons]
      exact inductionHypothesis _ (first + 1) legibleRest

/-- After a stage each logger reads the clock, compares with the start time that all share, and writes
its line. -/
theorem run_callAfter_loggers {start : Rat} (session : Session (Terminal ρ))
    (started : loggers ≠ [] → session.store.get? startKey = some (.number start))
    (contract : String) (run : StageRun ρ) (reading first : Nat)
    (reached : session.world.reads = reading + first)
    (legible : ∀ settings ∈ loggers, settings.LegibleIn session.world) :
    (Hook.callAfter (loggers.map hook) contract run.stage run.ending).run.run session = (.ok (),
      { session with
        world := writeInTurn
          (fun settings author => endLines (·.writesIn session.world) contract run settings
            (elapsed start (session.world.clock (reading + author)))) loggers first
          session.world }) := by
  induction loggers generalizing session first with
  | nil =>
      rw [writeInTurn_nil]
      rfl
  | cons settings loggers inductionHypothesis =>
      obtain ⟨legibleFirst, legibleRest⟩ := List.forall_mem_cons.mp legible
      have startedNow := started (List.cons_ne_nil _ _)
      have concluded := run_after_of_legible legibleFirst startedNow contract run
      rw [callAfter_cons, Interrupt.run_bind_of_ok concluded, writeInTurn_cons, reached]
      let written := session.world.after 1 true (endLines (·.writesIn session.world) contract run
        settings (elapsed start (session.world.clock (reading + first))))
      have next : written.reads = reading + (first + 1) := congrArg (· + 1) reached
      exact inductionHypothesis { session with world := written } (fun _ => startedNow) (first + 1)
        next legibleRest

/-- The session in which several loggers have logged a stage. -/
def concludedBy (loggers : List LogSettings) (contract : String) (run : StageRun ρ)
    (session : Session (Terminal ρ)) : Session (Terminal ρ) where
  store := keepStarts session.world.clock session.world.reads loggers.length session.store
  world := session.world.after (2 * loggers.length) true
    ((stageLog (·.writesIn session.world) contract session.world.clock loggers session.world.reads
      run).map (·.2))

/-- Two turns, one before a stage and one after it, write all about the stage. -/
theorem writeInTurn_writeInTurn (terminal : Terminal ρ) (contract : String) (run : StageRun ρ) :
    writeInTurn (fun settings author => endLines (·.writesIn terminal) contract run settings
        (elapsed (terminal.clock (terminal.reads + loggers.length - 1))
          (terminal.clock (terminal.reads + loggers.length + author)))) loggers 0
      (writeInTurn (fun settings _ => startLines (·.writesIn terminal) contract run.stage settings)
        loggers 0 terminal) =
    terminal.after (2 * loggers.length) true
      ((stageLog (·.writesIn terminal) contract terminal.clock loggers terminal.reads run).map
        (·.2)) := by
  rw [writeInTurn, writeInTurn, Terminal.after_after, stageLog, List.map_append, Nat.two_mul]

/-- After an announced stage a run goes on from the session in which its end was logged. -/
theorem run_ofHook_callAfter_loggers_bind (session : Session (Terminal ρ))
    (legible : ∀ settings ∈ loggers, settings.LegibleIn session.world) (contract : String)
    (run : StageRun ρ) (sink : Sink) (next : Unit → Watched (Terminal ρ) α) :
    (Watched.ofHook (Hook.callAfter (loggers.map hook) contract run.stage run.ending) >>= next).run.run
        ⟨sink, {
          store := keepStarts session.world.clock session.world.reads loggers.length session.store
          world := writeInTurn
            (fun settings _ => startLines (·.writesIn session.world) contract run.stage settings)
            loggers 0 session.world }⟩ =
      (next ()).run.run ⟨sink, concludedBy loggers contract run session⟩ := by
  let announced : Session (Terminal ρ) := {
    store := keepStarts session.world.clock session.world.reads loggers.length session.store
    world := writeInTurn
      (fun settings _ => startLines (·.writesIn session.world) contract run.stage settings)
      loggers 0 session.world }
  have started : loggers ≠ [] → announced.store.get? startKey =
      some (.number (session.world.clock (session.world.reads + loggers.length - 1))) := by
    intro several
    obtain ⟨settings, others, rfl⟩ := List.exists_cons_of_ne_nil several
    exact get?_keepStarts session.world.clock session.world.reads others.length session.store
  have concluded := run_callAfter_loggers announced started contract run
    (session.world.reads + loggers.length) 0 rfl legible
  rw [concludedBy, ← writeInTurn_writeInTurn]
  exact Watched.run_ofHook_bind concluded next

/-- Of the readings of several loggers, those that one of them goes by: two for each stage, at the given
places among the readings before and after it. -/
def readingsAt (clock : Nat → Rat) (count start stop reading : Nat) : Rat :=
  clock (2 * count * (reading / 2) + if reading % 2 = 0 then start else stop)

theorem readingsAt_two_mul (clock : Nat → Rat) (count start stop stage : Nat) :
    readingsAt clock count start stop (2 * stage) = clock (2 * count * stage + start) := by
  rw [readingsAt, if_pos (by omega), Nat.mul_div_cancel_left stage (by omega)]

theorem readingsAt_two_mul_add_one (clock : Nat → Rat) (count start stop stage : Nat) :
    readingsAt clock count start stop (2 * stage + 1) = clock (2 * count * stage + stop) := by
  have half : (2 * stage + 1) / 2 = stage := by omega
  rw [readingsAt, if_neg (by omega), half]

theorem writtenBy_stageLog {index : Nat} (placed : loggers[index]? = some settings)
    (enabled : LogSettings → Bool) (contract : String) (clock : Nat → Rat) (reading : Nat)
    (run : StageRun ρ) :
    writtenBy index (stageLog enabled contract clock loggers reading run) =
      startLines enabled contract run.stage settings ++
        endLines enabled contract run settings
          (elapsed (clock (reading + loggers.length - 1))
            (clock (reading + loggers.length + index))) := by
  have started := writtenBy_inTurn
    (fun settings _ => (startLines enabled contract run.stage settings : List (LogEntry ρ))) 0 placed
  have ended := writtenBy_inTurn (fun settings author => endLines enabled contract run settings
    (elapsed (clock (reading + loggers.length - 1)) (clock (reading + loggers.length + author)))) 0
    placed
  rw [Nat.zero_add] at started ended
  rw [stageLog, writtenBy_append, started, ended]

/-- Of all the lines that loggers write, those of one are what it writes by its own readings after the
stages and by the last of all readings before them. -/
theorem writtenBy_jointLog {index : Nat} (placed : loggers[index]? = some settings)
    (enabled : LogSettings → Bool) (contract : String) (clock : Nat → Rat) (begun stage : Nat)
    (runs : List (StageRun ρ)) :
    writtenBy index (jointLog enabled contract clock loggers
        (begun + 2 * loggers.length * stage) runs) =
      if enabled settings then
        lines settings contract (readingsAt (fun reading => clock (begun + reading)) loggers.length
          (loggers.length - 1) (loggers.length + index)) (2 * stage) runs
      else [] := by
  induction runs generalizing stage with
  | nil => simp [jointLog, lines, writtenBy]
  | cons run runs inductionHypothesis =>
      have next : begun + 2 * loggers.length * stage + 2 * loggers.length =
          begun + 2 * loggers.length * (stage + 1) := by
        rw [Nat.mul_add, Nat.mul_one, Nat.add_assoc]
      have several : 0 < loggers.length := by
        have within := (List.getElem?_eq_some_iff.mp placed).1
        omega
      have lastStart : begun + 2 * loggers.length * stage + loggers.length - 1 =
          begun + (2 * loggers.length * stage + (loggers.length - 1)) := by omega
      have ownStop : begun + 2 * loggers.length * stage + loggers.length + index =
          begun + (2 * loggers.length * stage + (loggers.length + index)) := by omega
      rw [jointLog, writtenBy_append, next, inductionHypothesis, writtenBy_stageLog placed, lines,
        readingsAt_two_mul, readingsAt_two_mul_add_one, lastStart, ownStop, startLines, endLines]
      cases enabled settings with
      | true => rfl
      | false => rfl

theorem map_snd_jointLog_singleton (enabled : LogSettings → Bool) (settings : LogSettings)
    (contract : String) (clock : Nat → Rat) (reading : Nat) (runs : List (StageRun ρ)) :
    (jointLog enabled contract clock [settings] reading runs).map (·.2) =
      if enabled settings then lines settings contract clock reading runs else [] := by
  induction runs generalizing reading with
  | nil => simp [jointLog, lines]
  | cons run runs inductionHypothesis =>
      have single : (stageLog enabled contract clock [settings] reading run).map (·.2) =
          startLines enabled contract run.stage settings ++
            endLines enabled contract run settings
              (elapsed (clock reading) (clock (reading + 1))) := by
        simp [stageLog, inTurn, Function.comp_def]
      rw [jointLog, List.map_append, single, inductionHypothesis, lines, startLines, endLines]
      cases enabled settings with
      | true => rfl
      | false => rfl

/-- A single logger goes by its own readings. -/
theorem jointly_singleton {terminal : Terminal ρ} {enabled : Bool}
    (answered : settings.enabledIn terminal = .ok enabled) (contract : String)
    (runs : List (StageRun ρ)) :
    jointly [settings] contract terminal runs =
      overStages settings enabled contract terminal runs := by
  have writes : settings.writesIn terminal = enabled := by
    rw [LogSettings.writesIn, answered]
  rw [jointly, map_snd_jointLog_singleton, writes, overStages]
  cases enabled <;> simp [Terminal.after]

end Logger

namespace Pipeline

variable {loggers : List LogSettings}

/-- Under loggers whose patterns can be read, a run records and returns what it does with nobody
watching. -/
theorem runWith_loggers (contract : String) (pipeline : Pipeline ρ α) (watch : Watch (Terminal ρ))
    (legible : ∀ settings ∈ loggers, settings.LegibleIn watch.session.world) :
    ∃ store, (pipeline.runWith (loggers.map Logger.hook) contract).run.run watch =
      (Watched.interruptOf (pipeline.run.run.run watch.sink).1,
        { sink := (pipeline.run.run.run watch.sink).2
          session := {
            store := store
            world := Logger.jointly loggers contract watch.session.world
              (pipeline.stageRuns watch.sink) } }) := by
  -- No logger touches the debug list of the terminal, so all stay legible from stage to stage.
  induction pipeline generalizing watch with
  | finish value =>
      refine ⟨watch.session.store, ?_⟩
      rw [stageRuns, Logger.jointly_nil]
      rfl
  | stage β name body present next inductionHypothesis =>
      have started := Logger.run_callBefore_loggers watch.session contract name 0 legible
      rw [runWith, Watched.run_ofHook_bind started, Watched.run_ofBody_bind, run_stage]
      rcases ended : body.run.run watch.sink with ⟨_ | value, sink⟩
      · have resumed := Logger.run_ofHook_callAfter_loggers_bind watch.session legible contract
          ⟨name, .stopped sink.diagnostics⟩ sink
          (fun _ => (throw .stop : Watched (Terminal ρ) α))
        rw [stageRuns_stage_of_stop ended, Logger.jointly_cons, Logger.jointly_nil]
        exact ⟨_, resumed⟩
      · have resumed := Logger.run_ofHook_callAfter_loggers_bind watch.session legible contract
          ⟨name, .passed (present value)⟩ sink
          (fun _ => (next value).runWith (loggers.map Logger.hook) contract)
        obtain ⟨store, ran⟩ := inductionHypothesis value
          ⟨sink, Logger.concludedBy loggers contract ⟨name, .passed (present value)⟩
            watch.session⟩ legible
        rw [stageRuns_stage_of_pass ended, Logger.jointly_cons]
        exact ⟨store, resumed.trans ran⟩

end Pipeline

end InterfaceContract
