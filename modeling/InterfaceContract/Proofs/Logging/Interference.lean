/-
This file compares what each of several loggers writes about a compilation with what it writes alone.
-/

import InterfaceContract.Proofs.Logging.Transparency

namespace InterfaceContract

variable {ρ α : Type}

/-- A new terminal in the same environment, with a clock of its own. -/
def Terminal.anew (terminal : Terminal ρ) (clock : Nat → Rat) : Terminal ρ where
  clock := clock
  debug := terminal.debug

theorem LogSettings.legibleIn_of_patternsIn {settings : LogSettings} {terminal : Terminal ρ}
    (legible : ∀ pattern ∈ settings.patternsIn terminal, ¬ pattern.IsMalformed) :
    settings.LegibleIn terminal := by
  obtain ⟨enabled, answered⟩ := channelEnabled_eq_ok_of_legible legible settings.channel
  exact LogSettings.legibleIn_of_ok answered

namespace Logger

/-- The readings of one of several loggers, its own before and after each stage. -/
def ownReadings (terminal : Terminal ρ) (count index : Nat) : Nat → Rat :=
  readingsAt (fun reading => terminal.clock (terminal.reads + reading)) count index (count + index)

/-- The readings that one of several loggers goes by: that of the last logger before each stage, and
its own after it. -/
def sharedReadings (terminal : Terminal ρ) (count index : Nat) : Nat → Rat :=
  readingsAt (fun reading => terminal.clock (terminal.reads + reading)) count (count - 1)
    (count + index)

/-- What a logger writes about some stages depends on two readings for each of them only. -/
theorem lines_congr {settings : LogSettings} {contract : String} {clock other : Nat → Rat}
    {reading : Nat} {runs : List (StageRun ρ)}
    (same : ∀ offset < 2 * runs.length, clock (reading + offset) = other (reading + offset)) :
    lines settings contract clock reading runs = lines settings contract other reading runs := by
  induction runs generalizing reading with
  | nil => rfl
  | cons run runs inductionHypothesis =>
      rw [List.length_cons] at same
      have sameStart : clock reading = other reading := same 0 (by omega)
      have sameStop : clock (reading + 1) = other (reading + 1) := same 1 (by omega)
      have rest : lines settings contract clock (reading + 2) runs =
          lines settings contract other (reading + 2) runs := by
        apply inductionHypothesis
        intro offset within
        rw [Nat.add_assoc]
        exact same (2 + offset) (by omega)
      rw [lines, lines, sameStart, sameStop, rest]

/-- A logger goes by its own readings if those before the stages are the last ones. -/
theorem lines_sharedReadings {settings : LogSettings} {contract : String} {terminal : Terminal ρ}
    {count index : Nat} {runs : List (StageRun ρ)}
    (same : ∀ stage < runs.length, ownReadings terminal count index (2 * stage) =
      sharedReadings terminal count index (2 * stage)) :
    lines settings contract (sharedReadings terminal count index) 0 runs =
      lines settings contract (ownReadings terminal count index) 0 runs := by
  apply lines_congr
  intro offset within
  rw [Nat.zero_add]
  obtain ⟨stage, rfl | rfl⟩ := offset.even_or_odd'
  · exact (same stage (by omega)).symm
  · rw [sharedReadings, ownReadings, readingsAt_two_mul_add_one, readingsAt_two_mul_add_one]

end Logger

namespace Compilation

/-- How several loggers log a compilation. They leave its outcome as it is. They write in their order
before each stage, and in their order after it, and each writes what it writes alone if its clock shows
it the readings that it goes by. Its own readings will do if the last logger reads the same before each stage,
and they always do for the last logger itself. -/
structure LoggedByAll (loggers : List LogSettings) (contract : String) (terminal : Terminal ρ)
    (runs : List (StageRun ρ)) (outcome : Compilation α)
    (watched : List LogSettings → Terminal ρ →
      Except HookError (Compilation α) × Session (Terminal ρ))
    (log : List (Nat × LogEntry ρ)) : Prop where
  unchanged : (watched loggers terminal).1 = .ok outcome
  logged : (watched loggers terminal).2.world.log = terminal.log ++ log.map (·.2)
  inOrder : log = Logger.jointLog (·.writesIn terminal) contract terminal.clock loggers
    terminal.reads runs
  alone : ∀ index settings, loggers[index]? = some settings →
    Logger.writtenBy index log = (watched [settings] (terminal.anew
      (Logger.sharedReadings terminal loggers.length index))).2.world.log
  undisturbed : ∀ index settings, loggers[index]? = some settings →
    (∀ stage < runs.length, Logger.ownReadings terminal loggers.length index (2 * stage) =
      Logger.sharedReadings terminal loggers.length index (2 * stage)) →
    Logger.writtenBy index log = (watched [settings] (terminal.anew
      (Logger.ownReadings terminal loggers.length index))).2.world.log
  lastUndisturbed : ∀ settings, loggers.getLast? = some settings →
    Logger.writtenBy (loggers.length - 1) log = (watched [settings] (terminal.anew
      (Logger.ownReadings terminal loggers.length (loggers.length - 1)))).2.world.log

variable {loggers : List LogSettings} {settings : LogSettings} {terminal : Terminal ρ}

theorem log_watch_anew (legible : settings.LegibleIn terminal) (contract : String)
    (pipeline : Pipeline ρ α) (clock : Nat → Rat) :
    (Compilation.watch [Logger.hook settings] contract (terminal.anew clock) pipeline).2.world.log =
      if settings.writesIn terminal then
        Logger.lines settings contract clock 0 (pipeline.stageRuns {})
      else [] := by
  have answered : settings.enabledIn (terminal.anew clock) = .ok (settings.writesIn terminal) :=
    legible
  rw [(watch_logger_of_ok answered contract pipeline).2]
  exact List.nil_append _

/-- Each of several loggers writes what it writes alone if its clock shows it the shared readings. -/
theorem writtenBy_eq_alone {index : Nat} (placed : loggers[index]? = some settings)
    (legible : settings.LegibleIn terminal) (contract : String) (pipeline : Pipeline ρ α) :
    Logger.writtenBy index (Logger.jointLog (·.writesIn terminal) contract terminal.clock loggers
        terminal.reads (pipeline.stageRuns {})) =
      (Compilation.watch [Logger.hook settings] contract (terminal.anew
        (Logger.sharedReadings terminal loggers.length index)) pipeline).2.world.log := by
  rw [log_watch_anew legible]
  exact Logger.writtenBy_jointLog placed (·.writesIn terminal) contract terminal.clock
    terminal.reads 0 (pipeline.stageRuns {})

/-- Where its own readings before the stages are the shared ones, they will do. -/
theorem writtenBy_eq_undisturbed {index : Nat} (placed : loggers[index]? = some settings)
    (legible : settings.LegibleIn terminal) (contract : String) {pipeline : Pipeline ρ α}
    (same : ∀ stage < (pipeline.stageRuns {}).length,
      Logger.ownReadings terminal loggers.length index (2 * stage) =
        Logger.sharedReadings terminal loggers.length index (2 * stage)) :
    Logger.writtenBy index (Logger.jointLog (·.writesIn terminal) contract terminal.clock loggers
        terminal.reads (pipeline.stageRuns {})) =
      (Compilation.watch [Logger.hook settings] contract (terminal.anew
        (Logger.ownReadings terminal loggers.length index)) pipeline).2.world.log := by
  rw [writtenBy_eq_alone placed legible, log_watch_anew legible, log_watch_anew legible,
    Logger.lines_sharedReadings same]

/-- Loggers whose patterns can be read log as they should. -/
theorem loggedByAll_watch (legible : ∀ settings ∈ loggers, settings.LegibleIn terminal)
    (contract : String) (pipeline : Pipeline ρ α) :
    LoggedByAll loggers contract terminal (pipeline.stageRuns {}) (.ofPipeline pipeline)
      (fun loggers terminal =>
        Compilation.watch (loggers.map Logger.hook) contract terminal pipeline)
      (Logger.jointLog (·.writesIn terminal) contract terminal.clock loggers terminal.reads
        (pipeline.stageRuns {})) := by
  obtain ⟨unchanged, logged⟩ := watch_loggers_of_legible legible contract pipeline
  refine ⟨unchanged, ?_, rfl, ?_, ?_, ?_⟩
  · rw [logged]
    rfl
  · intro index settings placed
    have legibleAlone := legible settings (List.mem_of_getElem? placed)
    exact writtenBy_eq_alone placed legibleAlone contract pipeline
  · intro index settings placed same
    have legibleAlone := legible settings (List.mem_of_getElem? placed)
    exact writtenBy_eq_undisturbed placed legibleAlone contract same
  · intro settings placed
    have legibleLast := legible settings (List.mem_of_getLast? placed)
    rw [List.getLast?_eq_getElem?] at placed
    exact writtenBy_eq_undisturbed placed legibleLast contract fun _ _ => rfl

end Compilation

namespace Logger

/-- Loggers whose patterns can be read never change a compilation of a contract or of a block, and each
writes what it writes alone, but for the start times that they share. -/
theorem log_together (loggers : List LogSettings) (terminal : Terminal StageResult)
    (legible : ∀ settings ∈ loggers, ∀ pattern ∈ settings.patternsIn terminal,
      ¬ pattern.IsMalformed) (options : CompilationOptions) :
    (∀ declaration : ContractDeclaration, ∃ log,
      Compilation.LoggedByAll loggers declaration.ident terminal (declaration.stageRuns options)
        (declaration.compile options)
        (fun loggers terminal => declaration.compileWatched (loggers.map hook) terminal options)
        log) ∧
      ∀ block : ImplementationBlock, ∃ log,
        Compilation.LoggedByAll loggers block.contractName terminal (block.stageRuns options)
          (block.compile options)
          (fun loggers terminal => block.compileWatched (loggers.map hook) terminal options) log := by
  have readable : ∀ settings ∈ loggers, settings.LegibleIn terminal := by
    intro settings member
    exact LogSettings.legibleIn_of_patternsIn (legible settings member)
  constructor
  · intro declaration
    exact ⟨_, Compilation.loggedByAll_watch readable declaration.ident
      (declaration.pipeline options)⟩
  · intro block
    exact ⟨_, Compilation.loggedByAll_watch readable block.contractName (block.pipeline options)⟩

def loudSettings : LogSettings where
  debug := some "*"

/-- Belongs to a logger that is not enabled. -/
def mutedSettings : LogSettings where
  debug := some "other"

/-- A terminal whose clock shows how often it was read before. -/
def countingTerminal : Terminal StageResult where
  clock reading := reading

theorem legible_loud_muted : ∀ settings ∈ [loudSettings, mutedSettings],
    ∀ pattern ∈ settings.patternsIn countingTerminal, ¬ pattern.IsMalformed := by
  decide +kernel

theorem log_together_character :
    (∀ settings ∈ [loudSettings, mutedSettings],
        ∀ pattern ∈ settings.patternsIn countingTerminal, ¬ pattern.IsMalformed) ∧
      ∃ log, Compilation.LoggedByAll [loudSettings, mutedSettings] "Character" countingTerminal
        (character.stageRuns {}) character.compile
        (fun loggers terminal => character.compileWatched (loggers.map hook) terminal) log :=
  ⟨legible_loud_muted,
    (log_together [loudSettings, mutedSettings] countingTerminal legible_loud_muted {}).1 character⟩

theorem stageRuns_unreadableCharacter : (unreadableCharacter.pipeline {}).stageRuns {} =
    [⟨.options, .stopped [(Problem.directiveFailure ⟨"bad", ⟨2, 3⟩⟩).toDiagnostic]⟩] :=
  Pipeline.stageRuns_stage_of_stop (ContractSettings.run_read_of_failed rfl) _

/-- The log of the contract whose directives cannot be read, by the time that reading them took. -/
def unreadableLog (duration : Rat) : List (LogEntry StageResult) :=
  [.started "Character" .options,
    .stopped "Character" .options duration 1 (some ["2:3: directive-parse-failure: bad"])]

/-- A second logger that writes nothing shortens the time that the first one writes, as it reads the
clock later before the stage. -/
theorem mutedLogger_disturbs :
    mutedSettings.enabledIn countingTerminal = .ok false ∧
      (unreadableCharacter.compileWatched ([loudSettings, mutedSettings].map hook)
        countingTerminal).2.world.log = unreadableLog 1 ∧
      (unreadableCharacter.compileWatched [hook loudSettings]
        (countingTerminal.anew (ownReadings countingTerminal 2 0))).2.world.log = unreadableLog 2 ∧
      (unreadableCharacter.compileWatched ([loudSettings, mutedSettings].map hook)
          countingTerminal).2.world.log ≠
        (unreadableCharacter.compileWatched [hook loudSettings]
          (countingTerminal.anew (ownReadings countingTerminal 2 0))).2.world.log := by
  have muted : mutedSettings.enabledIn countingTerminal = .ok false := by decide +kernel
  have loudWrites : loudSettings.writesIn countingTerminal = true := by decide +kernel
  have mutedWrites : mutedSettings.writesIn countingTerminal = false := by decide +kernel
  have legible : ∀ settings ∈ [loudSettings, mutedSettings],
      settings.LegibleIn countingTerminal := by
    intro settings member
    exact LogSettings.legibleIn_of_patternsIn (legible_loud_muted settings member)
  have together : (unreadableCharacter.compileWatched ([loudSettings, mutedSettings].map hook)
      countingTerminal).2.world.log = unreadableLog 1 := by
    have logged := (Compilation.watch_loggers_of_legible legible unreadableCharacter.ident
      (unreadableCharacter.pipeline {})).2
    have short : elapsed (countingTerminal.clock 1) (countingTerminal.clock 2) = 1 := by
      decide +kernel
    have started : countingTerminal.reads = 0 := rfl
    rw [ContractDeclaration.compileWatched, logged, stageRuns_unreadableCharacter]
    simp only [jointly, jointLog, stageLog, inTurn_cons, startLines, endLines, loudWrites,
      mutedWrites, started, List.length_cons, List.length_nil, Nat.zero_add, Nat.add_zero,
      Nat.reduceAdd, Nat.reduceSub, short, linesAfter]
    rfl
  have alone : (unreadableCharacter.compileWatched [hook loudSettings]
      (countingTerminal.anew (ownReadings countingTerminal 2 0))).2.world.log = unreadableLog 2 := by
    have logged := Compilation.log_watch_anew (legible loudSettings List.mem_cons_self)
      unreadableCharacter.ident (unreadableCharacter.pipeline {}) (ownReadings countingTerminal 2 0)
    have long : elapsed (0 : Rat) 2 = 2 := by decide +kernel
    rw [ContractDeclaration.compileWatched, logged, stageRuns_unreadableCharacter, if_pos loudWrites]
    have start : ownReadings countingTerminal 2 0 0 = 0 := by decide +kernel
    have stop : ownReadings countingTerminal 2 0 (0 + 1) = 2 := by decide +kernel
    rw [lines, lines, linesAfter, start, stop, long, if_pos (by decide +kernel)]
    rfl
  refine ⟨muted, together, alone, ?_⟩
  rw [together, alone, unreadableLog, unreadableLog]
  simp

end Logger

end InterfaceContract
