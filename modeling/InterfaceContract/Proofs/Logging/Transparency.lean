/-
This file says that a logger leaves compilations as they are, and what it prints, unless one of its
patterns is malformed.
-/

import InterfaceContract.Proofs.Contract.Assembly
import InterfaceContract.Proofs.Logging.Legibility
import InterfaceContract.Proofs.Logging.JointLog
import InterfaceContract.Proofs.Watching

namespace InterfaceContract

variable {ρ α : Type}

/-- The patterns on the debug list of a logger. -/
def LogSettings.patternsIn (settings : LogSettings) (terminal : Terminal ρ) : List DebugPattern :=
  DebugPattern.readList ((settings.debugIn terminal).getD "")

namespace Compilation

/-- A compilation under a logger ends as it does without one exactly if no pattern is malformed. Then
the logger reads its clock and, if it is enabled, prints the lines about the executed stages, and does
nothing else; otherwise it raises the first malformed pattern and prints nothing. -/
structure LoggedBy (settings : LogSettings) (contract : String) (terminal : Terminal ρ)
    (runs : List (StageRun ρ)) (outcome : Compilation α)
    (watched : Except HookError (Compilation α) × Session (Terminal ρ)) : Prop where
  unchanged_iff : watched.1 = .ok outcome ↔
    ∀ pattern ∈ settings.patternsIn terminal, ¬ pattern.IsMalformed
  printed : (∀ pattern ∈ settings.patternsIn terminal, ¬ pattern.IsMalformed) →
    ∃ enabled, settings.enabledIn terminal = .ok enabled ∧
      watched.2.world = Logger.overStages settings enabled contract terminal runs
  raised : ∀ first, (settings.patternsIn terminal).find? (·.IsMalformed) = some first →
    watched.1 = .error (.malformedPattern first.asError) ∧
      watched.2.world = { terminal with reads := terminal.reads + 1 }

variable {settings : LogSettings} {terminal : Terminal ρ} {pipeline : Pipeline ρ α}

theorem watch_loggers_of_legible {loggers : List LogSettings}
    (legible : ∀ settings ∈ loggers, settings.LegibleIn terminal)
    (contract : String) (pipeline : Pipeline ρ α) :
    (Compilation.watch (loggers.map Logger.hook) contract terminal pipeline).1 =
        .ok (.ofPipeline pipeline) ∧
      (Compilation.watch (loggers.map Logger.hook) contract terminal pipeline).2.world =
        Logger.jointly loggers contract terminal (pipeline.stageRuns {}) := by
  obtain ⟨store, ran⟩ := pipeline.runWith_loggers contract { session := { world := terminal } }
    legible
  rw [watch, ran, ofPipeline]
  rcases pipeline.run.run.run {} with ⟨value | _, sink⟩ <;> exact ⟨rfl, rfl⟩

theorem watch_logger_of_ok {enabled : Bool}
    (answered : settings.enabledIn terminal = .ok enabled)
    (contract : String) (pipeline : Pipeline ρ α) :
    (Compilation.watch [Logger.hook settings] contract terminal pipeline).1 =
        .ok (.ofPipeline pipeline) ∧
      (Compilation.watch [Logger.hook settings] contract terminal pipeline).2.world =
        Logger.overStages settings enabled contract terminal (pipeline.stageRuns {}) := by
  have legible : ∀ other ∈ [settings], other.LegibleIn terminal := by
    simpa using LogSettings.legibleIn_of_ok answered
  rw [← Logger.jointly_singleton answered]
  exact watch_loggers_of_legible legible contract pipeline

theorem watch_logger_of_malformed {first : DebugPattern}
    (found : (settings.patternsIn terminal).find? (·.IsMalformed) = some first)
    (executes : pipeline.stageRuns {} ≠ []) (contract : String) :
    (Compilation.watch [Logger.hook settings] contract terminal pipeline).1 =
        .error (.malformedPattern first.asError) ∧
      (Compilation.watch [Logger.hook settings] contract terminal pipeline).2.world =
        { terminal with reads := terminal.reads + 1 } := by
  have failed : settings.enabledIn terminal = .error first.asError :=
    channelEnabled_eq_error_iff.mpr ⟨first, found, rfl⟩
  have ran := pipeline.runWith_logger_of_error contract { session := { world := terminal } }
    executes failed
  rw [watch, ran]
  exact ⟨rfl, rfl⟩

/-- A logger that watches at least one stage logs as it should. -/
theorem loggedBy_watch (executes : pipeline.stageRuns {} ≠ []) (settings : LogSettings)
    (contract : String) (terminal : Terminal ρ) :
    LoggedBy settings contract terminal (pipeline.stageRuns {}) (.ofPipeline pipeline)
      (Compilation.watch [Logger.hook settings] contract terminal pipeline) where
  unchanged_iff := by
    cases found : (settings.patternsIn terminal).find? (·.IsMalformed) with
    | none =>
        have legible : ∀ pattern ∈ settings.patternsIn terminal, ¬ pattern.IsMalformed := by
          simpa using List.find?_eq_none.mp found
        obtain ⟨enabled, answered⟩ := channelEnabled_eq_ok_of_legible legible settings.channel
        exact iff_of_true (watch_logger_of_ok answered contract pipeline).1 legible
    | some first =>
        have malformed : first.IsMalformed := by simpa using List.find?_some found
        refine iff_of_false ?_ ?_
        · rw [(watch_logger_of_malformed found executes contract).1]
          rintro ⟨⟩
        · intro legible
          exact legible first (List.mem_of_find?_eq_some found) malformed
  printed := by
    intro legible
    obtain ⟨enabled, answered⟩ := channelEnabled_eq_ok_of_legible legible settings.channel
    exact ⟨enabled, answered, (watch_logger_of_ok answered contract pipeline).2⟩
  raised := by
    intro first found
    exact watch_logger_of_malformed found executes contract

end Compilation

/-- A logger logs the compilation of a contract as it should. -/
def ContractDeclaration.LoggedBy (settings : LogSettings) (terminal : Terminal StageResult)
    (options : CompilationOptions) (declaration : ContractDeclaration) : Prop :=
  Compilation.LoggedBy settings declaration.ident terminal (declaration.stageRuns options)
    (declaration.compile options)
    (declaration.compileWatched [Logger.hook settings] terminal options)

/-- A logger logs the compilation of a block as it should. -/
def ImplementationBlock.LoggedBy (settings : LogSettings) (terminal : Terminal StageResult)
    (options : CompilationOptions) (block : ImplementationBlock) : Prop :=
  Compilation.LoggedBy settings block.contractName terminal (block.stageRuns options)
    (block.compile options) (block.compileWatched [Logger.hook settings] terminal options)

namespace Logger

/-- Whatever its settings, its clock and the environment, a logger changes nothing but the log, or
raises its first malformed pattern, in every compilation of contracts and of blocks. -/
theorem log_compilations (settings : LogSettings) (terminal : Terminal StageResult)
    (options : CompilationOptions) :
    (∀ declaration : ContractDeclaration, declaration.LoggedBy settings terminal options) ∧
      ∀ block : ImplementationBlock, block.LoggedBy settings terminal options :=
  ⟨fun declaration => Compilation.loggedBy_watch (Pipeline.stageRuns_stage_ne_nil _) settings
      declaration.ident terminal,
    fun block => Compilation.loggedBy_watch (Pipeline.stageRuns_stage_ne_nil _) settings
      block.contractName terminal⟩

/-- A lone question mark is raised out of the compilation of a contract that compiles. -/
theorem questionMark_raised :
    (character.compileWatched [hook { debug := some "?" }] { clock := fun _ => 0 }).1 =
        .error (.malformedPattern ⟨"?"⟩) ∧
      character.compile = .compiled (character.assembled characterDirectives {}) ∧
      (character.compileWatched [hook { debug := some "?" }] { clock := fun _ => 0 }).1 ≠
        .ok character.compile := by
  have found : (LogSettings.patternsIn { debug := some "?" }
      ({ clock := fun _ => 0 } : Terminal StageResult)).find? (·.IsMalformed) =
        some ⟨false, ['?']⟩ := by
    decide +kernel
  have executes : (character.pipeline {}).stageRuns {} ≠ [] := Pipeline.stageRuns_stage_ne_nil _
  have raised := (Compilation.watch_logger_of_malformed found executes character.ident).1
  refine ⟨raised, compile_character, ?_⟩
  intro unchanged
  cases raised.symm.trans unchanged

end Logger

end InterfaceContract
