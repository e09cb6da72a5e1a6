/-
This file says what the log of a single logger tells of a compilation, stage by stage.
-/

import InterfaceContract.Proofs.Diagnostic.Text
import InterfaceContract.Proofs.Logging.Headline
import InterfaceContract.Proofs.Logging.Transparency

namespace InterfaceContract

variable {ρ α : Type}

namespace Logger

/-- A line that is left out if a stage was too short. -/
def unlessShort (settings : LogSettings) (duration : Rat) (line : LogEntry ρ) :
    List (LogEntry ρ) :=
  if settings.minDuration ≤ duration then [line] else []

/-- What an enabled logger tells of the executed stages from a given one on, where the clock is read
right before and right after each. A stage takes the time between the two readings, rounded as binary
floating point has it. A stage that passes is told with its result if results are logged; the stage that
stops a compilation is told with all of its diagnostics, as texts if diagnostics are logged. -/
inductive Tells (settings : LogSettings) (contract : String) (clock : Nat → Rat) :
    Compilation α → Nat → List (StageRun ρ) → List (LogEntry ρ) → Prop
  | compiled (value : α) (stage : Nat) : Tells settings contract clock (.compiled value) stage [] []
  | passed {compilation : Compilation α} {index : Nat} {runs : List (StageRun ρ)}
      {lines : List (LogEntry ρ)} (stage : Stage) (result : ρ) {duration : Rat}
      (took : Number.RoundsTo (clock (2 * index + 1) - clock (2 * index)) duration)
      (rest : Tells settings contract clock compilation (index + 1) runs lines) :
      Tells settings contract clock compilation index (⟨stage, .passed result⟩ :: runs)
        (.started contract stage ::
          unlessShort settings duration (.passed contract stage duration
            (if settings.logResults then some result else none)) ++ lines)
  | stopped {index : Nat} (stage : Stage) {diagnostics : List Diagnostic} {texts : List String}
      {duration : Rat}
      (took : Number.RoundsTo (clock (2 * index + 1) - clock (2 * index)) duration)
      (written : List.Forall₂ Diagnostic.WrittenAs diagnostics texts) :
      Tells settings contract clock (.rejected diagnostics) index [⟨stage, .stopped diagnostics⟩]
        (.started contract stage ::
          unlessShort settings duration (.stopped contract stage duration diagnostics.length
            (if settings.logDiagnostics then some texts else none)))

variable {settings : LogSettings} {contract : String} {clock : Nat → Rat} {begun : Nat}
  {stopping stages : List Stage} {compilation : Compilation α}

end Logger

namespace Compilation

variable {settings : LogSettings} {terminal : Terminal ρ} {stopping stages : List Stage}

end Compilation

namespace Logger

/-- What is printed: the text of a line, and those of the diagnostics that come with it. -/
def printed (line : LogEntry ρ) : String × List String :=
  match line with
  | .stopped _ _ _ _ (some texts) => (line.headline, texts)
  | _ => (line.headline, [])

end Logger

end InterfaceContract
