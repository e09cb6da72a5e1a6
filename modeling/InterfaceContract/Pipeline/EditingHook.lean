/-
This file lets hooks change the diagnostics that they are shown.
-/

import InterfaceContract.Pipeline.Hook

namespace InterfaceContract

/-- What becomes of the diagnostic at each position of a list. -/
abbrev DiagnosticEdit := Nat → Diagnostic → Diagnostic

/-- A hook that may write into the diagnostics of a stage that stopped. They are those of the compilation
itself, so the next hook is shown what this one left of them, but the list is read only: it gets no longer
and no shorter. The result of a stage that passed is of no known type to a hook, which writes nothing into
it. -/
structure EditingHook (ρ ω : Type) where
  before : Option (String → Stage → HookAction ω Unit) := none
  after : Option (String → Stage → StageEnding ρ → HookAction ω DiagnosticEdit) := none

namespace Watched

variable {ω : Type}

def edit (change : DiagnosticEdit) : Watched ω Unit :=
  modify fun watch => { watch with sink := ⟨watch.sink.diagnostics.mapIdx change⟩ }

end Watched

namespace EditingHook

variable {ρ ω : Type}

/-- The hook without what it writes. -/
def plain (hook : EditingHook ρ ω) : Hook ρ ω where
  before := hook.before
  after := hook.after.map fun action contract stage ending => do
    discard (action contract stage ending)

/-- The hook that does the same and writes nothing. -/
def ofHook (hook : Hook ρ ω) : EditingHook ρ ω where
  before := hook.before
  after := hook.after.map fun action contract stage ending => do
    action contract stage ending
    pure fun _ diagnostic => diagnostic

/-- Shows a hook the diagnostics as they are now, and lets it write into them. -/
def showStopped (action : StageEnding ρ → HookAction ω DiagnosticEdit) : Watched ω Unit := do
  let diagnostics ← Watched.diagnostics
  Watched.edit (← Watched.ofHook (action (.stopped diagnostics)))

/-- Calls a hook after a stage that stopped, if it has something to do then. -/
def stopped (contract : String) (stage : Stage) (hook : EditingHook ρ ω) : Watched ω Unit :=
  match hook.after with
  | some action => showStopped (action contract stage)
  | none => pure ()

/-- Calls every hook after a stage that stopped, in their order. -/
def callStopped (hooks : List (EditingHook ρ ω)) (contract : String) (stage : Stage) :
    Watched ω Unit :=
  hooks.forM (stopped contract stage)

end EditingHook

namespace Pipeline

variable {ρ ω α : Type}

/-- Runs the stages with hooks around each that may change the diagnostics of the last. -/
def runEdited (hooks : List (EditingHook ρ ω)) (contract : String) : Pipeline ρ α → Watched ω α
  | .finish value => pure value
  | .stage _ name body present next => do
      Watched.ofHook (Hook.callBefore (hooks.map EditingHook.plain) contract name)
      match ← Watched.ofBody body with
      | some value =>
          Watched.ofHook (Hook.callAfter (hooks.map EditingHook.plain) contract name
            (.passed (present value)))
          (next value).runEdited hooks contract
      | none =>
          EditingHook.callStopped hooks contract name
          throw .stop

end Pipeline

/-- Runs a pipeline under hooks that may change diagnostics, from an empty store. -/
def Compilation.watchEdited {ρ ω α : Type} (hooks : List (EditingHook ρ ω)) (contract : String)
    (world : ω) (pipeline : Pipeline ρ α) : Except HookError (Compilation α) × Session ω :=
  let ended := (pipeline.runEdited hooks contract).run.run { session := { world := world } }
  (ofWatched ended, ended.2.session)

end InterfaceContract
