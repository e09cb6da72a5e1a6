/-
This file lets hooks watch a pipeline stage by stage.
-/

import InterfaceContract.Logging.Pattern
import InterfaceContract.Pipeline.Basic
import InterfaceContract.Value

namespace InterfaceContract

/-- What the hooks of one compilation have stored, by key. -/
structure HookStore where
  entries : List (String × Value) := []
  deriving Inhabited

namespace HookStore

def get? (store : HookStore) (key : String) : Option Value :=
  store.entries.lookup key

/-- A later value replaces an earlier one. -/
def set (store : HookStore) (key : String) (value : Value) : HookStore :=
  ⟨(key, value) :: store.entries⟩

@[simp] theorem get?_empty (key : String) : get? {} key = none := rfl

@[simp] theorem get?_set_same (store : HookStore) (key : String) (value : Value) :
    (store.set key value).get? key = some value := by
  simp [get?, set]

end HookStore

/-- What a hook may raise besides a stop. -/
inductive HookError where
  | failure (message : String)
  | malformedPattern (pattern : MalformedPattern)
  deriving Repr, DecidableEq

/-- Why a compilation ends before its last stage. -/
inductive Interrupt where
  | stop
  | error (error : HookError)
  deriving Repr, DecidableEq

/-- All that hooks act on: their own store and the world outside. -/
structure Session (ω : Type) where
  store : HookStore := {}
  world : ω

abbrev HookAction (ω : Type) := ExceptT Interrupt (StateM (Session ω))

/-- How a stage ended, as a hook sees it. -/
inductive StageEnding (ρ : Type) where
  | passed (result : ρ)
  | stopped (diagnostics : List Diagnostic)

/-- An observer of the stages of a compilation, which leaves what it is shown as it is. Either half may be
missing. -/
structure Hook (ρ ω : Type) where
  before : Option (String → Stage → HookAction ω Unit) := none
  after : Option (String → Stage → StageEnding ρ → HookAction ω Unit) := none

namespace Hook

variable {ρ ω : Type}

/-- Calls every hook before a stage, in their order. -/
def callBefore (hooks : List (Hook ρ ω)) (contract : String) (stage : Stage) :
    HookAction ω Unit :=
  hooks.forM fun hook =>
    match hook.before with
    | some action => action contract stage
    | none => pure ()

/-- Calls every hook after a stage, in their order. -/
def callAfter (hooks : List (Hook ρ ω)) (contract : String) (stage : Stage)
    (ending : StageEnding ρ) : HookAction ω Unit :=
  hooks.forM fun hook =>
    match hook.after with
    | some action => action contract stage ending
    | none => pure ()

end Hook

/-- The state of a watched compilation. -/
structure Watch (ω : Type) where
  sink : Sink := {}
  session : Session ω

abbrev Watched (ω : Type) := ExceptT Interrupt (StateM (Watch ω))

namespace Watched

variable {ω α : Type}

/-- A hook sees its session and not the sink. -/
def ofHook (action : HookAction ω α) : Watched ω α :=
  ExceptT.mk fun watch =>
    let (result, session) := action.run.run watch.session
    (result, { watch with session := session })

/-- A stage body sees the sink and not the session. -/
def ofBody (body : Stopping α) : Watched ω (Option α) :=
  ExceptT.mk fun watch =>
    let (result, sink) := body.run.run watch.sink
    (.ok result, { watch with sink := sink })

def diagnostics : Watched ω (List Diagnostic) := do
  pure (← get).sink.diagnostics

end Watched

namespace Pipeline

variable {ρ ω α : Type}

/-- Runs the stages with hooks around each. A stage that stops is shown to the hooks before the
compilation ends; a hook that raises something ends it at once. -/
def runWith (hooks : List (Hook ρ ω)) (contract : String) : Pipeline ρ α → Watched ω α
  | .finish value => pure value
  | .stage _ name body present next => do
      Watched.ofHook (Hook.callBefore hooks contract name)
      match ← Watched.ofBody body with
      | some value =>
          Watched.ofHook (Hook.callAfter hooks contract name (.passed (present value)))
          (next value).runWith hooks contract
      | none =>
          let diagnostics ← Watched.diagnostics
          Watched.ofHook (Hook.callAfter hooks contract name (.stopped diagnostics))
          throw .stop

end Pipeline

namespace Compilation

variable {ρ ω α : Type}

/-- A stop is a rejection, whoever asked for it; any other error of a hook is passed on. -/
def ofWatched : Except Interrupt α × Watch ω → Except HookError (Compilation α)
  | (.ok value, _) => .ok (.compiled value)
  | (.error .stop, watch) => .ok (.rejected watch.sink.diagnostics)
  | (.error (.error error), _) => .error error

/-- Runs a pipeline under hooks, from an empty store. -/
def watch (hooks : List (Hook ρ ω)) (contract : String) (world : ω) (pipeline : Pipeline ρ α) :
    Except HookError (Compilation α) × Session ω :=
  let ended := (pipeline.runWith hooks contract).run.run { session := { world := world } }
  (ofWatched ended, ended.2.session)

end Compilation

end InterfaceContract
