/-
This file describes a compilation as a sequence of named stages.
-/

import InterfaceContract.Diagnostic.Sink

namespace InterfaceContract

/-- The stages of a compilation, in the order of their execution. -/
inductive Stage where
  | options
  | externalDowncasts
  | classify
  | methodDowncasts
  | context
  | scalar
  | async
  | dispatch
  | assemble
  deriving Repr, DecidableEq, Inhabited

namespace Stage

def all : List Stage :=
  [.options, .externalDowncasts, .classify, .methodDowncasts, .context, .scalar, .async,
    .dispatch, .assemble]

def text : Stage → String
  | .options => "options"
  | .externalDowncasts => "externalDowncasts"
  | .classify => "classify"
  | .methodDowncasts => "methodDowncasts"
  | .context => "context"
  | .scalar => "scalar"
  | .async => "async"
  | .dispatch => "dispatch"
  | .assemble => "assemble"

def ofText? (text : String) : Option Stage :=
  all.find? (·.text == text)

theorem ofText?_text (stage : Stage) : ofText? stage.text = some stage := by
  cases stage <;> rfl

end Stage

/-- A sequence of stages. Each stage has a body, a way to show its result to an observer, and a
continuation that depends on the result. -/
inductive Pipeline (ρ α : Type) : Type 1 where
  | finish (value : α)
  | stage (β : Type) (name : Stage) (body : Stopping β) (present : β → ρ)
      (next : β → Pipeline ρ α)

namespace Pipeline

variable {ρ α γ : Type}

/-- A pipeline of one stage. -/
def single (name : Stage) (body : Stopping α) (present : α → ρ) : Pipeline ρ α :=
  .stage α name body present .finish

def bind : Pipeline ρ α → (α → Pipeline ρ γ) → Pipeline ρ γ
  | .finish value, continuation => continuation value
  | .stage β name body present next, continuation =>
      .stage β name body present fun value => (next value).bind continuation

instance : Monad (Pipeline ρ) where
  pure := .finish
  bind := bind

/-- Runs the bodies one after another, with nobody watching. -/
def run : Pipeline ρ α → Stopping α
  | .finish value => pure value
  | .stage _ _ body _ next => do
      let value ← body
      (next value).run

@[simp] theorem bind_finish (value : α) (continuation : α → Pipeline ρ γ) :
    (finish value : Pipeline ρ α).bind continuation = continuation value := rfl

/-- A stage that stops ends the run, and one that passes hands its value on. -/
theorem run_stage {β : Type} (name : Stage) (body : Stopping β) (present : β → ρ)
    (next : β → Pipeline ρ α) (sink : Sink) :
    (stage β name body present next).run.run.run sink =
      match body.run.run sink with
      | (some value, sink) => (next value).run.run.run sink
      | (none, sink) => (none, sink) :=
  Stopping.run_bind body (fun value => (next value).run) sink

section

variable {β : Type} {name : Stage} {body : Stopping β} {present : β → ρ} {sink after : Sink}

theorem run_single_bind_of_pass {value : β} (passed : body.run.run sink = (some value, after))
    (continuation : β → Pipeline ρ α) :
    (single name body present >>= continuation).run.run.run sink =
      (continuation value).run.run.run after := by
  refine (run_stage name body present continuation sink).trans ?_
  rw [passed]

theorem run_single_bind_of_stop (stopped : body.run.run sink = (none, after))
    (continuation : β → Pipeline ρ α) :
    (single name body present >>= continuation).run.run.run sink = (none, after) := by
  refine (run_stage name body present continuation sink).trans ?_
  rw [stopped]

end

end Pipeline

/-- What a compilation comes to. -/
inductive Compilation (α : Type) where
  | compiled (value : α)
  | rejected (diagnostics : List Diagnostic)

namespace Compilation

variable {α : Type}

/-- A compilation that stopped is rejected with all that was recorded. -/
def ofRun : Option α × Sink → Compilation α
  | (some value, _) => .compiled value
  | (none, sink) => .rejected sink.diagnostics

def ofPipeline {ρ : Type} (pipeline : Pipeline ρ α) : Compilation α :=
  ofRun (pipeline.run.run.run {})

/-- A rejected compilation becomes an error that names the contract. -/
def toExcept (contract : String) : Compilation α → Except CompilationFailure α
  | .compiled value => .ok value
  | .rejected diagnostics => .error ⟨contract, diagnostics⟩

end Compilation

end InterfaceContract
