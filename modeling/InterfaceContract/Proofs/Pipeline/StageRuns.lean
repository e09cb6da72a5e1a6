/-
This file lists the stages that a run of a pipeline executes, and says how they end.
-/

import InterfaceContract.Pipeline.Hook
import Mathlib.Data.List.Forall2

namespace InterfaceContract

/-- A stage that was executed. -/
structure StageRun (ρ : Type) where
  stage : Stage
  ending : StageEnding ρ

variable {ρ α β : Type}

namespace Pipeline

/-- The stages that a run executes; one that stops is the last. -/
def stageRuns : Pipeline ρ α → Sink → List (StageRun ρ)
  | .finish _, _ => []
  | .stage _ name body present next, sink =>
      match body.run.run sink with
      | (some value, sink) => ⟨name, .passed (present value)⟩ :: (next value).stageRuns sink
      | (none, sink) => [⟨name, .stopped sink.diagnostics⟩]

section

variable {name : Stage} {body : Stopping β} {present : β → ρ} {sink after : Sink}

theorem stageRuns_stage_of_pass {value : β} (passed : body.run.run sink = (some value, after))
    (next : β → Pipeline ρ α) :
    (stage β name body present next).stageRuns sink =
      ⟨name, .passed (present value)⟩ :: (next value).stageRuns after := by
  rw [stageRuns, passed]

theorem stageRuns_stage_of_stop (stopped : body.run.run sink = (none, after))
    (next : β → Pipeline ρ α) :
    (stage β name body present next).stageRuns sink = [⟨name, .stopped after.diagnostics⟩] := by
  rw [stageRuns, stopped]

theorem stageRuns_stage_ne_nil (next : β → Pipeline ρ α) :
    (stage β name body present next).stageRuns sink ≠ [] := by
  rw [stageRuns]
  split <;> exact List.cons_ne_nil _ _

end

end Pipeline

/-- The given stages were executed, and all of them passed. -/
def AllPassed (stages : List Stage) (runs : List (StageRun ρ)) : Prop :=
  List.Forall₂ (fun stage run => ∃ result, run = ⟨stage, .passed result⟩) stages runs

/-- A compilation ends along a list of stages if all of them passed before it compiled, or if it was
rejected with what had been recorded when the last executed stage stopped, after all earlier ones had
passed. Only some stages may stop. -/
def Compilation.EndsAlong (stopping stages : List Stage) (runs : List (StageRun ρ)) :
    Compilation α → Prop
  | .compiled _ => AllPassed stages runs
  | .rejected diagnostics => ∃ earlier last later passed,
      stages = earlier ++ last :: later ∧ last ∈ stopping ∧ AllPassed earlier passed ∧
        runs = passed ++ [⟨last, .stopped diagnostics⟩]

variable {stopping stages : List Stage}

/-- One more stage that passes comes first. -/
theorem Compilation.EndsAlong.cons {compilation : Compilation α} {runs : List (StageRun ρ)}
    (ends : compilation.EndsAlong stopping stages runs) (name : Stage) (result : ρ) :
    compilation.EndsAlong stopping (name :: stages) (⟨name, .passed result⟩ :: runs) := by
  cases compilation with
  | compiled value => exact List.Forall₂.cons ⟨result, rfl⟩ ends
  | rejected diagnostics =>
      obtain ⟨earlier, last, later, passed, rfl, stops, allPassed, rfl⟩ := ends
      exact ⟨name :: earlier, last, later, ⟨name, .passed result⟩ :: passed, rfl, stops,
        .cons ⟨result, rfl⟩ allPassed, rfl⟩

namespace Pipeline

/-- A pipeline follows a list of stages if it executes them in their order, whatever their results
are, and stops at none but the given ones. -/
inductive Follows (stopping : List Stage) : List Stage → Pipeline ρ α → Prop
  | finish (value : α) : Follows stopping [] (.finish value)
  | stage {name : Stage} {stages : List Stage} {β : Type} {body : Stopping β} {present : β → ρ}
      {next : β → Pipeline ρ α}
      (goesOn : name ∉ stopping → ∀ sink, ∃ value after, body.run.run sink = (some value, after))
      (rest : ∀ value, Follows stopping stages (next value)) :
      Follows stopping (name :: stages) (.stage β name body present next)

namespace Follows

variable {name : Stage} {present : β → ρ} {continuation : β → Pipeline ρ α}

theorem bind_of_mem (stops : name ∈ stopping) {body : Stopping β}
    (rest : ∀ value, Follows stopping stages (continuation value)) :
    Follows stopping (name :: stages) (single name body present >>= continuation) :=
  .stage (fun never => absurd stops never) rest

/-- A reporting step never stops. -/
theorem bind_lift {step : Reporting β}
    (rest : ∀ value, Follows stopping stages (continuation value)) :
    Follows stopping (name :: stages) (single name (liftM step) present >>= continuation) :=
  .stage (fun _ sink => ⟨_, _, Stopping.run_lift step sink⟩) rest

theorem bind_pure {value : β} (rest : ∀ value, Follows stopping stages (continuation value)) :
    Follows stopping (name :: stages) (single name (pure value) present >>= continuation) :=
  .stage (fun _ sink => ⟨value, sink, rfl⟩) rest

theorem single_pure {value : α} {present : α → ρ} :
    Follows stopping [name] (single name (pure value) present) :=
  .stage (fun _ sink => ⟨value, sink, rfl⟩) .finish

/-- A pipeline ends along the stages that it follows. -/
theorem endsAlong {pipeline : Pipeline ρ α} (follows : Follows stopping stages pipeline)
    (sink : Sink) :
    (Compilation.ofRun (pipeline.run.run.run sink)).EndsAlong stopping stages
      (pipeline.stageRuns sink) := by
  induction follows generalizing sink with
  | finish value => exact List.Forall₂.nil
  | @stage name stages β body present next goesOn rest inductionHypothesis =>
      rw [run_stage]
      rcases ended : body.run.run sink with ⟨_ | value, after⟩
      · rw [stageRuns_stage_of_stop ended]
        by_cases stops : name ∈ stopping
        · exact ⟨[], name, stages, [], rfl, stops, .nil, rfl⟩
        · obtain ⟨value, other, passed⟩ := goesOn stops sink
          rw [passed] at ended
          cases ended
      · rw [stageRuns_stage_of_pass ended]
        exact (inductionHypothesis value after).cons name (present value)

end Follows

end Pipeline

end InterfaceContract
