/-
This file collects the diagnostics of one compilation.
-/

import InterfaceContract.Diagnostic.Problem

namespace InterfaceContract

/-- The diagnostics recorded so far, the oldest first. -/
structure Sink where
  diagnostics : List Diagnostic := []
  deriving Repr, DecidableEq, Inhabited

namespace Sink

def record (sink : Sink) (diagnostic : Diagnostic) : Sink :=
  ⟨sink.diagnostics ++ [diagnostic]⟩

/-- Something was recorded. -/
def isDirty (sink : Sink) : Bool :=
  !sink.diagnostics.isEmpty

@[simp] theorem diagnostics_record (sink : Sink) (diagnostic : Diagnostic) :
    (sink.record diagnostic).diagnostics = sink.diagnostics ++ [diagnostic] := rfl

theorem isDirty_iff (sink : Sink) : sink.isDirty = true ↔ sink.diagnostics ≠ [] := by
  simp [isDirty]

@[simp] theorem isDirty_record (sink : Sink) (diagnostic : Diagnostic) :
    (sink.record diagnostic).isDirty = true := by
  simp [isDirty]

end Sink

/-- A step that may record diagnostics and always goes on. -/
abbrev Reporting := StateM Sink

namespace Reporting

def report (problem : Problem) : Reporting Unit :=
  modify (·.record problem.toDiagnostic)

/-- A rejected part leaves its report behind and nothing else. -/
def attempt {α : Type} : Except Problem α → Reporting (Option α)
  | .ok value => pure (some value)
  | .error problem => do
      report problem
      pure none

@[simp] theorem run_report (problem : Problem) (sink : Sink) :
    (report problem).run sink = ((), sink.record problem.toDiagnostic) := rfl

@[simp] theorem run_attempt_ok {α : Type} (value : α) (sink : Sink) :
    (attempt (.ok value)).run sink = (some value, sink) := rfl

@[simp] theorem run_attempt_error {α : Type} (problem : Problem) (sink : Sink) :
    (attempt (.error problem : Except Problem α)).run sink =
      (none, sink.record problem.toDiagnostic) := rfl

end Reporting

/-- A step that may also stop the compilation. -/
abbrev Stopping := OptionT Reporting

namespace Stopping

def stop {α : Type} : Stopping α :=
  OptionT.fail

def stopIfDirty : Stopping Unit := do
  if (← get).isDirty then stop

variable {α β : Type}

/-- A step goes on from what the one before it recorded, unless that one stopped. -/
theorem run_bind (body : Stopping α) (next : α → Stopping β) (sink : Sink) :
    (body >>= next).run.run sink =
      match body.run.run sink with
      | (some value, sink) => (next value).run.run sink
      | (none, sink) => (none, sink) := by
  rw [OptionT.run_bind]
  change (Option.elim (body.run.run sink).1 (pure none) fun value => (next value).run).run
    (body.run.run sink).2 = _
  rcases body.run.run sink with ⟨_ | value, rest⟩ <;> rfl

/-- A reporting step never stops. -/
theorem run_lift (step : Reporting α) (sink : Sink) :
    (liftM step : Stopping α).run.run sink = (some (step.run sink).1, (step.run sink).2) := rfl

theorem run_stopIfDirty (sink : Sink) :
    stopIfDirty.run.run sink = (if sink.isDirty then none else some (), sink) := by
  change (if sink.isDirty then (stop : Stopping Unit) else pure ()).run.run sink = _
  cases sink.isDirty <;> rfl

end Stopping

end InterfaceContract
