/-!
This file defines the states of runs and of their steps.
-/

namespace StepRunner

/-- The state of a run. -/
inductive RunStatus where
  | queued
  | running
  | passed
  | failed
  | cancelled
  deriving DecidableEq, Repr, Inhabited

namespace RunStatus

/-- Every state, in the order of a run's life. -/
def all : List RunStatus := [queued, running, passed, failed, cancelled]

/-- The name of a state. -/
def name : RunStatus → String
  | queued => "queued"
  | running => "running"
  | passed => "passed"
  | failed => "failed"
  | cancelled => "cancelled"

/-- The state with the given name. -/
def ofName? (text : String) : Option RunStatus :=
  all.find? fun status => status.name = text

/-- A run in a terminal state never changes again. -/
def isTerminal : RunStatus → Bool
  | queued | running => false
  | passed | failed | cancelled => true

/-- The changes of state that a run can make. -/
inductive Edge : RunStatus → RunStatus → Prop where
  | begin : Edge queued running
  | pass : Edge running passed
  | fail : Edge running failed
  | cancel : Edge running cancelled

/-- Decides whether a run in one state may move to another. -/
def canMoveTo : RunStatus → RunStatus → Bool
  | queued, running => true
  | running, passed => true
  | running, failed => true
  | running, cancelled => true
  | _, _ => false

theorem canMoveTo_iff_edge {before after : RunStatus} :
    before.canMoveTo after = true ↔ Edge before after := by
  constructor
  · cases before <;> cases after <;> simp [canMoveTo] <;> constructor
  · intro edge
    cases edge <;> rfl

/-- The states that a run in one state may move to. -/
def successors (status : RunStatus) : List RunStatus :=
  all.filter status.canMoveTo

theorem ofName?_name (status : RunStatus) : ofName? status.name = some status := by
  cases status <;> decide

end RunStatus

/-- The outcome of one step of a run. -/
inductive StepStatus where
  | pending
  | passed
  | failed
  | cancelled
  deriving DecidableEq, Repr, Inhabited

namespace StepStatus

/-- Every outcome. -/
def all : List StepStatus := [pending, passed, failed, cancelled]

/-- The name of an outcome. -/
def name : StepStatus → String
  | pending => "pending"
  | passed => "passed"
  | failed => "failed"
  | cancelled => "cancelled"

/-- The outcome with the given name. -/
def ofName? (text : String) : Option StepStatus :=
  all.find? fun status => status.name = text

theorem ofName?_name (status : StepStatus) : ofName? status.name = some status := by
  cases status <;> decide

end StepStatus

end StepRunner
