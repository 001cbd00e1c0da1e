import StepRunner.Catalog.Record

/-!
This file defines the events that observers receive.
-/

namespace StepRunner

/-- What happened to a run. -/
inductive RunEvent where
  | runStarted (runId testCaseId : String) (browser : Browser)
  | stepStarted (runId stepId : String) (order : Nat)
  | stepFinished (runId stepId : String) (order : Nat) (status : StepStatus)
  | runFinished (runId : String) (status : RunStatus)
  deriving DecidableEq, Repr

/-- The run that an event is about. -/
def RunEvent.runId : RunEvent → String
  | runStarted runId _ _ => runId
  | stepStarted runId _ _ => runId
  | stepFinished runId _ _ _ => runId
  | runFinished runId _ => runId

/-- A stage of an install. -/
inductive InstallPhase where
  | starting
  | installing
  | completed
  | failed
  deriving DecidableEq, Repr

namespace InstallPhase

/-- Every stage. -/
def all : List InstallPhase := [starting, installing, completed, failed]

/-- The name of a stage. -/
def name : InstallPhase → String
  | starting => "starting"
  | installing => "installing"
  | completed => "completed"
  | failed => "failed"

/-- The stage with the given name. -/
def ofName? (text : String) : Option InstallPhase :=
  all.find? fun phase => phase.name = text

theorem ofName?_name (phase : InstallPhase) : ofName? phase.name = some phase := by
  cases phase <;> decide

end InstallPhase

/-- What happened to the install of an engine. -/
structure InstallEvent where
  browser : Browser
  phase : InstallPhase
  error : Option String
  deriving DecidableEq, Repr

/-- Which rendition of a screenshot is asked for. -/
inductive Variant where
  | thumbnail
  | full
  deriving DecidableEq, Repr, Inhabited

namespace Variant

/-- The name of a rendition. -/
def name : Variant → String
  | thumbnail => "thumbnail"
  | full => "full"

/-- The rendition with the given name. -/
def ofName? (text : String) : Option Variant :=
  [thumbnail, full].find? fun variant => variant.name = text

theorem ofName?_name (variant : Variant) : ofName? variant.name = some variant := by
  cases variant <;> decide

end Variant

end StepRunner
