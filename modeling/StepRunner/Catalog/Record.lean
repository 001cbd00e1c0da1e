import StepRunner.Catalog.Browser
import StepRunner.Catalog.Status

/-!
This file defines what the store keeps: projects, test cases, their steps, runs and step results.
Instants are milliseconds since the start of the year 1970.
-/

namespace StepRunner

/-- A project groups test cases. -/
structure Project where
  id : String
  name : String
  createdAt : Int
  deriving DecidableEq, Repr, Inhabited

/-- A test case is a titled script of a project. -/
structure TestCase where
  id : String
  projectId : String
  title : String
  createdAt : Int
  updatedAt : Int
  deriving DecidableEq, Repr, Inhabited

/-- One line of the script of a test case. -/
structure Step where
  id : String
  testCaseId : String
  /-- Counts the steps of the test case from one. -/
  order : Nat
  rawText : String
  /-- The action that the line was read as, written as JSON. -/
  storedAction : Option String
  deriving DecidableEq, Repr, Inhabited

/-- The content of a step that is about to be stored. -/
structure StepDraft where
  rawText : String
  storedAction : Option String
  deriving DecidableEq, Repr, Inhabited

/-- One execution of a test case. -/
structure Run where
  id : String
  testCaseId : String
  browser : Browser
  status : RunStatus
  startedAt : Int
  endedAt : Option Int
  /-- The failure of the whole session, if one ended the run early. -/
  error : Option String
  deriving DecidableEq, Repr, Inhabited

/-- What became of one step in a run. -/
structure StepResult where
  id : String
  runId : String
  stepId : String
  order : Nat
  status : StepStatus
  errorText : Option String
  screenshotPath : Option String
  startedAt : Int
  endedAt : Option Int
  deriving DecidableEq, Repr, Inhabited

/-- Identifies the run in progress. -/
structure ActiveContext where
  runId : String
  projectId : String
  testCaseId : String
  deriving DecidableEq, Repr, Inhabited

/-- What is known about one browser engine on this host. -/
structure InstallState where
  browser : Browser
  installed : Bool
  inProgress : Bool
  lastError : Option String
  deriving DecidableEq, Repr, Inhabited

/-- The state of an engine that nobody has looked at. -/
def InstallState.unknown (browser : Browser) : InstallState :=
  ⟨browser, false, false, none⟩

end StepRunner
