import StepRunner.Engine.Catalog

/-!
This file answers questions about runs.
-/

namespace StepRunner

/-- One step in the report of a run. -/
structure ReportStep where
  order : Nat
  stepId : String
  /-- The text of the step, as long as the test case still has the step. -/
  rawText : Option String
  /-- A label of the action of the step, as long as the test case still has the step. -/
  action : Option String
  status : StepStatus
  errorText : Option String
  screenshotPath : Option String
  /-- The fingerprint of the screenshot, as long as it can be read. -/
  fingerprint : Option String
  deriving DecidableEq, Repr

/-- All that a person needs to know about one run. -/
structure RunReport where
  run : Run
  testCase : TestCase
  steps : List ReportStep
  deriving DecidableEq, Repr

namespace Engine

/-- The run with an id. -/
def run (engine : Engine) (id : String) : Except EngineError Run :=
  match engine.store.tables.run? id with
  | some run => .ok run
  | none => .error (.notFound .run id)

/-- The run with an id and the results of its steps. -/
def status (engine : Engine) (runId : String) : Except EngineError (Run × List StepResult) := do
  let run ← engine.run runId
  return (run, engine.store.tables.listResults runId)

/-- The results of the steps of a run. -/
def results (engine : Engine) (runId : String) : Except EngineError (List StepResult) := do
  let _ ← engine.run runId
  return engine.store.tables.listResults runId

/-- The runs of a test case, newest first. -/
def history (engine : Engine) (testCaseId : String) : Except EngineError (List Run) := do
  let _ ← engine.testCase testCaseId
  return engine.store.tables.listRuns testCaseId

/-- One step of a report; the step is looked up among the present steps of the test case. -/
def reportStep (engine : Engine) (steps : List Step) (result : StepResult) : ReportStep :=
  let step := steps.find? fun step => step.id = result.stepId
  { order := result.order
    stepId := result.stepId
    rawText := step.map Step.rawText
    action := (step.bind Step.action?).map Action.label
    status := result.status
    errorText := result.errorText
    screenshotPath := result.screenshotPath
    fingerprint := result.screenshotPath.bind fun path => (engine.artifacts.digest path).toOption }

/-- The report of a run. -/
def report (engine : Engine) (runId : String) : Except EngineError RunReport := do
  let run ← engine.run runId
  let testCase ← engine.testCase run.testCaseId
  let steps := engine.store.tables.listSteps testCase.id
  return ⟨run, testCase, (engine.store.tables.listResults runId).map (engine.reportStep steps)⟩

end Engine

end StepRunner
