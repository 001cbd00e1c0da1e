import StepRunner.Engine.Report
import StepRunner.Wire.Record

/-!
This file gives the answers about runs their JSON form.
-/

namespace StepRunner

namespace ReportStep

/-- The JSON form of one step in a report. -/
def toJson (step : ReportStep) : Json :=
  .obj [("order", .whole step.order), ("step_id", .str step.stepId),
    ("raw_text", .ofOption step.rawText), ("action", .ofOption step.action),
    ("status", step.status.toJson), ("error_text", .ofOption step.errorText),
    ("screenshot_path", .ofOption step.screenshotPath),
    ("screenshot_sha256", .ofOption step.fingerprint)]

end ReportStep

namespace RunReport

/-- The JSON form of a report. -/
def toJson (report : RunReport) : Json :=
  .obj [("run", report.run.toJson), ("test_case", report.testCase.toJson),
    ("steps", .arr (report.steps.map ReportStep.toJson))]

end RunReport

namespace Json

/-- The JSON form of a run with the results of its steps. -/
def ofRunStatus (run : Run) (results : List StepResult) : Json :=
  .obj [("run", run.toJson), ("steps", .arr (results.map StepResult.toJson))]

/-- The JSON form of a test case with its steps. -/
def ofScript (testCase : TestCase) (steps : List Step) : Json :=
  .obj [("test_case", testCase.toJson), ("steps", .arr (steps.map Step.toJson))]

/-- The JSON form of the answer to a request to stop a run. -/
def ofCancel (accepted : Bool) : Json :=
  if accepted then
    .obj [("outcome", .str "accepted"), ("message", .str "cancel requested")]
  else
    .obj [("outcome", .str "no_active_run"), ("message", .str "no active run to cancel")]

/-- The JSON form of the run in progress, or null. -/
def ofActive (context : Option ActiveContext) : Json :=
  match context with
  | some context => context.toJson
  | none => .null

end Json

end StepRunner
