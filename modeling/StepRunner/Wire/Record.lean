import StepRunner.Catalog.Event
import StepRunner.Json.Record

/-!
This file gives each record of the catalog its JSON form and reads it back.
-/

namespace StepRunner

open Json

namespace Browser

/-- An engine is written as its name. -/
def toJson (browser : Browser) : Json := .str browser.name

/-- Reads the name of an engine. -/
def ofJson? (value : Json) : Option Browser := (name? value).bind ofName?

end Browser

namespace RunStatus

/-- A state is written as its name. -/
def toJson (status : RunStatus) : Json := .str status.name

/-- Reads the name of a state. -/
def ofJson? (value : Json) : Option RunStatus := (name? value).bind ofName?

end RunStatus

namespace StepStatus

/-- An outcome is written as its name. -/
def toJson (status : StepStatus) : Json := .str status.name

/-- Reads the name of an outcome. -/
def ofJson? (value : Json) : Option StepStatus := (name? value).bind ofName?

end StepStatus

namespace Variant

/-- A rendition is written as its name. -/
def toJson (variant : Variant) : Json := .str variant.name

/-- Reads the name of a rendition. -/
def ofJson? (value : Json) : Option Variant := (name? value).bind ofName?

end Variant

namespace InstallPhase

/-- A stage is written as its name. -/
def toJson (phase : InstallPhase) : Json := .str phase.name

/-- Reads the name of a stage. -/
def ofJson? (value : Json) : Option InstallPhase := (name? value).bind ofName?

end InstallPhase

namespace Project

/-- The JSON form of a project. -/
def toJson (project : Project) : Json :=
  .obj [("id", .str project.id), ("name", .str project.name),
    ("created_at", .whole project.createdAt)]

/-- Reads a project. -/
def ofJson? (value : Json) : Option Project := do
  let fields ← Fields.of? ["id", "name", "created_at"] value
  let id ← fields.required? "id" string?
  let name ← fields.required? "name" string?
  let createdAt ← fields.required? "created_at" int64?
  return ⟨id, name, createdAt⟩

end Project

namespace TestCase

/-- The JSON form of a test case. -/
def toJson (testCase : TestCase) : Json :=
  .obj [("id", .str testCase.id), ("project_id", .str testCase.projectId),
    ("title", .str testCase.title), ("created_at", .whole testCase.createdAt),
    ("updated_at", .whole testCase.updatedAt)]

/-- Reads a test case. -/
def ofJson? (value : Json) : Option TestCase := do
  let fields ← Fields.of? ["id", "project_id", "title", "created_at", "updated_at"] value
  let id ← fields.required? "id" string?
  let projectId ← fields.required? "project_id" string?
  let title ← fields.required? "title" string?
  let createdAt ← fields.required? "created_at" int64?
  let updatedAt ← fields.required? "updated_at" int64?
  return ⟨id, projectId, title, createdAt, updatedAt⟩

end TestCase

namespace Step

/-- The JSON form of a step. -/
def toJson (step : Step) : Json :=
  .obj [("id", .str step.id), ("test_case_id", .str step.testCaseId),
    ("order", .whole step.order), ("raw_text", .str step.rawText),
    ("parsed_action_json", .ofOption step.storedAction)]

/-- Reads a step. -/
def ofJson? (value : Json) : Option Step := do
  let fields ← Fields.of? ["id", "test_case_id", "order", "raw_text", "parsed_action_json"] value
  let id ← fields.required? "id" string?
  let testCaseId ← fields.required? "test_case_id" string?
  let order ← fields.required? "order" nat32?
  let rawText ← fields.required? "raw_text" string?
  let storedAction ← fields.optional? "parsed_action_json" string?
  return ⟨id, testCaseId, order, rawText, storedAction⟩

end Step

namespace StepDraft

/-- The JSON form of a step draft. -/
def toJson (draft : StepDraft) : Json :=
  .obj [("raw_text", .str draft.rawText), ("parsed_action_json", .ofOption draft.storedAction)]

/-- Reads a step draft. -/
def ofJson? (value : Json) : Option StepDraft := do
  let fields ← Fields.of? ["raw_text", "parsed_action_json"] value
  let rawText ← fields.required? "raw_text" string?
  let storedAction ← fields.optional? "parsed_action_json" string?
  return ⟨rawText, storedAction⟩

end StepDraft

namespace Run

/-- The JSON form of a run. -/
def toJson (run : Run) : Json :=
  .obj [("id", .str run.id), ("test_case_id", .str run.testCaseId),
    ("browser", run.browser.toJson), ("status", run.status.toJson),
    ("started_at", .whole run.startedAt), ("ended_at", .ofOptionInt run.endedAt),
    ("error", .ofOption run.error)]

/-- Reads a run. -/
def ofJson? (value : Json) : Option Run := do
  let fields ← Fields.of?
    ["id", "test_case_id", "browser", "status", "started_at", "ended_at", "error"] value
  let id ← fields.required? "id" string?
  let testCaseId ← fields.required? "test_case_id" string?
  let browser ← fields.required? "browser" Browser.ofJson?
  let status ← fields.required? "status" RunStatus.ofJson?
  let startedAt ← fields.required? "started_at" int64?
  let endedAt ← fields.optional? "ended_at" int64?
  let error ← fields.optional? "error" string?
  return ⟨id, testCaseId, browser, status, startedAt, endedAt, error⟩

end Run

namespace StepResult

/-- The JSON form of a step result. -/
def toJson (result : StepResult) : Json :=
  .obj [("id", .str result.id), ("run_id", .str result.runId), ("step_id", .str result.stepId),
    ("order", .whole result.order), ("status", result.status.toJson),
    ("error_text", .ofOption result.errorText),
    ("screenshot_path", .ofOption result.screenshotPath),
    ("started_at", .whole result.startedAt), ("ended_at", .ofOptionInt result.endedAt)]

/-- Reads a step result. -/
def ofJson? (value : Json) : Option StepResult := do
  let fields ← Fields.of?
    ["id", "run_id", "step_id", "order", "status", "error_text", "screenshot_path", "started_at",
      "ended_at"] value
  let id ← fields.required? "id" string?
  let runId ← fields.required? "run_id" string?
  let stepId ← fields.required? "step_id" string?
  let order ← fields.required? "order" nat32?
  let status ← fields.required? "status" StepStatus.ofJson?
  let errorText ← fields.optional? "error_text" string?
  let screenshotPath ← fields.optional? "screenshot_path" string?
  let startedAt ← fields.required? "started_at" int64?
  let endedAt ← fields.optional? "ended_at" int64?
  return ⟨id, runId, stepId, order, status, errorText, screenshotPath, startedAt, endedAt⟩

end StepResult

namespace ActiveContext

/-- The JSON form of the run in progress. -/
def toJson (context : ActiveContext) : Json :=
  .obj [("run_id", .str context.runId), ("project_id", .str context.projectId),
    ("test_case_id", .str context.testCaseId)]

/-- Reads the run in progress. -/
def ofJson? (value : Json) : Option ActiveContext := do
  let fields ← Fields.of? ["run_id", "project_id", "test_case_id"] value
  let runId ← fields.required? "run_id" string?
  let projectId ← fields.required? "project_id" string?
  let testCaseId ← fields.required? "test_case_id" string?
  return ⟨runId, projectId, testCaseId⟩

end ActiveContext

namespace InstallState

/-- The JSON form of the state of an engine. -/
def toJson (state : InstallState) : Json :=
  .obj [("browser", state.browser.toJson), ("installed", .bool state.installed),
    ("install_in_progress", .bool state.inProgress), ("last_error", .ofOption state.lastError)]

/-- Reads the state of an engine. -/
def ofJson? (value : Json) : Option InstallState := do
  let fields ← Fields.of? ["browser", "installed", "install_in_progress", "last_error"] value
  let browser ← fields.required? "browser" Browser.ofJson?
  let installed ← fields.required? "installed" bool?
  let inProgress ← fields.required? "install_in_progress" bool?
  let lastError ← fields.optional? "last_error" string?
  return ⟨browser, installed, inProgress, lastError⟩

end InstallState

namespace RunEvent

/-- The JSON form of an event of a run; its kind comes first. -/
def toJson : RunEvent → Json
  | runStarted runId testCaseId browser =>
    .obj [("event", .str "run-started"), ("run_id", .str runId),
      ("test_case_id", .str testCaseId), ("browser", browser.toJson)]
  | stepStarted runId stepId order =>
    .obj [("event", .str "step-started"), ("run_id", .str runId), ("step_id", .str stepId),
      ("order", .whole order)]
  | stepFinished runId stepId order status =>
    .obj [("event", .str "step-finished"), ("run_id", .str runId), ("step_id", .str stepId),
      ("order", .whole order), ("status", status.toJson)]
  | runFinished runId status =>
    .obj [("event", .str "run-finished"), ("run_id", .str runId), ("status", status.toJson)]

/-- Reads an event of a run. -/
def ofJson? (value : Json) : Option RunEvent := do
  let (kind, content) ← tagged? "event" value
  match kind with
  | "run-started" =>
    let fields ← Fields.of? ["run_id", "test_case_id", "browser"] content
    let runId ← fields.required? "run_id" string?
    let testCaseId ← fields.required? "test_case_id" string?
    let browser ← fields.required? "browser" Browser.ofJson?
    return runStarted runId testCaseId browser
  | "step-started" =>
    let fields ← Fields.of? ["run_id", "step_id", "order"] content
    let runId ← fields.required? "run_id" string?
    let stepId ← fields.required? "step_id" string?
    let order ← fields.required? "order" nat32?
    return stepStarted runId stepId order
  | "step-finished" =>
    let fields ← Fields.of? ["run_id", "step_id", "order", "status"] content
    let runId ← fields.required? "run_id" string?
    let stepId ← fields.required? "step_id" string?
    let order ← fields.required? "order" nat32?
    let status ← fields.required? "status" StepStatus.ofJson?
    return stepFinished runId stepId order status
  | "run-finished" =>
    let fields ← Fields.of? ["run_id", "status"] content
    let runId ← fields.required? "run_id" string?
    let status ← fields.required? "status" RunStatus.ofJson?
    return runFinished runId status
  | _ => none

end RunEvent

namespace InstallEvent

/-- The JSON form of an event of an install; an absent error is left out. -/
def toJson (event : InstallEvent) : Json :=
  .obj <| [("browser", event.browser.toJson), ("phase", event.phase.toJson)] ++
    match event.error with
    | some error => [("error", .str error)]
    | none => []

/-- Reads an event of an install. -/
def ofJson? (value : Json) : Option InstallEvent := do
  let fields ← Fields.of? ["browser", "phase", "error"] value
  let browser ← fields.required? "browser" Browser.ofJson?
  let phase ← fields.required? "phase" InstallPhase.ofJson?
  let error ← fields.optional? "error" string?
  return ⟨browser, phase, error⟩

end InstallEvent

end StepRunner
