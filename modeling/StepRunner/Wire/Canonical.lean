import StepRunner.Json.Shape
import StepRunner.Wire.Action
import StepRunner.Wire.Record

/-!
This file rewrites the text of every kind of record in the form in which the program writes it.
-/

namespace StepRunner.Wire

/-- A kind of record: the shape of its text, and how a value of that shape is written again. -/
structure Kind where
  shape : Json.Shape
  rewrite : Json → Option Json

/-- A kind whose values may look any way. -/
def anyKind {Record : Type} (read? : Json → Option Record) (write : Record → Json) : Kind :=
  ⟨.any, fun value => (read? value).map write⟩

/-- A kind with fields, next to which others may stand. -/
def fieldsKind {Record : Type} (names : List String) (read? : Json → Option Record)
    (write : Record → Json) : Kind :=
  ⟨.fields names, fun value => (read? value).map write⟩

/-- The kinds of the language of steps. -/
def stepKinds : List (String × Kind) :=
  [("ParsedAction", anyKind Action.ofJson? Action.toJson),
    ("Parsed", fieldsKind ["action", "source"] StepReading.ofJson? StepReading.toJson),
    ("Assertion", fieldsKind ["kind", "value"] Assertion.ofJson? Assertion.toJson),
    ("ParseSource", anyKind StepSource.ofJson? StepSource.toJson)]

/-- The kinds of single words. -/
def wordKinds : List (String × Kind) :=
  [("Browser", anyKind Browser.ofJson? Browser.toJson),
    ("RunStatus", anyKind RunStatus.ofJson? RunStatus.toJson),
    ("StepStatus", anyKind StepStatus.ofJson? StepStatus.toJson),
    ("Variant", anyKind Variant.ofJson? Variant.toJson),
    ("InstallPhase", anyKind InstallPhase.ofJson? InstallPhase.toJson)]

/-- The kinds of rows of the store. -/
def rowKinds : List (String × Kind) :=
  [("Project", fieldsKind ["id", "name", "created_at"] Project.ofJson? Project.toJson),
    ("TestCase", fieldsKind ["id", "project_id", "title", "created_at", "updated_at"]
      TestCase.ofJson? TestCase.toJson),
    ("Step", fieldsKind ["id", "test_case_id", "order", "raw_text", "parsed_action_json"]
      Step.ofJson? Step.toJson),
    ("NewStep", fieldsKind ["raw_text", "parsed_action_json"]
      StepDraft.ofJson? StepDraft.toJson),
    ("Run", fieldsKind
      ["id", "test_case_id", "browser", "status", "started_at", "ended_at", "error"]
      Run.ofJson? Run.toJson),
    ("StepResult", fieldsKind
      ["id", "run_id", "step_id", "order", "status", "error_text", "screenshot_path",
        "started_at", "ended_at"]
      StepResult.ofJson? StepResult.toJson)]

/-- The kinds of what observers are told. -/
def noticeKinds : List (String × Kind) :=
  [("ActiveRunContext", fieldsKind ["run_id", "project_id", "test_case_id"]
      ActiveContext.ofJson? ActiveContext.toJson),
    ("BrowserInstallState", fieldsKind
      ["browser", "installed", "install_in_progress", "last_error"]
      InstallState.ofJson? InstallState.toJson),
    ("RunEvent", anyKind RunEvent.ofJson? RunEvent.toJson),
    ("InstallEvent", fieldsKind ["browser", "phase", "error"]
      InstallEvent.ofJson? InstallEvent.toJson)]

/-- The name of each kind of record. -/
def kinds : List (String × Kind) := stepKinds ++ wordKinds ++ rowKinds ++ noticeKinds

/-- Rewrites the text of a value of a kind, unless the text has no such value. -/
def Kind.canonical? (kind : Kind) (text : String) : Option Json :=
  (kind.shape.read? text).bind kind.rewrite

end StepRunner.Wire
