import StepRunner.Console.Shorten
import StepRunner.Console.Table
import StepRunner.Time.Calendar
import StepRunner.Wire.Record
import StepRunner.Step.Stored

/-!
This file shows records to a person: as a table, as plain lines or as JSON.
-/

namespace StepRunner.Console

/-- How records are shown. -/
inductive Format where
  | table
  | json
  | plain
  deriving DecidableEq, Repr, Inhabited

namespace Format

/-- The name of a format. -/
def name : Format → String
  | table => "table"
  | json => "json"
  | plain => "plain"

/-- The format with the given name. -/
def ofName? (text : String) : Option Format :=
  [table, json, plain].find? fun format => format.name = text

end Format

/-- A record for a person: its fields with their titles, and its JSON form. -/
structure Item where
  fields : List (String × String)
  json : Json
  deriving Repr

namespace Item

/-- The fields of an item on lines of their own. -/
def plainLines (item : Item) : List String :=
  item.fields.map fun (title, value) => title ++ ": " ++ value

end Item

/-- The lines of items in plain text, with a mark between each two of them. -/
def plainList (items : List Item) : List String :=
  List.intercalate ["---"] (items.map Item.plainLines)

/-- The lines of items in a table; all of them have the fields of the first one. -/
def itemTable : List Item → List String
  | [] => []
  | first :: rest =>
    tableLines (first.fields.map Prod.fst)
      ((first :: rest).map fun item => item.fields.map Prod.snd)

/-- The lines that show one item. -/
def showItem (format : Format) (item : Item) : List String :=
  match format with
  | .table => itemTable [item]
  | .json => [item.json.prettyText]
  | .plain => item.plainLines

/-- The lines that show a list of items. -/
def showList (format : Format) (items : List Item) : List String :=
  match format with
  | .json => [(Json.arr (items.map Item.json)).prettyText]
  | .table => if items.isEmpty then ["No items found."] else itemTable items
  | .plain => if items.isEmpty then ["No items found."] else plainList items

/-- The longest error that fits into a cell. -/
def errorLimit : Nat := 48

/-- An error cut to the size of a cell, or nothing. -/
def errorCell (error : Option String) : String :=
  (error.map fun text => shorten text errorLimit).getD ""

/-- The answer to a question. -/
def yesNo (value : Bool) : String := if value then "yes" else "no"

namespace Item

/-- A project with the number of its test cases. -/
def ofProject (project : Project) (testCases : Nat) : Item :=
  let created := Calendar.text project.createdAt
  { fields := [("ID", project.id), ("Name", project.name), ("Test cases", toString testCases),
      ("Created", created)]
    json := .obj [("id", .str project.id), ("name", .str project.name),
      ("test_cases", .whole testCases), ("created", .str created)] }

/-- A test case with the numbers of its steps and its runs. -/
def ofTestCase (testCase : TestCase) (steps runs : Nat) : Item :=
  let updated := Calendar.text testCase.updatedAt
  { fields := [("ID", testCase.id), ("Title", testCase.title), ("Steps", toString steps),
      ("Runs", toString runs), ("Updated", updated)]
    json := .obj [("id", .str testCase.id), ("title", .str testCase.title),
      ("steps", .whole steps), ("runs", .whole runs), ("updated", .str updated)] }

/-- A step with the action that is stored with it. -/
def ofStep (step : Step) : Item :=
  let action := (step.storedAction?.map Action.label).getD "-"
  { fields := [("#", toString step.order), ("Step", step.rawText), ("Action", action)]
    json := .obj [("order", .whole step.order), ("text", .str step.rawText),
      ("action", .str action)] }

/-- A run. -/
def ofRun (run : Run) : Item :=
  let started := Calendar.text run.startedAt
  let duration := Calendar.elapsed run.startedAt run.endedAt
  { fields := [("ID", run.id), ("Browser", run.browser.name), ("Status", run.status.name),
      ("Started", started), ("Duration", duration), ("Error", errorCell run.error)]
    json := .obj [("id", .str run.id), ("browser", .str run.browser.name),
      ("status", run.status.toJson), ("started", .str started), ("duration", .str duration),
      ("error", .ofOption run.error)] }

/-- The result of a step. -/
def ofResult (result : StepResult) : Item :=
  let duration := Calendar.elapsed result.startedAt result.endedAt
  { fields := [("#", toString result.order), ("Status", result.status.name),
      ("Duration", duration), ("Error", errorCell result.errorText),
      ("Screenshot", result.screenshotPath.getD "-")]
    json := .obj [("order", .whole result.order), ("status", result.status.toJson),
      ("duration", .str duration), ("error", .ofOption result.errorText),
      ("screenshot", .ofOption result.screenshotPath)] }

/-- What is known about a browser engine. -/
def ofInstall (state : InstallState) : Item :=
  { fields := [("Browser", state.browser.name), ("Installed", yesNo state.installed),
      ("Installing", yesNo state.inProgress), ("Last error", state.lastError.getD "")]
    json := state.toJson }

/-- The word for how a line was read. -/
def sourceWord (report : LineReport) : String :=
  match report.reading with
  | some reading => reading.source.name
  | none => "error"

/-- What became of a line of a script. -/
def ofLine (report : LineReport) : Item :=
  let action := report.reading.map fun reading => reading.action.label
  { fields := [("Line", toString report.line), ("Step", report.text),
      ("Match", sourceWord report), ("Action", (action <|> report.error?).getD "")]
    json := .obj [("line", .whole report.line), ("text", .str report.text),
      ("source", (report.reading.map fun reading => reading.source.toJson).getD .null),
      ("action", .ofOption action), ("error", .ofOption report.error?)] }

end Item

end StepRunner.Console
