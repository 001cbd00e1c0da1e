import StepRunner.Json.Reader
import StepRunner.Store.Basic
import StepRunner.Wire.Record

/-!
This file writes a store as a text, so that it can be kept in a file, and reads it again.
-/

namespace StepRunner.Store

/-- The JSON form of a store. -/
def toJson (store : Store) : Json :=
  .obj [("projects", .arr (store.tables.projects.map Project.toJson)),
    ("test_cases", .arr (store.tables.testCases.map TestCase.toJson)),
    ("steps", .arr (store.tables.steps.map Step.toJson)),
    ("runs", .arr (store.tables.runs.map Run.toJson)),
    ("results", .arr (store.tables.results.map StepResult.toJson)),
    ("minted", .whole store.minted)]

/-- Reads the JSON form of a store. -/
def ofJson? (value : Json) : Option Store := do
  let fields ← Json.Fields.of?
    ["projects", "test_cases", "steps", "runs", "results", "minted"] value
  let projects ← fields.required? "projects" (Json.list? Project.ofJson?)
  let testCases ← fields.required? "test_cases" (Json.list? TestCase.ofJson?)
  let steps ← fields.required? "steps" (Json.list? Step.ofJson?)
  let runs ← fields.required? "runs" (Json.list? Run.ofJson?)
  let results ← fields.required? "results" (Json.list? StepResult.ofJson?)
  let minted ← fields.required? "minted" Json.nat64?
  return ⟨{ projects, testCases, steps, runs, results }, minted⟩

/-- The text of a store. -/
def text (store : Store) : String := store.toJson.text

/-- Reads the text of a store; an empty text is a store without rows. -/
def ofText? (text : String) : Option Store :=
  if text.isEmpty then some {} else (Json.read? text).bind ofJson?

end StepRunner.Store
