import StepRunner.Json.Record
import StepRunner.Step.Assertion
import StepRunner.Step.Script

/-!
This file gives actions, checks and readings of steps their JSON form and reads it back.
Waits are written as whole milliseconds.
-/

namespace StepRunner

open Json

namespace Action

/-- A wait as a member of an object; an absent wait is left out. -/
def waitMember (name : String) : Option Duration → List (String × Json)
  | some span => [(name, .whole span.wireMilliseconds)]
  | none => []

/-- The JSON form of an action; its kind comes first. -/
def toJson : Action → Json
  | enter target value =>
    .obj [("action", .str "enter"), ("target", .str target), ("value", .str value)]
  | click target waitAfter =>
    .obj ([("action", .str "click"), ("target", .str target)] ++ waitMember "wait_after" waitAfter)
  | goto path => .obj [("action", .str "goto"), ("path", .str path)]
  | expect assertion within =>
    .obj ([("action", .str "expect"), ("assertion", .str assertion)] ++ waitMember "within" within)

/-- Reads a wait in milliseconds; null is no wait. -/
def wait? (value : Json) : Option (Option Duration) :=
  (nullable? nat64? value).map (·.map Duration.ofMilliseconds)

/-- Reads an action. -/
def ofJson? (value : Json) : Option Action := do
  let (kind, content) ← tagged? "action" value
  match kind with
  | "enter" =>
    let fields ← Fields.of? ["target", "value"] content
    let target ← fields.required? "target" string?
    let value ← fields.required? "value" string?
    return enter target value
  | "click" =>
    let fields ← Fields.of? ["target", "wait_after"] content
    let target ← fields.required? "target" string?
    let waitAfter ← fields.defaulted? "wait_after" wait? none
    return click target waitAfter
  | "goto" =>
    let fields ← Fields.of? ["path"] content
    let path ← fields.required? "path" string?
    return goto path
  | "expect" =>
    let fields ← Fields.of? ["assertion", "within"] content
    let assertion ← fields.required? "assertion" string?
    let within ← fields.defaulted? "within" wait? none
    return expect assertion within
  | _ => none

/-- Reads an action from JSON text. -/
def ofText? (text : String) : Option Action :=
  (Json.read? text).bind ofJson?

end Action

namespace Assertion

/-- The JSON form of a check. -/
def toJson (assertion : Assertion) : Json :=
  .obj [("kind", .str assertion.kind), ("value", .str assertion.value)]

/-- The check of the given kind. -/
def ofKind? (kind value : String) : Option Assertion :=
  [urlContains value, titleIs value, visible value, hidden value, textPresent value].find?
    fun assertion => assertion.kind = kind

/-- Reads a check. -/
def ofJson? (value : Json) : Option Assertion := do
  let fields ← Fields.of? ["kind", "value"] value
  let kind ← fields.required? "kind" name?
  let text ← fields.required? "value" string?
  ofKind? kind text

end Assertion

namespace StepSource

/-- The name of a source. -/
def name : StepSource → String
  | strict => "strict"
  | fallback => "fallback"

/-- The source with the given name. -/
def ofName? (text : String) : Option StepSource :=
  [strict, fallback].find? fun source => source.name = text

/-- A source is written as its name. -/
def toJson (source : StepSource) : Json := .str source.name

/-- Reads the name of a source. -/
def ofJson? (value : Json) : Option StepSource := (name? value).bind ofName?

end StepSource

namespace StepReading

/-- The JSON form of a reading. -/
def toJson (reading : StepReading) : Json :=
  .obj [("action", reading.action.toJson), ("source", reading.source.toJson)]

/-- Reads a reading. -/
def ofJson? (value : Json) : Option StepReading := do
  let fields ← Fields.of? ["action", "source"] value
  let action ← fields.required? "action" Action.ofJson?
  let source ← fields.required? "source" StepSource.ofJson?
  return ⟨action, source⟩

end StepReading

namespace LineReport

/-- The JSON form of a report on a line. -/
def toJson (report : LineReport) : Json :=
  .obj [("line", .whole report.line), ("text", .str report.text),
    ("parsed", match report.reading with
      | some reading => reading.toJson
      | none => .null),
    ("error", .ofOption report.error?)]

end LineReport

end StepRunner
