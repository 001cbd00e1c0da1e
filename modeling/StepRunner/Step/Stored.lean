import StepRunner.Catalog.Record
import StepRunner.Error
import StepRunner.Wire.Action

/-!
This file connects the lines of a script with the steps that the store keeps.
-/

namespace StepRunner

namespace StepDraft

/-- The content to store for a line that has a reading. -/
def ofReading (text : String) (reading : StepReading) : StepDraft :=
  ⟨Text.trimmed text, some reading.action.toJson.text⟩

/-- The content to store for a line, or the complaint about a blank line. -/
def ofReport (report : LineReport) : Except Complaint StepDraft :=
  match report.reading with
  | some reading => .ok (ofReading report.text reading)
  | none => .error (.blankLine report.line)

/-- The contents to store for the lines of a script; the first blank line is refused. -/
def ofLines (lines : List String) : Except Complaint (List StepDraft) :=
  (Script.check lines).mapM ofReport

end StepDraft

namespace Step

/-- The action that was stored with a step, if it can be read. -/
def storedAction? (step : Step) : Option Action :=
  step.storedAction.bind Action.ofText?

/-- The action of a step: the stored one, or else the one that its text reads as. -/
def action? (step : Step) : Option Action :=
  match step.storedAction? with
  | some action => some action
  | none => (StepReading.ofLine? step.rawText).map StepReading.action

end Step

end StepRunner
