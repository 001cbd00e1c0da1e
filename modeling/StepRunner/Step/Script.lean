import StepRunner.Step.Reader

/-!
This file reads scripts: lists of step lines, and files with one step a line.
-/

namespace StepRunner

/-- What became of one line of a script. -/
structure LineReport where
  /-- Counts the lines from one. -/
  line : Nat
  text : String
  reading : Option StepReading
  deriving DecidableEq, Repr

namespace LineReport

/-- The complaint about a line that has no reading. -/
def error? (report : LineReport) : Option String :=
  match report.reading with
  | some _ => none
  | none => some StepReading.blankMessage

end LineReport

namespace Script

/-- Reads every line of a script on its own. -/
def check (lines : List String) : List LineReport :=
  lines.zipIdx.map fun (text, index) => ⟨index + 1, text, StepReading.ofLine? text⟩

/-- Every line of a script has a reading. -/
def isValid (reports : List LineReport) : Bool :=
  reports.all fun report => report.reading.isSome

/-- A line of a script file is kept unless it is blank or a comment. -/
def isKept (line : List Char) : Bool :=
  match line.dropWhile Text.isBlank with
  | [] => false
  | first :: _ => first != '#'

/-- The step lines of a script file. -/
def ofFile (content : String) : List String :=
  ((Text.lines content.toList).filter isKept).map String.ofList

/-- The given steps, followed by the step lines of a script file. -/
def collect (steps : List String) (content : Option String) : List String :=
  steps ++ (content.map ofFile).getD []

end Script

end StepRunner
