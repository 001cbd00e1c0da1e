import StepRunner.Step.Action

/-!
This file reads a line of step text as an action.
Four strict shapes are tried in order; a line of any other shape is an expectation as a whole.
-/

namespace StepRunner

/-- A line matches a strict shape, or it falls back to an expectation. -/
inductive StepSource where
  | strict
  | fallback
  deriving DecidableEq, Repr

/-- An action together with how its line was read. -/
structure StepReading where
  action : Action
  source : StepSource
  deriving DecidableEq, Repr

namespace StepReading

/-- The longest wait that a step may ask for. -/
def longestWait : Duration := .ofSeconds 3600

/-- Text up to the next quote, and the text after that quote. -/
def quoted? (text : List Char) : Option (List Char × List Char) :=
  match text.dropWhile (· != '"') with
  | '"' :: rest => some (text.takeWhile (· != '"'), rest)
  | _ => none

/-- The digits of a written number of seconds, with an optional fraction. -/
structure WrittenSeconds where
  whole : List Char
  fraction : Option (List Char)
  deriving DecidableEq, Repr

/-- Reads digits, optionally followed by a point and more digits. -/
def WrittenSeconds.ofChars? (text : List Char) : Option WrittenSeconds :=
  let (whole, rest) := Text.spanWhile Text.isDecimalDigit text
  if whole.isEmpty then none
  else
    match rest with
    | [] => some ⟨whole, none⟩
    | '.' :: fraction =>
      if !fraction.isEmpty && fraction.all Text.isDecimalDigit then some ⟨whole, some fraction⟩
      else none
    | _ => none

/-- The written span when its digits are ASCII digits and it is not too long. -/
def WrittenSeconds.wait? (written : WrittenSeconds) : Option Duration :=
  let fraction := written.fraction.getD []
  if written.whole.all Char.isDigit && fraction.all Char.isDigit then
    let span := Duration.ofDecimalSeconds written.whole fraction
    if span.nanoseconds ≤ longestWait.nanoseconds then some span else none
  else none

/-- Splits a text into what comes before a keyword and the seconds written after it. -/
def splitWait? (keyword text : List Char) : Option (List Char × WrittenSeconds) := do
  let timed ← Text.dropSuffix? ['s'] text
  let number := (timed.reverse.takeWhile fun char =>
    Text.isDecimalDigit char || char == '.').reverse
  let written ← WrittenSeconds.ofChars? number
  let lead ← Text.dropSuffix? (keyword ++ number) timed
  return (lead, written)

/-- Reads `Enter "value" in "field" field`. -/
def enter? (line : List Char) : Option Action := do
  let rest ← Text.dropPrefix? "Enter \"".toList line
  let (value, rest) ← quoted? rest
  let rest ← Text.dropPrefix? " in \"".toList rest
  let (target, rest) ← quoted? rest
  if target.isEmpty || rest != " field".toList then none
  else some (.enter (String.ofList target) (String.ofList value))

/-- Reads `Click "text"` with an optional ` after 2s`. -/
def click? (line : List Char) : Option Action := do
  let rest ← Text.dropPrefix? "Click \"".toList line
  let (target, rest) ← quoted? rest
  if target.isEmpty then none
  else if rest.isEmpty then some (.click (String.ofList target) none)
  else
    let (lead, written) ← splitWait? " after ".toList rest
    let wait ← written.wait?
    if lead.isEmpty then some (.click (String.ofList target) (some wait)) else none

/-- Reads `Go to "path"`. -/
def goto? (line : List Char) : Option Action := do
  let rest ← Text.dropPrefix? "Go to \"".toList line
  let (path, rest) ← quoted? rest
  if path.isEmpty || !rest.isEmpty then none else some (.goto (String.ofList path))

/-- An expectation of a text that is not blank. -/
def expectation? (assertion : List Char) (within : Option Duration) : Option Action :=
  let assertion := Text.trim assertion
  if assertion.isEmpty then none else some (.expect (String.ofList assertion) within)

/-- Reads `Expect assertion` on one line, with an optional ` within 2s`. -/
def expect? (line : List Char) : Option Action := do
  let rest ← Text.dropPrefix? "Expect ".toList line
  if rest.isEmpty || rest.contains '\n' then none
  else
    match splitWait? " within ".toList rest with
    | some (lead, written) =>
      if lead.isEmpty then expectation? rest none
      else
        let wait ← written.wait?
        expectation? lead (some wait)
    | none => expectation? rest none

/-- The action of a line that has one of the strict shapes. -/
def strict? (line : List Char) : Option Action :=
  enter? line <|> click? line <|> goto? line <|> expect? line

/-- Reads a line of step text; a blank line has no reading. -/
def ofChars? (text : List Char) : Option StepReading :=
  let line := Text.trim text
  if line.isEmpty then none
  else
    match strict? line with
    | some action => some ⟨action, .strict⟩
    | none => some ⟨.expect (String.ofList line) none, .fallback⟩

/-- Reads a line of step text; a blank line has no reading. -/
def ofLine? (text : String) : Option StepReading :=
  ofChars? text.toList

/-- The message for a blank line. -/
def blankMessage : String := "Step cannot be empty."

end StepReading

end StepRunner
