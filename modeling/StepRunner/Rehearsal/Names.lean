import StepRunner.Json.Basic
import StepRunner.Store.Tables
import StepRunner.Time.Calendar

/-!
This file names the rows of the store, so that a rehearsal can speak of rows whose ids are random.
Each kind of row has a letter, and the rows of a kind are counted as they are first seen.
-/

namespace StepRunner.Rehearsal

/-- The names that rows have been given, and how many rows of each kind were seen. -/
structure Names where
  given : List (String × List Char) := []
  projects : Nat := 0
  testCases : Nat := 0
  steps : Nat := 0
  runs : Nat := 0
  deriving DecidableEq, Repr, Inhabited

/-- A small hexadecimal digit. -/
def isHexDigit (char : Char) : Bool :=
  char.isDigit || ('a' ≤ char && char ≤ 'f')

/-- The shape of a random identifier: what each of its characters may be. -/
def identifierShape : List (Char → Bool) :=
  let hex (count : Nat) := List.replicate count isHexDigit
  let hyphen := [fun char => char == '-']
  hex 8 ++ hyphen ++ hex 4 ++ hyphen ++ [fun char => char == '4'] ++ hex 3 ++ hyphen ++
    [fun char => ['8', '9', 'a', 'b'].contains char] ++ hex 3 ++ hyphen ++ hex 12

/-- A text starts in a given shape. -/
def startsInShape : List (Char → Bool) → List Char → Bool
  | [], _ => true
  | _ :: _, [] => false
  | test :: shape, char :: rest => test char && startsInShape shape rest

/-- The random identifier at the start of a text. -/
def identifier? (text : List Char) : Option (List Char) :=
  if startsInShape identifierShape text then some (text.take 36) else none

/-- An id is random when it has the shape of a random identifier. -/
def isRandomId (id : String) : Bool :=
  id.length = 36 && startsInShape identifierShape id.toList

namespace Names

/-- The name of an id. -/
def nameOf? (names : Names) (id : String) : Option (List Char) :=
  (names.given.find? fun entry => entry.1 = id).map Prod.snd

/-- The id with a name. -/
def idOf? (names : Names) (name : List Char) : Option String :=
  (names.given.find? fun entry => entry.2 = name).map Prod.fst

/-- An id that needs a name. -/
def isNew (names : Names) (id : String) : Bool :=
  isRandomId id && (names.nameOf? id).isNone

/-- Gives an id a letter with a number. -/
def add (names : Names) (id : String) (letter : Char) (number : Nat) : Names :=
  { names with given := (id, letter :: Text.decimalDigits number) :: names.given }

/-- Sees a step. -/
def seeStep (names : Names) (step : Step) : Names :=
  if names.isNew step.id then
    { names with steps := names.steps + 1 }.add step.id 's' (names.steps + 1)
  else names

/-- Sees a run. -/
def seeRun (names : Names) (run : Run) : Names :=
  if names.isNew run.id then
    { names with runs := names.runs + 1 }.add run.id 'r' (names.runs + 1)
  else names

/-- Sees a test case with its steps in order and its runs from the oldest on. -/
def seeTestCase (tables : Tables) (names : Names) (testCase : TestCase) : Names :=
  let named :=
    if names.isNew testCase.id then
      { names with testCases := names.testCases + 1 }.add testCase.id 't' (names.testCases + 1)
    else names
  let named := (tables.listSteps testCase.id).foldl seeStep named
  (tables.listRuns testCase.id).reverse.foldl seeRun named

/-- Sees a project with its test cases. -/
def seeProject (tables : Tables) (names : Names) (project : Project) : Names :=
  let named :=
    if names.isNew project.id then
      { names with projects := names.projects + 1 }.add project.id 'p' (names.projects + 1)
    else names
  (tables.listTestCases project.id).foldl (seeTestCase tables) named

/-- Sees all rows of the store. -/
def see (names : Names) (tables : Tables) : Names :=
  tables.listProjects.foldl (seeProject tables) names

end Names

/--
Rewrites a text from its start to its end.
A rule gives what to write and how many characters of the text it stands for.
-/
def rewriteFrom (rule : List Char → Option (List Char × Nat)) : Nat → List Char → List Char
  | _, [] => []
  | skipped + 1, _ :: rest => rewriteFrom rule skipped rest
  | 0, char :: rest =>
    match rule (char :: rest) with
    | some (written, length) => written ++ rewriteFrom rule (length - 1) rest
    | none => char :: rewriteFrom rule 0 rest

/-- Rewrites a whole text. -/
def rewrite (rule : List Char → Option (List Char × Nat)) (text : String) : String :=
  String.ofList (rewriteFrom rule 0 text.toList)

/-- A name has the letter of a kind and a number. -/
def isName : List Char → Bool
  | letter :: digits =>
    ['p', 't', 's', 'r'].contains letter && !digits.isEmpty && digits.all Char.isDigit
  | [] => false

/-- What hides behind the names in a rehearsal: ids, a directory and the present time. -/
structure Cover where
  names : Names
  directory : String
  /-- The present time in milliseconds. -/
  instant : String
  /-- The present time as a date. -/
  date : String

namespace Cover

/-- The cover at a time. -/
def ofTime (names : Names) (directory : String) (now : Int) : Cover :=
  ⟨names, directory, toString now, Calendar.text now⟩

/-- Replaces a name in pointed brackets; the name of no row loses its brackets. -/
def reveal? (cover : Cover) (text : List Char) : Option (List Char × Nat) :=
  match text with
  | '<' :: rest =>
    let name := rest.takeWhile (· != '>')
    if rest.length = name.length then none
    else if name = "base".toList then some (cover.directory.toList, 6)
    else if isName name then
      some (((cover.names.idOf? name).map String.toList).getD name, name.length + 2)
    else none
  | _ => none

/-- Replaces the names in a text by what they stand for. -/
def reveal (cover : Cover) (text : String) : String :=
  rewrite cover.reveal? text

/-- A text with a mark in its place, when another text starts with it. -/
def markFor? (secret mark : String) (text : List Char) : Option (List Char × Nat) :=
  match Text.dropPrefix? secret.toList text with
  | some _ => some (mark.toList, secret.length)
  | none => none

/-- The name or the mark of a random identifier. -/
def identifierMark (cover : Cover) (id : List Char) : List Char :=
  match cover.names.nameOf? (String.ofList id) with
  | some name => '<' :: name ++ ['>']
  | none => "<uuid>".toList

/-- Replaces an id, the directory or the present time by its name. -/
def conceal? (cover : Cover) (text : List Char) : Option (List Char × Nat) :=
  match identifier? text with
  | some id => some (cover.identifierMark id, id.length)
  | none =>
    markFor? cover.directory "<base>" text <|>
      markFor? cover.instant "<now>" text <|> markFor? cover.date "<time>" text

/-- Replaces what hides behind names by the names. -/
def conceal (cover : Cover) (text : String) : String :=
  rewrite cover.conceal? text

/-- Replaces the present time by its mark. -/
def concealNumber (cover : Cover) (value : Int) : Json :=
  if toString value = cover.instant then .str "<now>" else .whole value

/-- Replaces what hides behind names, and the present time, everywhere in a JSON value. -/
def concealJson (cover : Cover) (value : Json) : Json :=
  value.mapStrings cover.conceal cover.concealNumber

end Cover

/-- A text starts with seconds below ten, written with one decimal place. -/
def startsWithSeconds : List Char → Bool
  | whole :: '.' :: tenth :: 's' :: _ => whole.isDigit && tenth.isDigit
  | _ => false

/-- Seconds below ten after a lead stand for no time at all. -/
def elapsedAfter? (lead : String) (text : List Char) : Option (List Char × Nat) :=
  match Text.dropPrefix? lead.toList text with
  | some rest =>
    if startsWithSeconds rest then some ((lead ++ "0.0s").toList, lead.length + 4) else none
  | none => none

/-- Replaces the short elapsed times in the output of a command. -/
def concealElapsed (text : String) : String :=
  rewrite (fun text => elapsedAfter? "┆ " text <|> elapsedAfter? "Duration: " text) text

end StepRunner.Rehearsal
