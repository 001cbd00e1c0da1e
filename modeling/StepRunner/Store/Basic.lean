import StepRunner.Store.Tables
import StepRunner.Text.Digit

/-!
This file defines the operations of the store.
Each of them either fails and changes no table, or changes the tables in one piece.
-/

namespace StepRunner

/-- The store: its tables, and how many ids it has handed out. -/
structure Store where
  tables : Tables := {}
  minted : Nat := 0
  deriving DecidableEq, Repr, Inhabited

namespace Store

/-- The id with a number, in the shape of a random identifier. -/
def idOf (number : Nat) : String :=
  let digits := Nat.toDigits 16 number
  String.ofList <| "6b0f2d1e-94c7-4a35-b8e1-".toList ++
    List.replicate (12 - digits.length) '0' ++ digits

/-- Hands out an id that was not handed out before. -/
def mint (store : Store) : String × Store :=
  (idOf store.minted, { store with minted := store.minted + 1 })

/-- Replaces the tables. -/
def withTables (store : Store) (tables : Tables) : Store :=
  { store with tables }

/-- A change of the tables as a change of the store. -/
def change (store : Store) (tables : Except StoreError Tables) : Except StoreError Store :=
  tables.map store.withTables

/-- Creates a project with a name that is not blank. -/
def createProject (store : Store) (now : Int) (name : String) :
    Except StoreError (Project × Store) := do
  let name := Text.trimmed name
  if name.isEmpty then throw (.validation .blankProjectName)
  let (id, store) := store.mint
  let project : Project := ⟨id, name, now⟩
  let store ← store.change (store.tables.addProject project)
  return (project, store)

/-- The steps of a test case from their content, numbered from one, with the ids that follow. -/
def draftSteps (store : Store) (testCaseId : String) (drafts : List StepDraft) : List Step :=
  drafts.zipIdx.map fun (draft, index) =>
    ⟨idOf (store.minted + index), testCaseId, index + 1, draft.rawText, draft.storedAction⟩

/-- Adds the steps of a test case. -/
def insertSteps (store : Store) (testCaseId : String) (drafts : List StepDraft) :
    Except StoreError (List Step × Store) := do
  let steps := store.draftSteps testCaseId drafts
  let tables ← store.tables.addSteps steps
  return (steps, { tables, minted := store.minted + drafts.length })

/-- Creates a test case together with its steps. -/
def createTestCase (store : Store) (now : Int) (projectId title : String)
    (drafts : List StepDraft) : Except StoreError ((TestCase × List Step) × Store) := do
  let title := Text.trimmed title
  if title.isEmpty then throw (.validation .blankTitle)
  if (store.tables.project? projectId).isNone then throw (.notFound .project projectId)
  let (id, store) := store.mint
  let testCase : TestCase := ⟨id, projectId, title, now, now⟩
  let store ← store.change (store.tables.addTestCase testCase)
  let (steps, store) ← store.insertSteps id drafts
  return ((testCase, steps), store)

/-- Replaces all steps of a test case. -/
def replaceSteps (store : Store) (now : Int) (testCaseId : String) (drafts : List StepDraft) :
    Except StoreError (List Step × Store) := do
  if (store.tables.testCase? testCaseId).isNone then throw (.notFound .testCase testCaseId)
  let testCases := store.tables.testCases.map fun testCase =>
    if testCase.id = testCaseId then { testCase with updatedAt := now } else testCase
  let steps := store.tables.steps.filter fun step => step.testCaseId ≠ testCaseId
  (store.withTables { store.tables with testCases, steps }).insertSteps testCaseId drafts

/-- Deletes a project, its test cases and their runs; tells whether there was one. -/
def deleteProject (store : Store) (id : String) : Bool × Store :=
  ((store.tables.project? id).isSome, store.withTables (store.tables.removeProject id))

/-- Deletes a test case and its runs; tells whether there was one. -/
def deleteTestCase (store : Store) (id : String) : Bool × Store :=
  ((store.tables.testCase? id).isSome,
    store.withTables (store.tables.removeTestCases fun testCase => testCase.id = id))

/-- Stores a run. -/
def insertRun (store : Store) (run : Run) : Except StoreError Store :=
  store.change (store.tables.addRun run)

/-- A run moved to another state: a start stamps its start, an end stamps its end. -/
def moved (run : Run) (now : Int) (next : RunStatus) (error : Option String) : Run :=
  { run with
    status := next
    startedAt := if next = .running then now else run.startedAt
    endedAt := if next.isTerminal then some now else run.endedAt
    error := error <|> run.error }

/-- The first half of a move: reads the run and checks that it may go to the next state. -/
def checkMove (store : Store) (now : Int) (id : String) (next : RunStatus)
    (error : Option String) : Except StoreError Run :=
  match store.tables.run? id with
  | none => .error (.notFound .run id)
  | some run =>
    if run.status.canMoveTo next then .ok (moved run now next error)
    else .error (.invalidTransition run.status.name next.name)

/-- The second half of a move: writes the state, the times and the error of the run. -/
def writeMove (store : Store) (run : Run) : Store :=
  store.withTables <| store.tables.updateRun run.id fun row =>
    { row with
      status := run.status
      startedAt := run.startedAt
      endedAt := run.endedAt
      error := run.error }

/-- Moves a run to another state along an edge of the life of a run. -/
def moveRun (store : Store) (now : Int) (id : String) (next : RunStatus)
    (error : Option String) : Except StoreError (Run × Store) := do
  let run ← store.checkMove now id next error
  return (run, store.writeMove run)

/-- Deletes the step results of a run, and the run itself while it is queued. -/
def deleteQueuedRun (store : Store) (id : String) : Bool × Store :=
  let tables :=
    { store.tables with
      results := store.tables.results.filter fun result => result.runId ≠ id }
  let queued := fun (run : Run) => decide (run.id = id ∧ run.status = .queued)
  (tables.runs.any queued, store.withTables (tables.removeRuns queued))

/-- The error of a run that a crash ended, and of its steps. -/
def interruptedMessage : String := "Run was interrupted"

/-- The first half of a recovery: fails every pending step result. -/
def recoverResults (store : Store) (now : Int) : Store :=
  store.withTables <| store.tables.updateResults (fun result => result.status = .pending)
    fun result =>
      { result with status := .failed, errorText := some interruptedMessage, endedAt := some now }

/-- A run that has not ended. -/
def isOpen (run : Run) : Bool :=
  run.status = .queued || run.status = .running

/-- The second half of a recovery: fails every run that has not ended. -/
def recoverRuns (store : Store) (now : Int) : Store :=
  store.withTables
    { store.tables with
      runs := store.tables.runs.map fun run =>
        if isOpen run then
          { run with status := .failed, endedAt := some now, error := some interruptedMessage }
        else run }

/-- Fails the runs that a crash left open; gives their number. -/
def recover (store : Store) (now : Int) : Nat × Store :=
  ((store.tables.runs.filter isOpen).length, (store.recoverResults now).recoverRuns now)

/-- Stores a step result. -/
def insertResult (store : Store) (result : StepResult) : Except StoreError Store :=
  store.change (store.tables.addResult result)

/-- A pending step result with an id. -/
def isPending (id : String) (result : StepResult) : Bool :=
  result.id = id && result.status = .pending

/-- Records the outcome of a step whose result is pending. -/
def finishResult (store : Store) (outcome : StepResult) : Except StoreError Store :=
  if store.tables.results.any (isPending outcome.id) then
    .ok <| store.withTables <| store.tables.updateResults (isPending outcome.id) fun result =>
      { result with
        status := outcome.status
        errorText := outcome.errorText
        screenshotPath := outcome.screenshotPath
        endedAt := outcome.endedAt }
  else .error (.invalidTransition "terminal" outcome.status.name)

/-- Fails the pending step results of a run; gives their number. -/
def failPending (store : Store) (now : Int) (runId error : String) : Nat × Store :=
  let pending := fun (result : StepResult) =>
    decide (result.runId = runId ∧ result.status = .pending)
  ((store.tables.results.filter pending).length,
    store.withTables <| store.tables.updateResults pending fun result =>
      { result with status := .failed, errorText := some error, endedAt := some now })

end Store

end StepRunner
