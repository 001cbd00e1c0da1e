import StepRunner.Console.Command
import StepRunner.Console.Transcript
import StepRunner.Engine.Activity
import StepRunner.Json.Sorted
import StepRunner.Wire.Report

/-!
This file carries out the commands of the program.
-/

namespace StepRunner.Console

/-- The steps given as words, followed by the lines of a script file. -/
def scriptLines (steps : List String) (file : Option String) :
    Activity (Except (List String) (List String)) :=
  match file with
  | none => .done (.ok steps)
  | some path =>
    let headline := "Failed to read script " ++ path
    .readFile path fun content =>
      match content with
      | .error error => .done (.error [headline, error.message])
      | .ok bytes =>
        match Utf8.decode? bytes with
        | none => .done (.error [headline, IoError.notText.message])
        | some text => .done (.ok (Script.collect steps (some text)))

/-- Prints the answer of the engine to a question. -/
def printView {α : Type} (view : Engine → Except EngineError α) (lines : α → List String) :
    Activity Transcript :=
  Activity.look fun engine =>
    match view engine with
    | .ok value => .printed (lines value)
    | .error error => .refused error

/-- Changes the engine and prints the outcome. -/
def printChange {α : Type} (step : Int → Engine → Except EngineError α × Engine)
    (lines : α → List String) : Activity Transcript :=
  Activity.perform fun now engine =>
    match step now engine with
    | (.ok value, engine) => (.printed (lines value), engine)
    | (.error error, engine) => (.refused error, engine)

/-- The lines that show a test case with its steps. -/
def showTestCase (format : Format) (testCase : TestCase) (steps : List Step) : List String :=
  let items := steps.map Item.ofStep
  match format with
  | .json =>
    [(Json.obj [("test_case", testCase.toJson),
      ("steps", .arr (items.map Item.json))]).sorted.prettyText]
  | format => (testCase.title ++ " (" ++ testCase.id ++ ")") :: showList format items

/-- A test case with the numbers of its steps and its runs. -/
def countedTestCase (engine : Engine) (testCase : TestCase) : Item :=
  .ofTestCase testCase (engine.store.tables.listSteps testCase.id).length
    (engine.store.tables.countRuns testCase.id)

/-- Carries out a check of steps. -/
def performParse (format : Format) (steps : List String) (file : Option String) :
    Activity Transcript := do
  match ← scriptLines steps file with
  | .error causes => return .broken causes
  | .ok lines =>
    let reports := Script.check lines
    return { out := showList format (reports.map Item.ofLine),
             ending := .ok (Script.isValid reports) }

/-- Carries out the creation of a project. -/
def performAddProject (format : Format) (name : String) : Activity Transcript :=
  printChange (fun now engine => engine.createProject now name) fun project =>
    successLine ("Project " ++ quoted project.name ++ " created") ::
      showItem format (.ofProject project 0)

/-- Shows all projects. -/
def performListProjects (format : Format) : Activity Transcript :=
  printView (fun engine => .ok <| engine.projects.map fun project =>
    Item.ofProject project (engine.store.tables.listTestCases project.id).length)
    (showList format)

/-- Carries out the deletion of a project. -/
def performDeleteProject (id : String) : Activity Transcript :=
  printChange (fun _ engine => engine.deleteProject id) fun _ =>
    [successLine ("Project " ++ quoted id ++ " deleted")]

/-- Carries out the creation of a test case. -/
def performAddTest (format : Format) (projectId title : String) (steps : List String)
    (file : Option String) : Activity Transcript := do
  match ← scriptLines steps file with
  | .error causes => return .broken causes
  | .ok lines =>
    printChange (fun now engine => engine.createTestCase now projectId title lines)
      fun (testCase, steps) =>
        successLine ("Test case " ++ quoted testCase.title ++ " created with " ++
          toString steps.length ++ " step(s)") :: showTestCase format testCase steps

/-- Shows the test cases of a project. -/
def performListTests (format : Format) (projectId : String) : Activity Transcript :=
  printView (fun engine => do
    let testCases ← engine.testCases projectId
    return testCases.map (countedTestCase engine)) (showList format)

/-- Shows a test case. -/
def performShowTest (format : Format) (id : String) : Activity Transcript :=
  printView (fun engine => do
    let testCase ← engine.testCase id
    let steps ← engine.steps id
    return (testCase, steps)) fun (testCase, steps) => showTestCase format testCase steps

/-- Carries out the replacement of the steps of a test case. -/
def performEditTest (format : Format) (id : String) (steps : List String)
    (file : Option String) : Activity Transcript := do
  match ← scriptLines steps file with
  | .error causes => return .broken causes
  | .ok lines =>
    match ← Activity.perform fun now engine => engine.updateSteps now id lines with
    | .error error => return .refused error
    | .ok steps =>
      printView (fun engine => do
        let testCase ← engine.testCase id
        return (testCase, countedTestCase engine testCase)) fun (testCase, item) =>
          successLine ("Test case " ++ quoted testCase.title ++ " now has " ++
            toString steps.length ++ " step(s)") :: showItem format item

/-- Carries out the deletion of a test case. -/
def performDeleteTest (id : String) : Activity Transcript :=
  printChange (fun _ engine => engine.deleteTestCase id) fun _ =>
    [successLine ("Test case " ++ quoted id ++ " deleted")]

/-- The mark for the outcome of a step. -/
def statusMark : StepStatus → String
  | .passed => "✓"
  | .failed => "✗"
  | .cancelled => "⊘"
  | .pending => "…"

/-- A number in at least two columns. -/
def twoColumns (number : Nat) : String :=
  if number < 10 then " " ++ toString number else toString number

/-- The lines about the steps of a run that have ended. -/
def progressLines (runId : String) (steps : List Step) (events : List RunEvent) : List String :=
  events.filterMap fun event =>
    match event with
    | .stepFinished run stepId order status =>
      if run = runId then
        let text := ((steps.find? fun step => step.id = stepId).map Step.rawText).getD "?"
        some ("  " ++ statusMark status ++ " " ++ twoColumns order ++ ". " ++ text)
      else none
    | _ => none

/-- What a command prints about a run that has ended. -/
def showEndedRun (format : Format) (run : Run) (results : List StepResult) : Transcript :=
  let passed := run.status == .passed
  match format with
  | .json =>
    { out := [(Json.ofRunStatus run results).sorted.prettyText], ending := .ok passed }
  | format =>
    let shown := showList format (results.map Item.ofResult)
    let summary := "Run " ++ run.id ++ " " ++ run.status.name ++ " in " ++
      Calendar.elapsed run.startedAt run.endedAt
    let cause := (run.error.map fun error => [errorLine error]).getD []
    match run.status with
    | .passed => { out := shown ++ [successLine summary], err := cause, ending := .ok true }
    | .cancelled => { out := shown ++ [warningLine summary], err := cause, ending := .ok false }
    | _ => { out := shown, err := errorLine summary :: cause, ending := .ok false }

/-- The options of a run, where what is not asked for comes from the engine. -/
def runOptions (usual : RunOptions) (continueOnFailure : Bool) (seconds : Option Nat) :
    RunOptions :=
  { continueOnFailure := continueOnFailure || usual.continueOnFailure
    stepTimeout := (seconds.map Duration.ofSeconds).getD usual.stepTimeout }

/-- Carries out a run and waits for its end. -/
def performRun (format : Format) (testCaseId : String) (browser : Browser)
    (continueOnFailure : Bool) (seconds : Option Nat) : Activity Transcript := do
  let found ← Activity.look fun engine => do
    let testCase ← engine.testCase testCaseId
    let steps ← engine.steps testCase.id
    return (testCase, steps, engine.options, engine.events.length)
  match found with
  | .error error => return .refused error
  | .ok (testCase, steps, usual, mark) =>
    let options := runOptions usual continueOnFailure seconds
    match ← Engine.start testCase.id browser options with
    | .error error => return .refused error
    | .ok (number, run) =>
      let ended ← Engine.waitForTask number
      Activity.look fun engine =>
        let before :=
          if format = .json then []
          else infoLine ("Running " ++ quoted testCase.title ++ " on " ++ browser.name ++
            " (run " ++ run.id ++ ")") :: progressLines run.id steps (engine.events.drop mark)
        let result := do
          let run ← ended
          let results ← engine.results run.id
          return showEndedRun format run results
        match result with
        | .ok transcript => transcript.after before
        | .error error => (Transcript.refused error).after before

/-- Shows the runs of a test case. -/
def performHistory (format : Format) (testCaseId : String) : Activity Transcript :=
  printView (·.history testCaseId) fun runs => showList format (runs.map Item.ofRun)

/-- Shows a run with the results of its steps. -/
def performResults (format : Format) (runId : String) : Activity Transcript :=
  printView (·.status runId) fun (run, results) =>
    match format with
    | .json => [(Json.ofRunStatus run results).prettyText]
    | format => showList format [.ofRun run] ++ showList format (results.map Item.ofResult)

/-- Shows the report of a run. -/
def performReport (runId : String) : Activity Transcript :=
  printView (·.report runId) fun report => [report.toJson.prettyText]

/-- Shows what is known about the browser engines. -/
def performBrowserStatus (format : Format) : Activity Transcript := do
  let states ← Engine.refreshInstalls
  return .printed (showList format (states.map Item.ofInstall))

/-- An event says that an engine is being installed. -/
def isInstalling (browser : Browser) (event : InstallEvent) : Bool :=
  event.browser = browser && event.phase = .installing

/-- Carries out the install of a browser engine. -/
def performInstall (format : Format) (browser : Browser) : Activity Transcript := do
  let mark ← Activity.look fun engine => engine.installs.events.length
  let result ← Engine.ensureInstalled browser id
  let begun ← Activity.look fun engine =>
    (engine.installs.events.drop mark).any (isInstalling browser)
  let before := if begun then [infoLine ("Installing " ++ browser.name ++ "...")] else []
  match result with
  | .ok state =>
    return (Transcript.printed (successLine (browser.name ++ " is installed") ::
      showItem format (.ofInstall state))).after before
  | .error reason =>
    return (Transcript.broken ["Failed to install " ++ browser.name ++ ": " ++ reason]).after
      before

/-- The line that names a command and its version. -/
def releaseLine (path : List String) : String :=
  "-".intercalate ("qaflow" :: path) ++ " 0.1.0"

/-- The lines about the program and its settings. -/
def versionLines (config : Config) : List String :=
  ["qaflow CLI v0.1.0", "Store: " ++ config.storePath, "Base URL: " ++ config.browser.baseUrl]

namespace Command

/-- Carries out a command. -/
def perform (config : Config) (format : Format) : Command → Activity Transcript
  | parse steps file => performParse format steps file
  | addProject name => performAddProject format name
  | listProjects => performListProjects format
  | deleteProject id => performDeleteProject id
  | addTest projectId title steps file => performAddTest format projectId title steps file
  | listTests projectId => performListTests format projectId
  | showTest id => performShowTest format id
  | editTest id steps file => performEditTest format id steps file
  | deleteTest id => performDeleteTest id
  | run testCaseId browser continueOnFailure seconds =>
    performRun format testCaseId browser continueOnFailure seconds
  | history testCaseId => performHistory format testCaseId
  | results runId => performResults format runId
  | report runId => performReport runId
  | browserStatus => performBrowserStatus format
  | installBrowser browser => performInstall format browser
  | version => .done (.printed (versionLines config))

/-- A command works on the store. -/
def needsStore : Command → Bool
  | parse _ _ | version => false
  | _ => true

end Command

end StepRunner.Console
