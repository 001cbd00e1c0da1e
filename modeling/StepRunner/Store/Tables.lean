import StepRunner.Error

/-!
This file keeps the rows of the store in five tables, each in the order of insertion.
Deleting a row deletes every row that depends on it.
-/

namespace StepRunner

/-- The rows of the store. -/
structure Tables where
  projects : List Project := []
  testCases : List TestCase := []
  steps : List Step := []
  runs : List Run := []
  results : List StepResult := []
  deriving DecidableEq, Repr, Inhabited

namespace Tables

/-- The project with an id. -/
def project? (tables : Tables) (id : String) : Option Project :=
  tables.projects.find? fun project => project.id = id

/-- The test case with an id. -/
def testCase? (tables : Tables) (id : String) : Option TestCase :=
  tables.testCases.find? fun testCase => testCase.id = id

/-- The run with an id. -/
def run? (tables : Tables) (id : String) : Option Run :=
  tables.runs.find? fun run => run.id = id

/-- The step result with an id. -/
def result? (tables : Tables) (id : String) : Option StepResult :=
  tables.results.find? fun result => result.id = id

/-- The projects, oldest first. -/
def listProjects (tables : Tables) : List Project :=
  tables.projects.mergeSort fun left right => decide (left.createdAt ≤ right.createdAt)

/-- The test cases of a project, oldest first. -/
def listTestCases (tables : Tables) (projectId : String) : List TestCase :=
  (tables.testCases.filter fun testCase => testCase.projectId = projectId).mergeSort
    fun left right => decide (left.createdAt ≤ right.createdAt)

/-- The steps of a test case in their order. -/
def listSteps (tables : Tables) (testCaseId : String) : List Step :=
  (tables.steps.filter fun step => step.testCaseId = testCaseId).mergeSort
    fun left right => decide (left.order ≤ right.order)

/-- The runs of a test case, newest first; of runs with one start the last inserted comes first. -/
def listRuns (tables : Tables) (testCaseId : String) : List Run :=
  (tables.runs.filter fun run => run.testCaseId = testCaseId).reverse.mergeSort
    fun left right => decide (right.startedAt ≤ left.startedAt)

/-- The step results of a run in the order of the steps. -/
def listResults (tables : Tables) (runId : String) : List StepResult :=
  (tables.results.filter fun result => result.runId = runId).mergeSort
    fun left right => decide (left.order ≤ right.order)

/-- The ids of the runs of a project's test cases. -/
def runIdsOfProject (tables : Tables) (projectId : String) : List String :=
  (tables.runs.filter fun run =>
    tables.testCases.any fun testCase =>
      testCase.id = run.testCaseId && testCase.projectId = projectId).map Run.id

/-- The number of runs of a test case. -/
def countRuns (tables : Tables) (testCaseId : String) : Nat :=
  (tables.runs.filter fun run => run.testCaseId = testCaseId).length

/-- Adds a project whose id is new. -/
def addProject (tables : Tables) (project : Project) : Except StoreError Tables :=
  if (tables.project? project.id).isSome then .error (.database (.duplicateId .projects))
  else .ok { tables with projects := tables.projects ++ [project] }

/-- Adds a test case whose id is new to a project that exists. -/
def addTestCase (tables : Tables) (testCase : TestCase) : Except StoreError Tables :=
  if (tables.testCase? testCase.id).isSome then .error (.database (.duplicateId .testCases))
  else if (tables.project? testCase.projectId).isNone then .error (.database .foreignKey)
  else .ok { tables with testCases := tables.testCases ++ [testCase] }

/-- Adds a step whose id is new to a test case that exists. -/
def addStep (tables : Tables) (step : Step) : Except StoreError Tables :=
  if tables.steps.any fun other => other.id = step.id then
    .error (.database (.duplicateId .steps))
  else if (tables.testCase? step.testCaseId).isNone then .error (.database .foreignKey)
  else .ok { tables with steps := tables.steps ++ [step] }

/-- Adds steps one after the other; all of them are added or none. -/
def addSteps (tables : Tables) (steps : List Step) : Except StoreError Tables :=
  steps.foldlM addStep tables

/-- Adds a run whose id is new to a test case that exists. -/
def addRun (tables : Tables) (run : Run) : Except StoreError Tables :=
  if (tables.run? run.id).isSome then .error (.database (.duplicateId .runs))
  else if (tables.testCase? run.testCaseId).isNone then .error (.database .foreignKey)
  else .ok { tables with runs := tables.runs ++ [run] }

/-- Adds a step result whose id is new to a run that exists. -/
def addResult (tables : Tables) (result : StepResult) : Except StoreError Tables :=
  if (tables.result? result.id).isSome then .error (.database (.duplicateId .stepResults))
  else if (tables.run? result.runId).isNone then .error (.database .foreignKey)
  else .ok { tables with results := tables.results ++ [result] }

/-- Changes the rows of the run with an id. -/
def updateRun (tables : Tables) (id : String) (change : Run → Run) : Tables :=
  { tables with runs := tables.runs.map fun run => if run.id = id then change run else run }

/-- Changes the step results that satisfy a test. -/
def updateResults (tables : Tables) (test : StepResult → Bool)
    (change : StepResult → StepResult) : Tables :=
  { tables with
    results := tables.results.map fun result => if test result then change result else result }

/-- Removes runs, and the step results of the runs removed. -/
def removeRuns (tables : Tables) (test : Run → Bool) : Tables :=
  let removed := (tables.runs.filter test).map Run.id
  { tables with
    runs := tables.runs.filter fun run => !test run
    results := tables.results.filter fun result => !removed.contains result.runId }

/-- Removes test cases, and the steps, runs and step results that depend on them. -/
def removeTestCases (tables : Tables) (test : TestCase → Bool) : Tables :=
  let removed := (tables.testCases.filter test).map TestCase.id
  let rest := tables.removeRuns fun run => removed.contains run.testCaseId
  { rest with
    testCases := tables.testCases.filter fun testCase => !test testCase
    steps := tables.steps.filter fun step => !removed.contains step.testCaseId }

/-- Removes a project and everything that depends on it. -/
def removeProject (tables : Tables) (id : String) : Tables :=
  let rest := tables.removeTestCases fun testCase => testCase.projectId = id
  { rest with projects := tables.projects.filter fun project => project.id ≠ id }

end Tables

end StepRunner
