import StepRunner.Engine.Basic

/-!
This file manages projects and test cases.
A project or a test case is not deleted while a run of it is in progress.
-/

namespace StepRunner.Engine

/-- The answer of the store as an answer of the engine. -/
def answered {α : Type} (outcome : Except StoreError α × Engine) : Except EngineError α × Engine :=
  (outcome.1.mapError EngineError.ofStore, outcome.2)

/-- Creates a project. -/
def createProject (engine : Engine) (now : Int) (name : String) :
    Except EngineError Project × Engine :=
  answered (engine.write (·.createProject now name))

/-- The projects, oldest first. -/
def projects (engine : Engine) : List Project :=
  engine.store.tables.listProjects

/-- The project with an id. -/
def project (engine : Engine) (id : String) : Except EngineError Project :=
  match engine.store.tables.project? id with
  | some project => .ok project
  | none => .error (.notFound .project id)

/-- The test case with an id. -/
def testCase (engine : Engine) (id : String) : Except EngineError TestCase :=
  match engine.store.tables.testCase? id with
  | some testCase => .ok testCase
  | none => .error (.notFound .testCase id)

/-- The test cases of a project, oldest first. -/
def testCases (engine : Engine) (projectId : String) : Except EngineError (List TestCase) := do
  let _ ← engine.project projectId
  return engine.store.tables.listTestCases projectId

/-- The steps of a test case in their order. -/
def steps (engine : Engine) (testCaseId : String) : Except EngineError (List Step) := do
  let _ ← engine.testCase testCaseId
  return engine.store.tables.listSteps testCaseId

/-- Creates a test case from the lines of a script. -/
def createTestCase (engine : Engine) (now : Int) (projectId title : String)
    (lines : List String) : Except EngineError (TestCase × List Step) × Engine :=
  match StepDraft.ofLines lines with
  | .error complaint => (.error (.validation complaint), engine)
  | .ok drafts => answered (engine.write (·.createTestCase now projectId title drafts))

/-- Replaces the steps of a test case by the lines of a script. -/
def updateSteps (engine : Engine) (now : Int) (testCaseId : String) (lines : List String) :
    Except EngineError (List Step) × Engine :=
  match StepDraft.ofLines lines with
  | .error complaint => (.error (.validation complaint), engine)
  | .ok drafts => answered (engine.write (·.replaceSteps now testCaseId drafts))

/-- Removes the screenshots of runs; a run whose screenshots cannot be removed keeps them. -/
def removeArtifacts (engine : Engine) (runIds : List String) : Engine :=
  let artifacts := runIds.foldl
    (fun artifacts runId => (artifacts.removeRun runId).toOption.getD artifacts) engine.artifacts
  { engine with artifacts }

/-- Deletes a row, unless it is guarded, and then the screenshots of its runs. -/
def delete (engine : Engine) (guarded : Except EngineError Unit) (missing : EngineError)
    (runIds : List String) (remove : Store → Bool × Store) : Except EngineError Unit × Engine :=
  match guarded with
  | .error error => (.error error, engine)
  | .ok _ =>
    match engine.writeAlways remove with
    | (.error error, engine) => (.error (.ofStore error), engine)
    | (.ok false, engine) => (.error missing, engine)
    | (.ok true, engine) => (.ok (), engine.removeArtifacts runIds)

/-- Deletes a project with its test cases, their runs and the screenshots of these. -/
def deleteProject (engine : Engine) (id : String) : Except EngineError Unit × Engine :=
  engine.delete (engine.registry.checkProject id) (.notFound .project id)
    (engine.store.tables.runIdsOfProject id) (·.deleteProject id)

/-- Deletes a test case with its runs and their screenshots. -/
def deleteTestCase (engine : Engine) (id : String) : Except EngineError Unit × Engine :=
  engine.delete (engine.registry.checkTestCase id) (.notFound .testCase id)
    ((engine.store.tables.listRuns id).map Run.id) (·.deleteTestCase id)

end StepRunner.Engine
