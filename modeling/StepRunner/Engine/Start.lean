import StepRunner.Engine.Basic

/-!
This file starts runs.
A start first claims the slot, then waits until the browser engine is installed, and then stores
the run and creates its task.
-/

namespace StepRunner

/-- A start that waits for its browser engine. -/
structure StartCall where
  testCase : TestCase
  /-- The steps of the test case as the start has read them. -/
  steps : List Step
  browser : Browser
  options : RunOptions
  reservation : Reservation
  deriving Repr

namespace Engine

/-- Claims the slot for a run of a test case that has steps. -/
def prepare (engine : Engine) (testCaseId : String) (browser : Browser) (options : RunOptions) :
    Except EngineError (StartCall × Engine) := do
  options.check
  match engine.store.tables.testCase? testCaseId with
  | none => throw (.notFound .testCase testCaseId)
  | some testCase =>
    let steps := engine.store.tables.listSteps testCase.id
    if steps.isEmpty then throw (.validation .noSteps)
    let (reservation, registry) ← engine.registry.reserve testCase.projectId testCase.id
    return (⟨testCase, steps, browser, options, reservation⟩, { engine with registry })

/-- Gives up a start. -/
def abandon (engine : Engine) (call : StartCall) : Engine :=
  { engine with registry := engine.registry.release call.reservation }

/-- A run that nobody has begun. -/
def queuedRun (id : String) (call : StartCall) (now : Int) : Run :=
  { id
    testCaseId := call.testCase.id
    browser := call.browser
    status := .queued
    startedAt := now
    endedAt := none
    error := none }

/-- Makes a stored run the one in progress, tells observers and creates its task. -/
def spawn (engine : Engine) (call : StartCall) (run : Run) : Nat × Engine :=
  let (active, registry) := engine.registry.activate call.reservation run.id
  let engine := { engine with registry }
  let engine := engine.emit (.runStarted run.id call.testCase.id call.browser)
  (engine.tasks.length,
    { engine with
      tasks := engine.tasks ++ [⟨run, call.steps, call.options, active, false, .launching⟩] })

/-- Stores the run of a start as running; a run that cannot begin is removed again. -/
def storeRun (engine : Engine) (call : StartCall) (now : Int) :
    Except EngineError Run × Engine :=
  let (id, engine) := engine.mint
  match engine.writeOnly (·.insertRun (queuedRun id call now)) with
  | (.error error, engine) => (.error (.ofStore error), engine)
  | (.ok _, engine) =>
    match engine.write (·.moveRun now id .running none) with
    | (.error error, engine) =>
      (.error (.ofStore error), (engine.writeAlways (·.deleteQueuedRun id)).2)
    | (.ok run, engine) => (.ok run, engine)

/--
Completes a start once its browser engine is installed or has failed to install.
It gives the number of the new task and the run; without a run the slot is free again.
-/
def conclude (engine : Engine) (call : StartCall) (installed : Except String Unit) (now : Int) :
    Except EngineError (Nat × Run) × Engine :=
  match installed with
  | .error reason => (.error (.environment reason), engine.abandon call)
  | .ok _ =>
    match engine.storeRun call now with
    | (.error error, engine) => (.error error, engine.abandon call)
    | (.ok run, engine) =>
      let (number, engine) := engine.spawn call run
      (.ok (number, run), engine)

end Engine

end StepRunner
