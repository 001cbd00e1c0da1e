import StepRunner.Artifacts.Basic
import StepRunner.Install
import StepRunner.Registry
import StepRunner.Settings.Config
import StepRunner.Step.Stored
import StepRunner.Store.Basic

/-!
This file defines the state of the engine: the store, the slot for the run in progress, the
installs, the screenshots, the tasks of the runs and the events so far.
The code between two waits of a run is one function of this state.
-/

namespace StepRunner

/-- How far the task of a run has come; somebody else may act on the engine at each stage. -/
inductive Stage where
  /-- The browser is being launched. -/
  | launching
  /-- The next of the steps that are left is about to begin. -/
  | ready (rest : List Step)
  /-- The browser carries out the action of a step. -/
  | acting (result : StepResult) (action : Action) (rest : List Step)
  /-- The browser takes the screenshot of a step that has failed or not. -/
  | photographing (result : StepResult) (failure : Option String) (rest : List Step)
  /-- The screenshot of a step is being written. -/
  | storing (result : StepResult) (failure : Option String) (picture : Bytes) (rest : List Step)
  /-- The browser is being closed; `fault` says why the steps were given up, if they were. -/
  | closing (fault : Option String)
  /-- The run has ended. -/
  | ended (run : Run)
  /-- The browser broke down and took the task with it. -/
  | panicked
  deriving Repr

/-- The task that carries out a run. -/
structure RunTask where
  run : Run
  /-- The steps as they were when the run started. -/
  steps : List Step
  options : RunOptions
  active : ActiveRun
  /-- A step of the run has failed. -/
  anyFailed : Bool
  stage : Stage
  deriving Repr

namespace RunTask

/-- The task has come to its end. -/
def isOver (task : RunTask) : Bool :=
  match task.stage with
  | .ended _ | .panicked => true
  | _ => false

/-- The time that the browser has for an action. -/
def budget (task : RunTask) (action : Action) : Duration :=
  task.options.stepTimeout.add action.requestedWait

/-- The time that the browser has for the call that a task waits for, if that is limited. -/
def limit? (task : RunTask) : Option Duration :=
  match task.stage with
  | .acting _ action _ => some (task.budget action)
  | .photographing _ _ _ => some task.options.stepTimeout
  | _ => none

end RunTask

/-- An event together with what the store and the slot show at the instant it is told. -/
structure Announcement where
  event : RunEvent
  tables : Tables
  slot : Slot
  deriving Repr

/-- The state of the engine. -/
structure Engine where
  store : Store := {}
  registry : Registry := {}
  installs : Installs := {}
  artifacts : Artifacts
  options : RunOptions
  tasks : List RunTask := []
  announcements : List Announcement := []
  /-- Tells for each coming write of the store whether the disk refuses it; later ones succeed. -/
  refusals : List Bool := []

namespace Engine

/-- Writes to the store; a write that the disk refuses changes nothing. -/
def write {α : Type} (engine : Engine) (change : Store → Except StoreError (α × Store)) :
    Except StoreError α × Engine :=
  let refused := engine.refusals.headD false
  let engine := { engine with refusals := engine.refusals.tail }
  if refused then (.error (.database .disk), engine)
  else
    match change engine.store with
    | .error error => (.error error, engine)
    | .ok (value, store) => (.ok value, { engine with store })

/-- Writes to the store without a value of interest. -/
def writeOnly (engine : Engine) (change : Store → Except StoreError Store) :
    Except StoreError Unit × Engine :=
  engine.write fun store => (change store).map fun store => ((), store)

/-- A write that the store itself never refuses. -/
def writeAlways {α : Type} (engine : Engine) (change : Store → α × Store) :
    Except StoreError α × Engine :=
  engine.write fun store => .ok (change store)

/-- The events of runs so far. -/
def events (engine : Engine) : List RunEvent :=
  engine.announcements.map Announcement.event

/-- Tells observers what happened to a run. -/
def emit (engine : Engine) (event : RunEvent) : Engine :=
  let announcement := ⟨event, engine.store.tables, engine.registry.slot⟩
  { engine with announcements := engine.announcements ++ [announcement] }

/-- Hands out an id that was not handed out before. -/
def mint (engine : Engine) : String × Engine :=
  let (id, store) := engine.store.mint
  (id, { engine with store })

/-- The task with a number. -/
def task? (engine : Engine) (number : Nat) : Option RunTask := engine.tasks[number]?

/-- Changes the task with a number. -/
def updateTask (engine : Engine) (number : Nat) (change : RunTask → RunTask) : Engine :=
  { engine with tasks := engine.tasks.modify number change }

/-- Sets how far a task has come. -/
def setStage (engine : Engine) (number : Nat) (stage : Stage) : Engine :=
  engine.updateTask number fun task => { task with stage }

@[simp] theorem emit_store (engine : Engine) (event : RunEvent) :
    (engine.emit event).store = engine.store := rfl

@[simp] theorem setStage_store (engine : Engine) (number : Nat) (stage : Stage) :
    (engine.setStage number stage).store = engine.store := rfl

end Engine

end StepRunner
