import StepRunner.Engine.Basic

/-!
This file carries out runs, from the launch of the browser to the end of the run.
Each function takes what the task of a run was waiting for and goes on to its next stage.
-/

namespace StepRunner

/-- How the browser left an action. -/
inductive ActEnding where
  | done
  | failed (error : SessionError)
  | timedOut
  deriving DecidableEq, Repr

/-- Why a step failed whose action ended in a certain way. -/
def ActEnding.failure? (budget : Duration) : ActEnding → Option String
  | done => none
  | failed error => some error.message
  | timedOut => some ("Step timed out after " ++ budget.secondsText ++ "s")

namespace Engine

/-- The state in which a run ends. -/
def finalStatus (cancelled failed : Bool) : RunStatus :=
  if cancelled then .cancelled else if failed then .failed else .passed

/-- Ends a run: stores its last state, frees the slot and tells observers. -/
def finalize (engine : Engine) (number : Nat) (task : RunTask) (fatal : Option String)
    (failed : Bool) (now : Int) : Engine :=
  let cancelled := engine.registry.cancelRequested task.active
  let status := finalStatus cancelled (fatal.isSome || failed)
  let (stored, engine) := engine.write (·.moveRun now task.run.id status fatal)
  let run :=
    match stored with
    | .ok run => run
    | .error _ => { task.run with status, endedAt := some now, error := fatal }
  let engine := { engine with registry := engine.registry.finish task.active }
  (engine.emit (.runFinished run.id run.status)).setStage number (.ended run)

/-- The pending result of a step that is about to be carried out. -/
def pendingResult (id : String) (run : Run) (step : Step) (now : Int) : StepResult :=
  { id
    runId := run.id
    stepId := step.id
    order := step.order
    status := .pending
    errorText := none
    screenshotPath := none
    startedAt := now
    endedAt := none }

/-- Begins a step: stores its pending result, tells observers and turns to its action. -/
def beginStep (engine : Engine) (number : Nat) (task : RunTask) (step : Step) (rest : List Step)
    (now : Int) : Engine :=
  let (id, engine) := engine.mint
  let result := pendingResult id task.run step now
  match engine.writeOnly (·.insertResult result) with
  | (.error error, engine) =>
    engine.setStage number (.closing (some (EngineError.ofStore error).message))
  | (.ok _, engine) =>
    let engine := engine.emit (.stepStarted task.run.id step.id step.order)
    match step.action? with
    | some action => engine.setStage number (.acting result action rest)
    | none =>
      engine.setStage number (.photographing result (some StepReading.blankMessage) rest)

/-- The outcome of a step. -/
def stepStatus (cancelled failed : Bool) : StepStatus :=
  if cancelled then .cancelled else if failed then .failed else .passed

/-- Where a run goes after a step: a failure may end the run, and a request to stop does. -/
def stageAfter (options : RunOptions) (status : StepStatus) (rest : List Step) : Stage :=
  match status with
  | .failed => if options.continueOnFailure then .ready rest else .closing none
  | .cancelled => .closing none
  | .passed | .pending => .ready rest

/-- Ends a step: stores its outcome, tells observers and decides whether the run may go on. -/
def endStep (engine : Engine) (number : Nat) (task : RunTask) (result : StepResult)
    (failure path : Option String) (rest : List Step) (now : Int) : Engine :=
  let status := stepStatus (engine.registry.cancelRequested task.active) failure.isSome
  let outcome : StepResult :=
    { result with
      status
      errorText := if status = .failed then failure else none
      screenshotPath := path
      endedAt := some now }
  match engine.writeOnly (·.finishResult outcome) with
  | (.error error, engine) =>
    engine.setStage number (.closing (some (EngineError.ofStore error).message))
  | (.ok _, engine) =>
    let engine := engine.emit (.stepFinished task.run.id result.stepId result.order status)
    engine.updateTask number fun task =>
      { task with
        anyFailed := task.anyFailed || status = .failed
        stage := stageAfter task.options status rest }

/-- The browser was launched, or failed to launch. -/
def launched (engine : Engine) (number : Nat) (outcome : Except SessionError Unit) (now : Int) :
    Engine :=
  match engine.task? number with
  | none => engine
  | some task =>
    match task.stage with
    | .launching =>
      match outcome with
      | .error error => engine.finalize number task (some error.message) false now
      | .ok _ => engine.setStage number (.ready task.steps)
    | _ => engine

/-- Goes on with the steps that are left, unless there are none or the run is to stop. -/
def advance (engine : Engine) (number : Nat) (now : Int) : Engine :=
  match engine.task? number with
  | none => engine
  | some task =>
    match task.stage with
    | .ready [] => engine.setStage number (.closing none)
    | .ready (step :: rest) =>
      if engine.registry.cancelRequested task.active then engine.setStage number (.closing none)
      else engine.beginStep number task step rest now
    | _ => engine

/-- The browser is through with the action of a step. -/
def acted (engine : Engine) (number : Nat) (ending : ActEnding) : Engine :=
  match engine.task? number with
  | none => engine
  | some task =>
    match task.stage with
    | .acting result action rest =>
      engine.setStage number (.photographing result (ending.failure? (task.budget action)) rest)
    | _ => engine

/-- The browser took a screenshot, or none in time. -/
def photographed (engine : Engine) (number : Nat) (picture : Option Bytes) (now : Int) : Engine :=
  match engine.task? number with
  | none => engine
  | some task =>
    match task.stage with
    | .photographing result failure rest =>
      match picture with
      | some picture => engine.setStage number (.storing result failure picture rest)
      | none => engine.endStep number task result failure none rest now
    | _ => engine

/-- The screenshot of a step is written; without a file the step has no screenshot. -/
def stored (engine : Engine) (number : Nat) (now : Int) : Engine :=
  match engine.task? number with
  | none => engine
  | some task =>
    match task.stage with
    | .storing result failure picture rest =>
      let (path, artifacts) := engine.artifacts.capture task.run.id result.stepId picture
      { engine with artifacts }.endStep number task result failure path.toOption rest now
    | _ => engine

/-- The browser is closed; the results of steps that were given up are failed. -/
def closed (engine : Engine) (number : Nat) (now : Int) : Engine :=
  match engine.task? number with
  | none => engine
  | some task =>
    match task.stage with
    | .closing none => engine.finalize number task none task.anyFailed now
    | .closing (some fault) =>
      let engine := (engine.writeAlways (·.failPending now task.run.id fault)).2
      engine.finalize number task (some fault) true now
    | _ => engine

/-- The browser broke down: the task is gone, and its slot is free. -/
def brokeDown (engine : Engine) (number : Nat) : Engine :=
  match engine.task? number with
  | none => engine
  | some task =>
    if task.isOver then engine
    else
      { engine with registry := engine.registry.finish task.active }.setStage number .panicked

/-- Asks a run to stop; tells whether it is the run in progress. -/
def cancel (engine : Engine) (runId : String) : Bool × Engine :=
  let (accepted, registry) := engine.registry.requestCancel runId
  (accepted, { engine with registry })

end Engine

end StepRunner
