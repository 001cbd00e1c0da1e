import StepRunner.Engine.Report
import StepRunner.Engine.Run
import StepRunner.Engine.Start

/-!
This file defines activities, which take turns with each other on one engine.
Between two waits an activity acts on the engine in one piece.
An activity that is dropped while it waits gives back what it holds.
-/

namespace StepRunner

/-- What an activity can wait for. -/
inductive Wait where
  /-- The outcome of an attempt to install a browser engine. -/
  | attempt (number : Nat)
  /-- The end of the task of a run. -/
  | task (number : Nat)
  /-- No run is in progress. -/
  | idle
  /-- A time in milliseconds on the clock of the schedule. -/
  | moment (milliseconds : Nat)
  deriving DecidableEq, Repr

namespace Wait

/-- A wait is over at a time in a state of the engine. -/
def isOver (time : Nat) (engine : Engine) : Wait → Bool
  | attempt number => (engine.installs.outcome? number).isSome
  | task number =>
    match engine.task? number with
    | some found => found.isOver
    | none => false
  | idle => engine.registry.context?.isNone
  | moment milliseconds => milliseconds ≤ time

end Wait

/-- A sequence of acts, questions and waits with a value at its end. -/
inductive Activity (α : Type) where
  | done (value : α)
  /-- Changes the engine; the activity goes on from the clock and the engine before the change. -/
  | act (change : Int → Engine → Engine) (next : Int → Engine → Activity α)
  /-- Asks the host whether it has a browser engine. -/
  | probe (browser : Browser) (next : Bool → Activity α)
  /-- Asks the host for the content of a file. -/
  | readFile (path : String) (next : Except IoError Bytes → Activity α)
  /-- Asks for the time of the schedule in milliseconds. -/
  | time (next : Nat → Activity α)
  /-- Waits; `dropped` is what becomes of the engine when the activity ends here. -/
  | await (wait : Wait) (dropped : Engine → Engine) (next : Activity α)

namespace Activity

/-- Goes on with another activity after an activity. -/
def bind {α β : Type} : Activity α → (α → Activity β) → Activity β
  | done value, next => next value
  | act change rest, next => act change fun now engine => (rest now engine).bind next
  | probe browser rest, next => probe browser fun found => (rest found).bind next
  | readFile path rest, next => readFile path fun content => (rest content).bind next
  | time rest, next => time fun milliseconds => (rest milliseconds).bind next
  | await wait dropped rest, next => await wait dropped (rest.bind next)

instance : Monad Activity where
  pure := done
  bind := bind

/-- Acts on the engine in one piece and keeps a value. -/
def perform {α : Type} (step : Int → Engine → α × Engine) : Activity α :=
  act (fun now engine => (step now engine).2) fun now engine => done (step now engine).1

/-- Looks at the engine. -/
def look {α : Type} (view : Engine → α) : Activity α :=
  act (fun _ engine => engine) fun _ engine => done (view engine)

/-- Asks the host whether it has a browser engine. -/
def hasBrowser (browser : Browser) : Activity Bool := probe browser done

/-- Asks the host for the content of a file. -/
def fileContent (path : String) : Activity (Except IoError Bytes) := readFile path done

/-- Waits while holding nothing. -/
def wait (event : Wait) : Activity Unit := await event id (done ())

/-- Waits a number of milliseconds. -/
def sleep (milliseconds : Nat) : Activity Unit :=
  time fun present => wait (.moment (present + milliseconds))

end Activity

namespace Installs

/-- The outcome for a caller that waited for an attempt. -/
def joined (installs : Installs) (browser : Browser) (attempt : Nat) :
    Except String InstallState :=
  match installs.outcome? attempt with
  | some (.error reason) => .error reason
  | _ => .ok (installs.state browser)

end Installs

namespace Engine

/-- Changes what is known about the browser engines. -/
def onInstalls {α : Type} (step : Installs → α × Installs) (engine : Engine) : α × Engine :=
  let (value, installs) := step engine.installs
  (value, { engine with installs })

/-- Waits for what a caller has learned, unless it has a browser engine already. -/
def settleInstall (browser : Browser) (dropped : Engine → Engine) :
    InstallAnswer → Activity (Except String InstallState)
  | .ready state => .done (.ok state)
  | .wait attempt =>
    .await (.attempt attempt) dropped (.look fun engine => engine.installs.joined browser attempt)

/-- Makes sure that a browser engine is installed; `dropped` undoes what the caller holds. -/
def ensureInstalled (browser : Browser) (dropped : Engine → Engine) :
    Activity (Except String InstallState) := do
  match ← Activity.perform fun _ => onInstalls (·.ask browser) with
  | some answer => settleInstall browser dropped answer
  | none =>
    let found ← Activity.hasBrowser browser
    let answer ← Activity.perform fun _ => onInstalls (·.probed browser found)
    settleInstall browser dropped answer

/-- Probes the host for a browser engine, unless it is being installed. -/
def probeAgain (browser : Browser) : Activity Unit := do
  if ← Activity.look fun engine => engine.installs.wantsProbe browser then
    let found ← Activity.hasBrowser browser
    Activity.perform fun _ => onInstalls fun installs => ((), installs.record browser found)

/-- Probes the host for all browser engines and gives their states. -/
def refreshInstalls : Activity (List InstallState) := do
  for browser in Browser.all do
    probeAgain browser
  Activity.look fun engine => engine.installs.status

/-- Starts a run and gives the number of its task and the run as it started. -/
def start (testCaseId : String) (browser : Browser) (options : RunOptions) :
    Activity (Except EngineError (Nat × Run)) := do
  let prepared ← Activity.perform fun _ engine =>
    match engine.prepare testCaseId browser options with
    | .ok (call, engine) => (Except.ok call, engine)
    | .error error => (Except.error error, engine)
  match prepared with
  | .error error => return .error error
  | .ok call =>
    let installed ← ensureInstalled browser (·.abandon call)
    Activity.perform fun now engine => engine.conclude call (installed.map fun _ => ()) now

/-- The run at the end of a task. -/
def endOf (engine : Engine) (number : Nat) : Except EngineError Run :=
  match (engine.task? number).map RunTask.stage with
  | some (.ended run) => .ok run
  | _ => .error .taskPanicked

/-- Waits for the end of a task. -/
def waitForTask (number : Nat) : Activity (Except EngineError Run) := do
  Activity.wait (.task number)
  Activity.look fun engine => engine.endOf number

/-- Starts a run and waits for its end. -/
def execute (testCaseId : String) (browser : Browser) (options : RunOptions) :
    Activity (Except EngineError Run) := do
  match ← start testCaseId browser options with
  | .error error => return .error error
  | .ok (number, _) => waitForTask number

end Engine

end StepRunner
