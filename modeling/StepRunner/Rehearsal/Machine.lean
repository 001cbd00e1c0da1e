import StepRunner.Engine.Activity
import StepRunner.Host.Cache
import StepRunner.Host.Npx
import StepRunner.Rehearsal.Bridge

/-!
This file rehearses a whole machine: an engine on a host with a disk, a cache of browser engines
and a scripted bridge, but without the program that installs engines.
-/

namespace StepRunner.Rehearsal

/-- A machine with an engine. -/
structure Machine where
  engine : Engine
  now : Int
  settings : BrowserSettings
  actionTimeout : Duration
  /-- The names in the cache of browser engines. -/
  cache : List String
  /-- The script of the bridge, unless its program is missing. -/
  script : Option BridgeScript
  /-- The session of the run in progress. -/
  talk : Option Talk := none
  /-- The commands of the sessions that are over. -/
  past : List Bridge.Request := []
  /-- The directory from which paths start. -/
  directory : String := "/"

/-- A disk with a scratch directory, and a file of the system that nobody should read. -/
def freshDisk (directory : String) : Disk :=
  let filled := do
    let disk ← ({} : Disk).makeDirectories directory
    disk.plant "/etc/passwd" (Utf8.encode "root\n")
  filled.toOption.getD {}

/-- The screenshots at a path of a fresh disk. -/
def artifactsAt (disk : Disk) (path : String) : Artifacts :=
  match Artifacts.create disk path with
  | .ok artifacts => artifacts
  | .error _ => { root := Path.names path, disk }

/-- Runs a script once in a project of its own. -/
def singleRun (name title : String) (lines : List String) (browser : Browser) :
    Activity (Except EngineError RunReport) := do
  let created ← Activity.perform fun now engine =>
    match engine.createProject now name with
    | (.error error, engine) => (.error error, engine)
    | (.ok project, engine) => engine.createTestCase now project.id title lines
  match created with
  | .error error => return .error error
  | .ok (testCase, _) =>
    let options ← Activity.look Engine.options
    match ← Engine.execute testCase.id browser options with
    | .error error => return .error error
    | .ok run => Activity.look fun engine => engine.report run.id

namespace Machine

/-- Opens the store of a configuration and sets up its screenshots. -/
def build (config : Config) (disk : Disk) (store : Store) (now : Int) (cache : List String)
    (script : Option BridgeScript) : Except EngineError Machine := do
  let disk ← (disk.makeDirectories config.storePath).mapError EngineError.storeIo
  let artifacts ← (Artifacts.create disk config.screenshots).mapError EngineError.artifact
  return {
    engine := { store, artifacts, options := .ofSettings config.engine }
    now
    settings := config.browser
    actionTimeout := .ofSeconds config.engine.stepTimeoutSeconds
    cache
    script }

/-- All commands so far. -/
def received (machine : Machine) : List Bridge.Request :=
  machine.past ++ (machine.talk.map fun talk => talk.far.received).getD []

/-- The content of the file that a path leads to. -/
def read (machine : Machine) (path : String) : Except IoError Bytes :=
  machine.engine.artifacts.disk.read (Path.join machine.directory path)

/-- Changes the engine. -/
def change (machine : Machine) (step : Engine → Engine) : Machine :=
  { machine with engine := step machine.engine }

/-- Ends the session of the run in progress. -/
def hangUp (machine : Machine) : Machine :=
  { machine with past := machine.received, talk := none }

/-- The bridge was started, or was not. -/
def launched (machine : Machine) (number : Nat) (outcome : Except SessionError Talk) : Machine :=
  let ended := { machine with talk := outcome.toOption }
  ended.change fun engine => engine.launched number (outcome.map fun _ => ()) machine.now

/-- Launches the browser of a task; a silent bridge fails only when time passes. -/
def launch (machine : Machine) (waits : Bool) (number : Nat) (browser : Browser) :
    Option Machine :=
  match machine.script with
  | none => some (machine.launched number (.error (missingProgram machine.settings)))
  | some script =>
    match Talk.launch script machine.settings machine.actionTimeout with
    | some outcome => some (machine.launched number outcome)
    | none =>
      if waits then some (machine.launched number (.error (lateLaunch browser))) else none

/-- How an action ends, given what the bridge answered. -/
def endingOf (answer : Except SessionError Unit) : ActEnding :=
  match answer with
  | .ok _ => .done
  | .error error => .failed error

/-- Carries out the action of a step. -/
def act (machine : Machine) (waits : Bool) (number : Nat) (action : Action) : Option Machine :=
  match machine.talk with
  | none => some (machine.change fun engine => engine.acted number (.failed .closed))
  | some talk =>
    let (answer, talk) := talk.execute action
    let machine := { machine with talk := some talk }
    match answer with
    | some answer => some (machine.change fun engine => engine.acted number (endingOf answer))
    | none =>
      if waits then some (machine.change fun engine => engine.acted number .timedOut) else none

/-- Takes the screenshot of a step. -/
def photograph (machine : Machine) (waits : Bool) (number : Nat) : Option Machine :=
  let take (machine : Machine) (picture : Option Bytes) : Option Machine :=
    some (machine.change fun engine => engine.photographed number picture machine.now)
  match machine.talk with
  | none => take machine none
  | some talk =>
    let (answer, talk) := talk.screenshot
    let machine := { machine with talk := some talk }
    match answer with
    | some answer => take machine answer.toOption
    | none => if waits then take machine none else none

/-- Closes the browser of a task. -/
def close (machine : Machine) (number : Nat) : Machine :=
  let closed := { machine with talk := machine.talk.map Talk.close }
  closed.hangUp.change fun engine => engine.closed number machine.now

/-- Takes a task one stage further, unless it is over or the bridge is silent. -/
def advance (machine : Machine) (waits : Bool) (number : Nat) : Option Machine :=
  match machine.engine.task? number with
  | none => none
  | some task =>
    match task.stage with
    | .launching => machine.launch waits number task.run.browser
    | .ready _ => some (machine.change fun engine => engine.advance number machine.now)
    | .acting _ action _ => machine.act waits number action
    | .photographing _ _ _ => machine.photograph waits number
    | .storing _ _ _ _ => some (machine.change fun engine => engine.stored number machine.now)
    | .closing _ => some (machine.close number)
    | .ended _ | .panicked => none

/-- Takes a task a number of stages further. -/
def advanceBy (waits : Bool) (number : Nat) : Nat → Machine → Machine
  | 0, machine => machine
  | stages + 1, machine =>
    match machine.advance waits number with
    | some machine => advanceBy waits number stages machine
    | none => machine

/-- More stages than a task can have. -/
def stageBound (machine : Machine) (number : Nat) : Nat :=
  match machine.engine.task? number with
  | some task => 4 * task.steps.length + 8
  | none => 0

/-- Takes a task as far as it goes. -/
def drive (machine : Machine) (waits : Bool) (number : Nat) : Machine :=
  advanceBy waits number (machine.stageBound number) machine

/-- Takes all tasks as far as they go. -/
def driveAll (machine : Machine) (waits : Bool) : Machine :=
  (List.range machine.engine.tasks.length).foldl (fun machine => machine.drive waits) machine

/-- Ends an attempt to install an engine; the program for it is missing. -/
def failAttempt (machine : Machine) (attempt : Nat) : Machine :=
  machine.change fun engine =>
    match engine.installs.opened? attempt with
    | none => engine
    | some browser =>
      let begun := engine.installs.beginAttempt attempt
      { engine with installs := begun.endAttempt attempt (Npx.outcome browser .missing []) }

/-- Brings about what an activity waits for. -/
def bringAbout (machine : Machine) : Wait → Machine
  | .attempt number => machine.failAttempt number
  | .task number => machine.drive true number
  | .idle => machine.driveAll true
  | .moment _ => machine

/-- Carries out an activity from its start to its end. -/
def carryOut {α : Type} (machine : Machine) : Activity α → α × Machine
  | .done value => (value, machine)
  | .act step next =>
    carryOut (machine.change (step machine.now)) (next machine.now machine.engine)
  | .probe browser next => carryOut machine (next (browser.isInstalledIn machine.cache))
  | .readFile path next => carryOut machine (next (machine.read path))
  | .time next => carryOut machine (next 0)
  | .await event _ next => carryOut (machine.bringAbout event) next

end Machine

end StepRunner.Rehearsal
