import StepRunner.Catalog.Bus
import StepRunner.Engine.Activity
import StepRunner.Rehearsal.Names
import StepRunner.Rehearsal.Plan

/-!
This file defines the world of a rehearsal: an engine, a scripted host and browser, and the calls
to them that are under way.
-/

namespace StepRunner.Rehearsal

/-- Activities that go on side by side, and the answer that is made of their values. -/
structure Ensemble (Answer : Type) where
  activities : List (Activity Answer)
  collect : List Answer → Answer

/-- What somebody calls the browser or the installer for. -/
inductive Purpose where
  | launch (task : Nat) (browser : Browser)
  | execute (task : Nat) (action : Action)
  | screenshot (task : Nat)
  | close (task : Nat)
  | install (attempt : Nat) (browser : Browser)
  deriving DecidableEq, Repr

namespace Purpose

/-- The label of a call in the answers. -/
def label : Purpose → String
  | launch _ _ => "launch"
  | execute _ action => "execute " ++ actionKey action
  | screenshot _ => "screenshot"
  | close _ => "close"
  | install _ browser => "install " ++ browser.name

/-- The error of a call that fails without saying how. -/
def usualError (reason : String) : Purpose → SessionError
  | launch _ _ => .launch reason
  | screenshot _ => .screenshot reason
  | _ => .action reason

end Purpose

/-- Those who make calls: the tasks of runs and the attempts to install an engine. -/
inductive Player where
  | task (number : Nat)
  | attempt (number : Nat)
  deriving DecidableEq, Repr

/-- Who makes a call. -/
def Purpose.player : Purpose → Player
  | .launch number _ | .execute number _ | .screenshot number | .close number => .task number
  | .install number _ => .attempt number

/-- A call under way. -/
structure Call (Line Answer : Type) where
  purpose : Purpose
  behaviour : Behaviour Line
  /-- The line of the behaviour that is being acted out. -/
  present : Option (Ensemble Answer) := none
  /-- The time of the deed, once all lines are over. -/
  due : Option Nat := none
  /-- The time at which the caller gives up. -/
  deadline : Option Nat := none

/-- The world of a rehearsal. -/
structure World (Line Answer : Type) where
  engine : Engine
  /-- The place of the scratch directory. -/
  directory : String
  now : Int
  /-- The clock of the schedule in milliseconds. -/
  time : Nat := 0
  names : Names := {}
  host : Host Line := {}
  plan : Plan Line := {}
  executed : List Executed := []
  /-- How the next screenshot behaves. -/
  shot : Behaviour Line := {}
  /-- Everybody who makes calls, in the order of their appearance. -/
  players : List Player := []
  calls : List (Call Line Answer) := []
  /-- The answers to lines of behaviours, each with the label of its call. -/
  during : List (String × Answer) := []
  /-- How many events were there when the present line began. -/
  oldEvents : Nat := 0
  /-- How many events of installs were there when the present line began. -/
  oldInstalls : Nat := 0

/-- What a line of a play asks for. -/
inductive Act (Line Answer : Type) where
  /-- Carries out activities side by side and waits for all of them. -/
  | carry (ensemble : Ensemble Answer)
  /-- Carries out an activity up to its first wait and drops it there. -/
  | glance (activity : Activity Answer) (waiting : Answer)
  /-- Changes the world. -/
  | direct (step : World Line Answer → Answer × World Line Answer)

namespace World

variable {Line Answer : Type}

/-- Changes the engine. -/
def change (world : World Line Answer) (step : Engine → Engine) : World Line Answer :=
  { world with engine := step world.engine }

/-- Names the rows that appeared. -/
def look (world : World Line Answer) : World Line Answer :=
  { world with names := world.names.see world.engine.store.tables }

/-- What hides behind the names at present. -/
def cover (world : World Line Answer) : Cover :=
  .ofTime world.names world.directory world.now

/-- Notices who has begun to make calls. -/
def enlist (world : World Line Answer) : World Line Answer :=
  let attempts := (List.range world.engine.installs.attempts.length).map Player.attempt
  let tasks := (List.range world.engine.tasks.length).map Player.task
  let fresh := (attempts ++ tasks).filter fun player => !world.players.contains player
  { world with players := world.players ++ fresh }

/-- The call that a player makes. -/
def callOf? (world : World Line Answer) (player : Player) : Option (Call Line Answer) :=
  world.calls.find? fun call => call.purpose.player = player

/-- Forgets the call of a player. -/
def hangUp (world : World Line Answer) (player : Player) : World Line Answer :=
  { world with calls := world.calls.filter fun call => call.purpose.player ≠ player }

/-- Keeps the call of a player. -/
def hold (world : World Line Answer) (call : Call Line Answer) : World Line Answer :=
  { world.hangUp call.purpose.player with
    calls := (world.hangUp call.purpose.player).calls ++ [call] }

/-- Records the answer to a line of a behaviour. -/
def note (world : World Line Answer) (label : String) (answer : Answer) : World Line Answer :=
  { world with during := world.during ++ [(label, answer)] }

/-- Asks the host for a browser engine. -/
def probe (world : World Line Answer) (browser : Browser) : Bool × World Line Answer :=
  let (found, host) := world.host.probe browser
  (found, { world with host })

/-- Sets what the host finds from now on. -/
def setInstalled (world : World Line Answer) (installed : PerBrowser Bool) :
    World Line Answer :=
  { world with host := { world.host with installed } }

/-- Takes what the browser was asked to do so far. -/
def takeExecuted (world : World Line Answer) : List Executed × World Line Answer :=
  (world.executed, { world with executed := [] })

/-- Begins a new line: what happened before is not reported again. -/
def turnPage (world : World Line Answer) : World Line Answer :=
  { world with
    during := []
    oldEvents := world.engine.events.length
    oldInstalls := world.engine.installs.events.length }

/-- What an observer gets of the events of the present line. -/
def freshEvents (world : World Line Answer) : List (Reception RunEvent) :=
  Bus.receiveAll world.engine.events world.oldEvents

/-- What an observer gets of the events of installs of the present line. -/
def freshInstalls (world : World Line Answer) : List (Reception InstallEvent) :=
  Bus.receiveAll world.engine.installs.events world.oldInstalls

/-- Opens the store again, with its rows or empty, for a fresh engine. -/
def reopen (world : World Line Answer) (keepsRows : Bool) : World Line Answer :=
  let tables := if keepsRows then world.engine.store.tables else {}
  { world with
    engine :=
      { store := world.engine.store.withTables tables
        artifacts := world.engine.artifacts
        options := world.engine.options }
    players := []
    calls := []
    oldEvents := 0
    oldInstalls := 0 }

end World

end StepRunner.Rehearsal
