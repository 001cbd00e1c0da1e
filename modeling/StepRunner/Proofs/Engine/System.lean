import StepRunner.Engine.Activity

/-!
This file lets runs, starts and operations on the catalogue take turns on one engine.
A turn is the code between two waits of one of them, and the next turn may belong to any other.
A history is any list of turns.
The browser of each run may answer each call late, with any outcome, or never.
-/

namespace StepRunner

/-- The answer of the browser to a call. -/
structure Reply (α : Type) where
  /-- The ticks of the clock, in milliseconds, between the call and the answer. -/
  ticks : Nat
  outcome : Except SessionError α

/-- What a caller gets that gives up after a limit; without a reply the browser never answers. -/
def Reply.within? {α : Type} (limit : Option Duration) (reply : Option (Reply α)) :
    Option (Except SessionError α) :=
  match reply with
  | none => none
  | some reply =>
    if limit.all fun span => reply.ticks ≤ span.timerTicks then some reply.outcome else none

/-- How the browser behaves in a run; the calls of a step have the number of the step. -/
structure Session where
  launch : Except SessionError Unit
  act : Nat → Option (Reply Unit)
  photograph : Nat → Option (Reply Bytes)

/-- A browser that carries out every action at once and never takes a screenshot. -/
def Session.prompt : Session := ⟨.ok (), fun _ => some ⟨0, .ok ()⟩, fun _ => none⟩

/-- How an action ends for a caller that waited for its outcome. -/
def ActEnding.ofOutcome? : Option (Except SessionError Unit) → ActEnding
  | some (.ok _) => .done
  | some (.error error) => .failed error
  | none => .timedOut

/-- Takes the task of a run from one stage to the next, as its browser answers. -/
def Engine.proceed (engine : Engine) (session : Session) (number : Nat) (now : Int) : Engine :=
  match engine.task? number with
  | none => engine
  | some task =>
    match task.stage with
    | .launching => engine.launched number session.launch now
    | .ready _ => engine.advance number now
    | .acting result _ _ =>
      engine.acted number (.ofOutcome? (Reply.within? task.limit? (session.act result.order)))
    | .photographing result _ _ =>
      let picture := Reply.within? task.limit? (session.photograph result.order)
      engine.photographed number (picture.bind Except.toOption) now
    | .storing _ _ _ _ => engine.stored number now
    | .closing _ => engine.closed number now
    | .ended _ | .panicked => engine

/-- An engine together with the starts that wait for a browser engine. -/
structure System where
  engine : Engine
  waiting : List StartCall := []

/-- What somebody does in a turn. -/
inductive Move where
  /-- Begins a start, up to its wait for the browser engine. -/
  | begin (testCaseId : String) (browser : Browser) (options : RunOptions)
  /-- Completes a start whose browser engine is installed or has failed to install. -/
  | conclude (index : Nat) (installed : Except String Unit)
  /-- Drops a start while it waits. -/
  | abandon (index : Nat)
  /-- Takes the task of a run to its next stage. -/
  | proceed (number : Nat)
  /-- The browser of a run breaks down and takes the task with it. -/
  | breakDown (number : Nat)
  | cancel (runId : String)
  | createProject (name : String)
  | createTestCase (projectId title : String) (lines : List String)
  | updateSteps (testCaseId : String) (lines : List String)
  | deleteProject (id : String)
  | deleteTestCase (id : String)
  /-- Reads a rendition of a screenshot. -/
  | read (path : String) (variant : Variant)
  /-- Changes what is known about the browser engines. -/
  | install (change : Installs → Installs)

/-- A move at an instant. -/
structure Turn where
  now : Int
  move : Move

/-- No browser breaks down in a turn. -/
def Turn.isCalm (turn : Turn) : Bool :=
  match turn.move with
  | .breakDown _ => false
  | _ => true

/-- The task with a number proceeds in a turn. -/
def Turn.proceeds (number : Nat) (turn : Turn) : Bool :=
  match turn.move with
  | .proceed other => other = number
  | _ => false

/-- A start that waits is completed or dropped in a turn. -/
def Turn.settles (turn : Turn) : Bool :=
  match turn.move with
  | .conclude _ _ | .abandon _ => true
  | _ => false

namespace System

/-- A new engine on a store. -/
def opened (store : Store) (artifacts : Artifacts) (options : RunOptions) : System where
  engine := { store, artifacts, options }

/-- Changes the engine. -/
def change (system : System) (step : Engine → Engine) : System :=
  { system with engine := step system.engine }

variable (sessions : Nat → Session)

/-- Carries out a turn; the browser of the task with a number behaves as its session says. -/
def step (system : System) (turn : Turn) : System :=
  match turn.move with
  | .begin testCaseId browser options =>
    match system.engine.prepare testCaseId browser options with
    | .ok (call, engine) => ⟨engine, system.waiting ++ [call]⟩
    | .error _ => system
  | .conclude index installed =>
    match system.waiting[index]? with
    | some call =>
      ⟨(system.engine.conclude call installed turn.now).2, system.waiting.eraseIdx index⟩
    | none => system
  | .abandon index =>
    match system.waiting[index]? with
    | some call => ⟨system.engine.abandon call, system.waiting.eraseIdx index⟩
    | none => system
  | .proceed number => system.change (·.proceed (sessions number) number turn.now)
  | .breakDown number => system.change (·.brokeDown number)
  | .cancel runId => system.change fun engine => (engine.cancel runId).2
  | .createProject name => system.change fun engine => (engine.createProject turn.now name).2
  | .createTestCase projectId title lines =>
    system.change fun engine => (engine.createTestCase turn.now projectId title lines).2
  | .updateSteps testCaseId lines =>
    system.change fun engine => (engine.updateSteps turn.now testCaseId lines).2
  | .deleteProject id => system.change fun engine => (engine.deleteProject id).2
  | .deleteTestCase id => system.change fun engine => (engine.deleteTestCase id).2
  | .read path variant =>
    system.change fun engine =>
      { engine with artifacts := (engine.artifacts.read path variant).2 }
  | .install change =>
    system.change fun engine => { engine with installs := change engine.installs }

/--
A start takes turns of the system.
It begins, waits until its browser engine is installed, and concludes; or it is dropped meanwhile.
-/
theorem start_eq (testCaseId : String) (browser : Browser) (options : RunOptions) :
    Engine.start testCaseId browser options =
      .act (fun now engine =>
          (step sessions ⟨engine, []⟩ ⟨now, .begin testCaseId browser options⟩).engine)
        fun _ engine =>
          match engine.prepare testCaseId browser options with
          | .error error => .done (.error error)
          | .ok (call, _) =>
            (Engine.ensureInstalled browser fun engine =>
                (step sessions ⟨engine, [call]⟩ ⟨0, .abandon 0⟩).engine).bind fun installed =>
              .act (fun now engine =>
                  (step sessions ⟨engine, [call]⟩
                    ⟨now, .conclude 0 (installed.map fun _ => ())⟩).engine)
                fun now engine =>
                  .done (engine.conclude call (installed.map fun _ => ()) now).1 := by
  simp only [Engine.start, bind, Activity.perform, Activity.bind]
  congr 1
  · funext now engine
    simp only [step]
    cases engine.prepare testCaseId browser options with
    | error fault => rfl
    | ok claim => rfl
  · funext now engine
    cases engine.prepare testCaseId browser options with
    | error fault => rfl
    | ok claim => rfl

/-- The system after a history. -/
def after (system : System) (history : List Turn) : System :=
  history.foldl (step sessions) system

section Sample

/-- Options that are fit for every run. -/
def sampleOptions : RunOptions := ⟨false, .ofSeconds 5⟩

/-- Creates a test case with one step. -/
def sampleCreation : List Turn :=
  [⟨0, .createProject "Shop"⟩, ⟨0, .createTestCase (Store.idOf 0) "Login" ["Click \"Login\""]⟩]

/-- Creates a test case with one step and begins a start of it. -/
def sampleClaim : List Turn :=
  sampleCreation ++ [⟨1, .begin (Store.idOf 1) .chromium sampleOptions⟩]

/-- Creates a test case with one step and starts a run of it. -/
def sampleStart : List Turn := sampleClaim ++ [⟨2, .conclude 0 (.ok ())⟩]

/-- Starts a run and lets it come to the action of its step. -/
def sampleAction : List Turn := sampleStart ++ List.replicate 2 ⟨3, .proceed 0⟩

/-- Lets the browser of a run break down within a step. -/
def sampleBreakDown : List Turn := sampleAction ++ [⟨4, .breakDown 0⟩]

/-- Lets the task of the first run proceed as often as a run of one step needs. -/
def sampleTurns : List Turn := List.replicate 7 ⟨3, .proceed 0⟩

/-- Runs the test case to its end. -/
def sampleRun : List Turn := sampleStart ++ sampleTurns

/-- The engine after some turns on a new store, where all browsers are prompt. -/
def sample (history : List Turn) : System :=
  (opened {} default sampleOptions).after (fun _ => .prompt) history

end Sample

end System

end StepRunner
