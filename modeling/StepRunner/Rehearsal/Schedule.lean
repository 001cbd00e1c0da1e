import StepRunner.Rehearsal.World

/-!
This file acts out a play.
One activity goes on at a time; when all of them wait, the clock jumps to the next moment that
somebody waits for.
-/

namespace StepRunner.Rehearsal

namespace World

variable {Line Answer : Type}

/-- Carries an activity on to its end or to its next wait. -/
def carry {α : Type} (world : World Line Answer) :
    Activity α → (Activity α ⊕ α) × World Line Answer
  | .done value => (.inr value, world)
  | .act step next =>
    carry (world.change (step world.now)).enlist (next world.now world.engine)
  | .probe browser next =>
    let (found, world) := world.probe browser
    carry world (next found)
  | .readFile path next => carry world (next (world.engine.artifacts.disk.read path))
  | .time next => carry world (next world.time)
  | .await event dropped next =>
    if event.isOver world.time world.engine then carry world next
    else (.inl (.await event dropped next), world)

/-- Carries activities on, one after the other. -/
def carryEach (world : World Line Answer) :
    List (Activity Answer) → List (Activity Answer) × World Line Answer
  | [] => ([], world)
  | activity :: rest =>
    let (state, world) := world.carry activity
    let (states, world) := world.carryEach rest
    let state := match state with
      | .inl waiting => waiting
      | .inr value => .done value
    (state :: states, world)

/-- The value of an activity that is over. -/
def valueOf? {α : Type} : Activity α → Option α
  | .done value => some value
  | _ => none

/-- Carries an ensemble on; its answer is there when all its activities are over. -/
def carryEnsemble (world : World Line Answer) (ensemble : Ensemble Answer) :
    (Ensemble Answer ⊕ Answer) × World Line Answer :=
  let (activities, world) := world.carryEach ensemble.activities
  match activities.mapM valueOf? with
  | some values => (.inr (ensemble.collect values), world)
  | none => (.inl { ensemble with activities }, world)

/-- An activity ends where it waits. -/
def dropActivity {α : Type} (world : World Line Answer) (activity : Activity α) :
    World Line Answer :=
  match activity with
  | .await _ dropped _ => world.change dropped
  | _ => world

/-- An ensemble ends where it waits. -/
def dropEnsemble (world : World Line Answer) (ensemble : Ensemble Answer) : World Line Answer :=
  ensemble.activities.foldl dropActivity world

/-- Begins what a line asks for. -/
def begin (world : World Line Answer) :
    Act Line Answer → (Ensemble Answer ⊕ Answer) × World Line Answer
  | .carry ensemble => world.carryEnsemble ensemble
  | .glance activity waiting =>
    match world.carry activity with
    | (.inr value, world) => (.inr value, world)
    | (.inl activity, world) => (.inr waiting, world.dropActivity activity)
  | .direct step =>
    let (answer, world) := step world
    (.inr answer, world)

end World

/-- How the lines of a play are read; their names are only known when their turn comes. -/
abbrev Cast (Line Answer : Type) := Cover → Line → Act Line Answer

/-- How a call stands after its turn. -/
inductive Turn (Line Answer : Type) where
  | waiting (call : Call Line Answer)
  | over (deed : Deed)
  | expired

namespace World

variable {Line Answer : Type}

/-- Acts out lines up to one that waits. -/
def actLines (cast : Cast Line Answer) (label : String) (world : World Line Answer) :
    List Line → (Option (Ensemble Answer) × List Line) × World Line Answer
  | [] => ((none, []), world)
  | line :: rest =>
    let world := world.look
    match world.begin (cast world.cover line) with
    | (.inr answer, world) => actLines cast label (world.note label answer).look rest
    | (.inl ensemble, world) => ((some ensemble, rest), world)

/-- Goes on with the line of a call that is being acted out, and then with the other lines. -/
def actCall (cast : Cast Line Answer) (world : World Line Answer) (call : Call Line Answer) :
    Call Line Answer × World Line Answer :=
  let label := call.purpose.label
  let resume (world : World Line Answer) : Call Line Answer × World Line Answer :=
    let ((present, lines), world) := world.actLines cast label call.behaviour.lines
    ({ call with present, behaviour := { call.behaviour with lines } }, world)
  match call.present with
  | none => resume world
  | some ensemble =>
    match world.carryEnsemble ensemble with
    | (.inl ensemble, world) => ({ call with present := some ensemble }, world)
    | (.inr answer, world) => resume (world.note label answer).look

/-- A call whose caller gives up ends where it waits. -/
def expire (world : World Line Answer) (call : Call Line Answer) :
    Turn Line Answer × World Line Answer :=
  if call.deadline.any (· ≤ world.time) then
    (.expired, match call.present with
      | some ensemble => world.dropEnsemble ensemble
      | none => world)
  else (.waiting call, world)

/-- Gives a call its turn: its lines first, then its deed; a deed in time comes before the end. -/
def turn (cast : Cast Line Answer) (world : World Line Answer) (call : Call Line Answer) :
    Turn Line Answer × World Line Answer :=
  let (call, world) := world.actCall cast call
  if call.present.isSome then world.expire call
  else
    let due := call.due.getD (world.time + call.behaviour.delay)
    let call := { call with due := some due }
    if call.behaviour.deed ≠ .hang ∧ due ≤ world.time then (.over call.behaviour.deed, world)
    else world.expire call

/-- The outcome of a call that gives nothing but success or an error. -/
def outcomeOf (deed : Deed) : Except SessionError Unit :=
  match deed with
  | .fail error => .error error
  | _ => .ok ()

/-- The picture that a screenshot gives. -/
def pictureOf (deed : Deed) : Option Bytes :=
  match deed with
  | .succeed => some fakePicture
  | .picture content => some content
  | _ => none

/-- Ends an install. -/
def endInstall (world : World Line Answer) (attempt : Nat) (browser : Browser) (deed : Deed) :
    World Line Answer :=
  match deed with
  | .panic =>
    world.change fun engine => { engine with installs := engine.installs.panicAttempt attempt }
  | deed =>
    let result := (outcomeOf deed).mapError SessionError.message
    let installed := match result with
      | .ok _ => { world with host := world.host.install browser }
      | .error _ => world
    installed.change fun engine =>
      { engine with installs := engine.installs.endAttempt attempt result }

/-- Tells the caller how a call ended. -/
def conclude (world : World Line Answer) (purpose : Purpose) (deed : Deed) : World Line Answer :=
  match purpose, deed with
  | .install attempt browser, deed => world.endInstall attempt browser deed
  | .launch task _, .panic | .execute task _, .panic | .screenshot task, .panic
  | .close task, .panic => world.change (·.brokeDown task)
  | .launch task _, deed =>
    world.change fun engine => engine.launched task (outcomeOf deed) world.now
  | .execute task _, deed =>
    world.change fun engine => engine.acted task <|
      match outcomeOf deed with
      | .ok _ => .done
      | .error error => .failed error
  | .screenshot task, deed =>
    world.change fun engine => engine.photographed task (pictureOf deed) world.now
  | .close task, _ => world.change fun engine => engine.closed task world.now

/-- Tells the caller that it gave a call up. -/
def giveUp (world : World Line Answer) (purpose : Purpose) : World Line Answer :=
  match purpose with
  | .execute task _ => world.change fun engine => engine.acted task .timedOut
  | .screenshot task => world.change fun engine => engine.photographed task none world.now
  | _ => world

/-- Gives the call of a player its turn; tells whether the player can go on. -/
def playCall (cast : Cast Line Answer) (world : World Line Answer) (call : Call Line Answer) :
    Bool × World Line Answer :=
  match world.turn cast call with
  | (.waiting call, world) => (false, world.hold call)
  | (.over deed, world) =>
    (true, ((world.hangUp call.purpose.player).conclude call.purpose deed).enlist)
  | (.expired, world) =>
    (true, ((world.hangUp call.purpose.player).giveUp call.purpose).enlist)

/-- The time at which a caller gives up that waits for a span. -/
def deadlineAfter (world : World Line Answer) (span : Duration) : Nat :=
  world.time + span.timerTicks

/-- Makes the next call of a task, or does what needs no call. -/
def playStage (world : World Line Answer) (number : Nat) (task : RunTask) :
    Option (World Line Answer) :=
  match task.stage with
  | .launching =>
    let browser := task.run.browser
    let call : Call Line Answer :=
      { purpose := .launch number browser, behaviour := world.plan.launch }
    some { world.hold call with
      executed := world.executed ++ [.launched browser]
      shot := {} }
  | .ready _ => some (world.change fun engine => engine.advance number world.now)
  | .acting _ action _ =>
    let plan := world.plan.action action
    let call : Call Line Answer :=
      { purpose := .execute number action
        behaviour := plan.act
        deadline := task.limit?.map world.deadlineAfter }
    some { world.hold call with
      executed := world.executed ++ [.action action]
      shot := plan.shot }
  | .photographing _ _ _ =>
    let call : Call Line Answer :=
      { purpose := .screenshot number
        behaviour := world.shot
        deadline := task.limit?.map world.deadlineAfter }
    some { world.hold call with shot := {} }
  | .storing _ _ _ _ => some (world.change fun engine => engine.stored number world.now)
  | .closing _ =>
    some (world.hold { purpose := .close number, behaviour := world.plan.close })
  | .ended _ | .panicked => none

/-- Makes the call of an attempt to install an engine. -/
def playAttempt (world : World Line Answer) (attempt : Nat) : Option (World Line Answer) :=
  match world.engine.installs.opened? attempt with
  | none => none
  | some browser =>
    let (behaviour, host) := world.host.begin browser
    let begun := { world with host }.change fun engine =>
      { engine with installs := engine.installs.beginAttempt attempt }
    some (begun.hold { purpose := .install attempt browser, behaviour })

/-- Takes one player one piece further; tells whether the player can go on. -/
def play (cast : Cast Line Answer) (world : World Line Answer) (player : Player) :
    Bool × World Line Answer :=
  match world.callOf? player with
  | some call => world.playCall cast call
  | none =>
    let next := match player with
      | .attempt number => world.playAttempt number
      | .task number => (world.engine.task? number).bind (world.playStage number)
    match next with
    | some world => (true, world)
    | none => (false, world)

/-- Takes one player as far as it goes; tells whether it got anywhere. -/
def playOn (cast : Cast Line Answer) (player : Player) :
    Nat → World Line Answer → Bool × World Line Answer
  | 0, world => (false, world)
  | pieces + 1, world =>
    match world.play cast player with
    | (false, world) => (false, world)
    | (true, world) => (true, (playOn cast player pieces world).2)

/-- More pieces than a player can have. -/
def pieceBound (world : World Line Answer) (player : Player) : Nat :=
  match player with
  | .attempt _ => 4
  | .task number =>
    match world.engine.task? number with
    | some task => 8 * task.steps.length + 16
    | none => 0

/-- Takes every player as far as it goes; tells whether one of them got anywhere. -/
def playAll (cast : Cast Line Answer) (world : World Line Answer) : Bool × World Line Answer :=
  world.players.foldl
    (fun (moved, world) player =>
      let (went, world) := world.playOn cast player (world.pieceBound player)
      (moved || went, world))
    (false, world)

/-- Takes the players as far as they go, again and again; tells whether one got anywhere. -/
def playRounds (cast : Cast Line Answer) : Nat → World Line Answer → Bool × World Line Answer
  | 0, world => (false, world)
  | rounds + 1, world =>
    match world.playAll cast with
    | (false, world) => (false, world)
    | (true, world) => (true, (playRounds cast rounds world).2)

/-- More rounds than a line of a play takes. -/
def roundBound : Nat := 1000000

/-- The moments that activities wait for. -/
def momentsOf (activities : List (Activity Answer)) : List Nat :=
  activities.filterMap fun activity =>
    match activity with
    | .await (.moment milliseconds) _ _ => some milliseconds
    | _ => none

/-- The moments that a call waits for. -/
def callMoments (call : Call Line Answer) : List Nat :=
  let deed := if call.behaviour.deed = .hang then [] else call.due.toList
  deed ++ call.deadline.toList ++
    (call.present.map fun ensemble => momentsOf ensemble.activities).getD []

/-- The next moment that somebody waits for. -/
def nextMoment? (world : World Line Answer) (ensemble : Ensemble Answer) : Option Nat :=
  let moments := momentsOf ensemble.activities ++ world.calls.flatMap callMoments
  (moments.filter fun moment => world.time < moment).min?

/--
Waits until an ensemble is over.
The ensemble has its turn when all players are stuck, and the clock moves when it is stuck too.
Without a moment to wait for there is no answer.
-/
def wait (cast : Cast Line Answer) :
    Nat → World Line Answer → Ensemble Answer → Option Answer × World Line Answer
  | 0, world, _ => (none, world)
  | rounds + 1, world, ensemble =>
    match world.carryEnsemble ensemble with
    | (.inr answer, world) => (some answer, world)
    | (.inl ensemble, world) =>
      match world.playRounds cast roundBound with
      | (true, world) => wait cast rounds world ensemble
      | (false, world) =>
        match world.nextMoment? ensemble with
        | some moment => wait cast rounds { world with time := moment } ensemble
        | none => (none, world)

/-- Acts out one line of a play and gives its answer. -/
def perform (cast : Cast Line Answer) (world : World Line Answer) (line : Line) :
    Option Answer × World Line Answer :=
  let world := world.turnPage.look
  match world.begin (cast world.cover line) with
  | (.inr answer, world) => (some answer, world.look)
  | (.inl ensemble, world) =>
    let (answer, world) := wait cast roundBound world ensemble
    (answer, world.look)

end World

end StepRunner.Rehearsal
