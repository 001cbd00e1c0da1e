import StepRunner.Engine.Activity
import StepRunner.Proofs.Installs.Attempts

/-!
This file lets callers that need an engine, refreshes and attempts to install take turns.
A turn is the code between two waits of one of them, and a history is any list of turns.
All callers of an engine share one attempt at a time.
-/

namespace StepRunner

namespace Activity

variable {α : Type}

/-- Acts on the engine up to the next question or wait. -/
def advance (now : Int) : Activity α → Engine → Activity α × Engine
  | act change next, engine => (next now engine).advance now (change now engine)
  | activity, engine => (activity, engine)

/-- Goes on with the answer of the host, or after a wait that is over. -/
def resume (now : Int) (found : Bool) : Activity α → Engine → Activity α × Engine
  | probe _ next, engine => (next found).advance now engine
  | await event dropped next, engine =>
    if event.isOver 0 engine then next.advance now engine else (await event dropped next, engine)
  | activity, engine => (activity, engine)

/-- The attempt that an activity waits for. -/
def awaited? : Activity α → Option Nat
  | await (.attempt number) _ _ => some number
  | _ => none

end Activity

/-- A caller that needs an engine. -/
structure Caller where
  browser : Browser
  activity : Activity (Except String InstallState)
  /-- The attempt that the caller has joined. -/
  joined : Option Nat

/-- An engine with all callers and refreshes so far. -/
structure Lobby where
  engine : Engine
  callers : List Caller
  refreshes : List (Activity (List InstallState))

namespace Lobby

/-- What somebody does in a turn. -/
inductive Move where
  /-- Somebody needs an engine. -/
  | call (browser : Browser)
  /-- A caller goes on; if it has asked the host, the answer has come. -/
  | goOn (caller : Nat) (found : Bool)
  | refresh
  /-- A refresh goes on with the answer of the host. -/
  | lookOn (refresh : Nat) (found : Bool)
  /-- The task of an attempt calls the installer. -/
  | begin (attempt : Nat)
  /-- The installer comes to an end. -/
  | finish (attempt : Nat) (result : Except String Unit)
  /-- The installer panics. -/
  | panic (attempt : Nat)

/-- A move at an instant. -/
structure Turn where
  now : Int
  move : Move

/-- A refresh begins or goes on in a turn. -/
def Turn.refreshes (turn : Turn) : Bool :=
  match turn.move with
  | .refresh | .lookOn _ _ => true
  | _ => false

/-- An engine where nobody has asked for anything yet. -/
def fresh (engine : Engine) : Lobby := ⟨{ engine with installs := {} }, [], []⟩

/-- What is known about the engines. -/
def installs (lobby : Lobby) : Installs := lobby.engine.installs

/-- Changes what is known about the engines. -/
def change (lobby : Lobby) (step : Installs → Installs) : Lobby :=
  { lobby with engine := { lobby.engine with installs := step lobby.installs } }

/-- Carries out a turn. -/
def step (lobby : Lobby) (turn : Turn) : Lobby :=
  match turn.move with
  | .call browser =>
    let (activity, engine) :=
      (Engine.ensureInstalled browser id).advance turn.now lobby.engine
    { lobby with engine, callers := lobby.callers ++ [⟨browser, activity, activity.awaited?⟩] }
  | .goOn index found =>
    match lobby.callers[index]? with
    | none => lobby
    | some caller =>
      let (activity, engine) := caller.activity.resume turn.now found lobby.engine
      let caller := { caller with activity, joined := activity.awaited?.or caller.joined }
      { lobby with engine, callers := lobby.callers.set index caller }
  | .refresh =>
    let (activity, engine) := Engine.refreshInstalls.advance turn.now lobby.engine
    { lobby with engine, refreshes := lobby.refreshes ++ [activity] }
  | .lookOn index found =>
    match lobby.refreshes[index]? with
    | none => lobby
    | some activity =>
      let (activity, engine) := activity.resume turn.now found lobby.engine
      { lobby with engine, refreshes := lobby.refreshes.set index activity }
  | .begin attempt => lobby.change (·.beginAttempt attempt)
  | .finish attempt result => lobby.change (·.endAttempt attempt result)
  | .panic attempt => lobby.change (·.panicAttempt attempt)

/-- The lobby after a history. -/
def after (lobby : Lobby) (history : List Turn) : Lobby :=
  history.foldl step lobby

end Lobby

namespace Engine

/-- What a caller does with the answer of the host. -/
def settleProbe (browser : Browser) (dropped : Engine → Engine) (found : Bool) :
    Activity (Except String InstallState) := do
  let answer ← Activity.perform fun _ => onInstalls (·.probed browser found)
  settleInstall browser dropped answer

theorem advance_settleInstall (browser : Browser) (dropped : Engine → Engine)
    (answer : InstallAnswer) (now : Int) (engine : Engine) :
    (settleInstall browser dropped answer).advance now engine =
      (settleInstall browser dropped answer, engine) := by
  cases answer <;> rfl

/-- The first piece of a caller: it asks what is known. -/
theorem advance_ensureInstalled (browser : Browser) (dropped : Engine → Engine) (now : Int)
    (engine : Engine) :
    (ensureInstalled browser dropped).advance now engine =
      ((match (engine.installs.ask browser).1 with
        | some answer => settleInstall browser dropped answer
        | none => .probe browser (settleProbe browser dropped)),
      { engine with installs := (engine.installs.ask browser).2 }) := by
  simp only [ensureInstalled, bind, Activity.perform, Activity.bind, Activity.advance, onInstalls]
  cases (engine.installs.ask browser).1 with
  | some answer => exact advance_settleInstall ..
  | none => rfl

/-- The second piece of a caller: it takes the answer of the host. -/
theorem advance_settleProbe (browser : Browser) (dropped : Engine → Engine) (found : Bool)
    (now : Int) (engine : Engine) :
    (settleProbe browser dropped found).advance now engine =
      (settleInstall browser dropped (engine.installs.probed browser found).1,
        { engine with installs := (engine.installs.probed browser found).2 }) := by
  simp only [settleProbe, bind, Activity.perform, Activity.bind, Activity.advance, onInstalls]
  exact advance_settleInstall ..

/-- A caller that waits for an attempt gets its answer once the attempt has an outcome. -/
theorem resume_wait_of_over {browser : Browser} {dropped : Engine → Engine} {number : Nat}
    {now : Int} {found : Bool} {engine : Engine}
    (settled : (engine.installs.outcome? number).isSome = true) :
    (settleInstall browser dropped (.wait number)).resume now found engine =
      (.done (engine.installs.joined browser number), engine) := by
  have isOver : (Wait.attempt number).isOver 0 engine = true := settled
  simp only [settleInstall, Activity.resume]
  rw [if_pos isOver]
  rfl

/-- Until then it waits. -/
theorem resume_wait_of_not_over {browser : Browser} {dropped : Engine → Engine} {number : Nat}
    {now : Int} {found : Bool} {engine : Engine}
    (waits : ¬(engine.installs.outcome? number).isSome = true) :
    (settleInstall browser dropped (.wait number)).resume now found engine =
      (settleInstall browser dropped (.wait number), engine) := by
  have isOver : ¬(Wait.attempt number).isOver 0 engine = true := waits
  simp only [settleInstall, Activity.resume]
  rw [if_neg isOver]

end Engine

section Refreshes

namespace Activity

variable {α β : Type}

/-- All that an activity may do to the engine is to record answers of the host. -/
def Records : Activity α → Prop
  | done _ => True
  | act change next => ∀ now engine,
    (change now engine = engine ∨ ∃ browser found,
      change now engine = { engine with installs := engine.installs.record browser found }) ∧
    (next now engine).Records
  | probe _ next => ∀ found, (next found).Records
  | readFile _ next => ∀ content, (next content).Records
  | time next => ∀ milliseconds, (next milliseconds).Records
  | await _ _ next => next.Records

theorem Records.bind {activity : Activity α} {next : α → Activity β} (records : activity.Records)
    (others : ∀ value, (next value).Records) : (activity.bind next).Records := by
  induction activity with
  | done value => exact others value
  | act change rest inductionHypothesis =>
    intro now engine
    exact ⟨(records now engine).1, inductionHypothesis now engine (records now engine).2⟩
  | probe _ rest inductionHypothesis =>
    exact fun found => inductionHypothesis found (records found)
  | readFile _ rest inductionHypothesis =>
    exact fun content => inductionHypothesis content (records content)
  | time rest inductionHypothesis =>
    exact fun milliseconds => inductionHypothesis milliseconds (records milliseconds)
  | await _ _ _ inductionHypothesis => exact inductionHypothesis records

/-- What every record keeps, a piece of an activity keeps that only records. -/
theorem Records.advance {activity : Activity α} (records : activity.Records)
    (now : Int) {kept : Installs → Prop}
    (record : ∀ installs browser found, kept installs → kept (installs.record browser found))
    {engine : Engine} (holds : kept engine.installs) :
    (activity.advance now engine).1.Records ∧ kept (activity.advance now engine).2.installs := by
  induction activity generalizing engine with
  | act change next inductionHypothesis =>
    obtain ⟨same | ⟨browser, found, recorded⟩, others⟩ := records now engine
    · exact inductionHypothesis now engine others (same.symm ▸ holds)
    · refine inductionHypothesis now engine others ?_
      rw [recorded]
      exact record _ browser found holds
  | done value => exact ⟨records, holds⟩
  | probe browser next => exact ⟨records, holds⟩
  | readFile path next => exact ⟨records, holds⟩
  | time next => exact ⟨records, holds⟩
  | await event dropped next => exact ⟨records, holds⟩

theorem Records.resume {activity : Activity α} (records : activity.Records)
    (now : Int) (found : Bool) {kept : Installs → Prop}
    (record : ∀ installs browser found, kept installs → kept (installs.record browser found))
    {engine : Engine} (holds : kept engine.installs) :
    (activity.resume now found engine).1.Records ∧
      kept (activity.resume now found engine).2.installs := by
  cases activity with
  | probe browser next => exact (records found).advance now record holds
  | await event dropped next =>
    simp only [Activity.resume]
    split
    · have others : next.Records := records
      exact others.advance now record holds
    · exact ⟨records, holds⟩
  | act change next => exact ⟨records, holds⟩
  | done value => exact ⟨records, holds⟩
  | readFile path next => exact ⟨records, holds⟩
  | time next => exact ⟨records, holds⟩

theorem records_look (view : Engine → α) : (look view).Records :=
  fun _ _ => ⟨.inl rfl, trivial⟩

end Activity

theorem Engine.records_probeAgain (browser : Browser) : (probeAgain browser).Records := by
  refine (Activity.records_look _).bind fun wanted => ?_
  cases wanted with
  | false => exact trivial
  | true => exact fun found _ engine => ⟨.inr ⟨browser, found, rfl⟩, trivial⟩

/-- A refresh does nothing but record what the host has. -/
theorem Engine.records_refreshInstalls : refreshInstalls.Records := by
  have loop : (forIn Browser.all PUnit.unit fun browser _ => do
      probeAgain browser
      pure (ForInStep.yield PUnit.unit) : Activity PUnit).Records := by
    generalize Browser.all = browsers
    induction browsers with
    | nil => exact trivial
    | cons browser browsers inductionHypothesis =>
      rw [List.forIn_cons]
      refine Activity.Records.bind ((records_probeAgain browser).bind fun _ => ?_) fun result => ?_
      · exact (trivial : (Activity.done (ForInStep.yield PUnit.unit)).Records)
      · cases result with
        | yield _ => exact inductionHypothesis
        | done _ => exact trivial
  exact loop.bind fun _ => Activity.records_look _

end Refreshes

section Callers

namespace Caller

/-- How a caller stands, and what it has learned from the attempt that it joined. -/
inductive Stands (installs : Installs) : Caller → Prop where
  | asks (browser : Browser) :
      Stands installs ⟨browser, .probe browser (Engine.settleProbe browser id), none⟩
  | waits {browser : Browser} {number : Nat} {stage : AttemptStage}
      (found : installs.attempts[number]? = some ⟨browser, stage⟩) :
      Stands installs ⟨browser, Engine.settleInstall browser id (.wait number), some number⟩
  | ready (browser : Browser) (state : InstallState) :
      Stands installs ⟨browser, .done (.ok state), none⟩
  | answered {browser : Browser} {number : Nat} {stage : AttemptStage}
      {outcome : Except String Unit} {result : Except String InstallState}
      (found : installs.attempts[number]? = some ⟨browser, stage⟩)
      (ended : installs.outcome? number = some outcome)
      (told : ∀ reason, result = .error reason ↔ outcome = .error reason) :
      Stands installs ⟨browser, .done result, some number⟩

variable {before after : Installs} {caller : Caller} {browser : Browser}

/-- A caller stands as it did while the attempts go on. -/
theorem Stands.mono (stands : caller.Stands before) (grows : before.Grows after) :
    caller.Stands after := by
  cases stands with
  | asks browser => exact .asks browser
  | waits found =>
    obtain ⟨_, found, -⟩ := grows.attempts _ _ _ found
    exact .waits found
  | ready browser state => exact .ready browser state
  | answered found ended told =>
    obtain ⟨_, found, -⟩ := grows.attempts _ _ _ found
    exact .answered found (grows.outcomes _ _ ended) told

/-- A caller that has an answer is done, or it waits for an attempt to install its engine. -/
theorem stands_of_settles {answer : InstallAnswer}
    (settles : before.Settles browser answer after) :
    Stands after ⟨browser, Engine.settleInstall browser id answer,
      (Engine.settleInstall browser id answer).awaited?⟩ := by
  cases answer with
  | ready state => exact .ready browser state
  | wait number =>
    obtain ⟨stage, found⟩ := settles.joins number rfl
    exact .waits found

/-- What a caller that waited gets is an error exactly if the attempt has failed. -/
theorem joined_eq_error_iff {installs : Installs} {number : Nat} {outcome : Except String Unit}
    (ended : installs.outcome? number = some outcome) (reason : String) :
    installs.joined browser number = .error reason ↔ outcome = .error reason := by
  cases outcome <;> simp [Installs.joined, ended]

/-- A piece of a caller leaves the engines in order and the caller with an answer or a wait. -/
theorem Stands.resume {engine : Engine} (stands : caller.Stands engine.installs)
    (consistent : engine.installs.Consistent) (now : Int) (found : Bool) :
    let (activity, after) := caller.activity.resume now found engine
    engine.installs.Work after.installs ∧
      Stands after.installs
        { caller with activity, joined := activity.awaited?.or caller.joined } := by
  cases stands with
  | asks browser =>
    have settles := consistent.probed browser found
    simp only [Activity.resume, Engine.advance_settleProbe, Option.or_none]
    exact ⟨settles.work, stands_of_settles settles⟩
  | @waits browser number stage attempt =>
    by_cases settled : (engine.installs.outcome? number).isSome = true
    · obtain ⟨outcome, ended⟩ := Option.isSome_iff_exists.1 settled
      rw [Engine.resume_wait_of_over settled]
      exact ⟨.rests, .answered attempt ended (joined_eq_error_iff ended)⟩
    · rw [Engine.resume_wait_of_not_over settled]
      exact ⟨.rests, .waits attempt⟩
  | ready browser state => exact ⟨.rests, .ready browser state⟩
  | answered attempt ended told => exact ⟨.rests, .answered attempt ended told⟩

/-- The first piece of a caller leaves the engines in order too. -/
theorem stands_call {engine : Engine} (consistent : engine.installs.Consistent)
    (browser : Browser) (now : Int) :
    let (activity, after) := (Engine.ensureInstalled browser id).advance now engine
    engine.installs.Work after.installs ∧
      Stands after.installs ⟨browser, activity, activity.awaited?⟩ := by
  rw [Engine.advance_ensureInstalled]
  rcases consistent.ask browser with ⟨answer, after, asked, settles⟩ | asked
  · simp only [asked]
    exact ⟨settles.work, stands_of_settles settles⟩
  · simp only [asked]
    exact ⟨.rests, .asks browser⟩

end Caller

end Callers

namespace Lobby

variable {lobby : Lobby}

section Invariants

/-- The engines agree with the attempts, and everybody stands where its last piece has ended. -/
structure Sound (lobby : Lobby) : Prop where
  consistent : lobby.installs.Consistent
  callers : ∀ caller ∈ lobby.callers, caller.Stands lobby.installs
  refreshes : ∀ activity ∈ lobby.refreshes, activity.Records

/-- What a turn does to the engines. -/
structure Moved (turn : Turn) (before after : Installs) : Prop where
  consistent : after.Consistent
  grows : before.Grows after
  work : turn.refreshes = false → before.Work after
  records : turn.refreshes = true → after.attempts = before.attempts

theorem sound_fresh (engine : Engine) : (fresh engine).Sound where
  consistent := Installs.consistent_fresh
  callers := by simp [fresh]
  refreshes := by simp [fresh]

/-- A turn of callers and attempts does work. -/
theorem moved_of_work {turn : Turn} {before after : Installs} (consistent : before.Consistent)
    (calm : turn.refreshes = false) (work : before.Work after) : Moved turn before after where
  consistent := consistent.work work
  grows := work.grows
  work _ := work
  records refreshes := by
    rw [calm] at refreshes
    cases refreshes

/-- A turn of a refresh leaves the attempts as they are. -/
theorem moved_of_records {turn : Turn} {before after : Installs}
    (refreshes : turn.refreshes = true)
    (kept : after.Consistent ∧ after.attempts = before.attempts) : Moved turn before after where
  consistent := kept.1
  grows := by
    refine ⟨fun number browser stage found => ?_, fun number outcome known => ?_⟩
    · exact ⟨stage, by rw [kept.2, found], fun _ => rfl⟩
    · unfold Installs.outcome?
      rw [kept.2]
      exact known
  work calm := by
    rw [refreshes] at calm
    cases calm
  records _ := kept.2

/-- What a record of an answer of the host keeps. -/
theorem record_kept (before installs : Installs) (browser : Browser) (found : Bool)
    (kept : installs.Consistent ∧ installs.attempts = before.attempts) :
    (installs.record browser found).Consistent ∧
      (installs.record browser found).attempts = before.attempts :=
  ⟨kept.1.record browser found, kept.2⟩

/-- The callers stand where they did when others have moved. -/
theorem Sound.callers_of_moved (sound : lobby.Sound) {turn : Turn} {after : Installs}
    (moved : Moved turn lobby.installs after) : ∀ caller ∈ lobby.callers, caller.Stands after :=
  fun caller present => (sound.callers caller present).mono moved.grows

/-- An attempt works on while callers and refreshes wait. -/
theorem Sound.change (sound : lobby.Sound) {turn : Turn} (calm : turn.refreshes = false)
    {work : Installs → Installs} (works : ∀ installs, Installs.Work installs (work installs)) :
    (lobby.change work).Sound ∧ Moved turn lobby.installs (lobby.change work).installs := by
  have moved : Moved turn lobby.installs (work lobby.installs) :=
    moved_of_work sound.consistent calm (works lobby.installs)
  exact ⟨⟨moved.consistent, sound.callers_of_moved moved, sound.refreshes⟩, moved⟩

/-- Every turn keeps the lobby in order. -/
theorem Sound.step (sound : lobby.Sound) (turn : Turn) :
    (lobby.step turn).Sound ∧ Moved turn lobby.installs (lobby.step turn).installs := by
  obtain ⟨now, move⟩ := turn
  cases move with
  | call browser =>
    obtain ⟨work, stands⟩ := Caller.stands_call sound.consistent browser now
    have moved : Moved ⟨now, .call browser⟩ lobby.installs _ :=
      moved_of_work sound.consistent rfl work
    refine ⟨⟨moved.consistent, fun caller present => ?_, sound.refreshes⟩, moved⟩
    rcases List.mem_append.1 present with earlier | last
    · exact sound.callers_of_moved moved caller earlier
    · obtain rfl := List.mem_singleton.1 last
      exact stands
  | goOn index found =>
    simp only [Lobby.step]
    split
    · exact ⟨sound, moved_of_work sound.consistent rfl .rests⟩
    · next caller present =>
      have stood := sound.callers caller (List.mem_of_getElem? present)
      obtain ⟨work, stands⟩ := stood.resume sound.consistent now found
      have moved : Moved ⟨now, .goOn index found⟩ lobby.installs _ :=
        moved_of_work sound.consistent rfl work
      refine ⟨⟨moved.consistent, fun other present => ?_, sound.refreshes⟩, moved⟩
      rcases List.mem_or_eq_of_mem_set present with earlier | rfl
      · exact sound.callers_of_moved moved other earlier
      · exact stands
  | refresh =>
    obtain ⟨records, kept⟩ := Engine.records_refreshInstalls.advance now
      (record_kept lobby.installs) ⟨sound.consistent, rfl⟩
    have moved : Moved ⟨now, .refresh⟩ lobby.installs _ := moved_of_records rfl kept
    refine ⟨⟨moved.consistent, sound.callers_of_moved moved, fun activity present => ?_⟩, moved⟩
    rcases List.mem_append.1 present with earlier | last
    · exact sound.refreshes activity earlier
    · obtain rfl := List.mem_singleton.1 last
      exact records
  | lookOn index found =>
    simp only [Lobby.step]
    split
    · exact ⟨sound, moved_of_records rfl ⟨sound.consistent, rfl⟩⟩
    · next activity present =>
      have waits := sound.refreshes activity (List.mem_of_getElem? present)
      obtain ⟨records, kept⟩ := waits.resume now found
        (record_kept lobby.installs) ⟨sound.consistent, rfl⟩
      have moved : Moved ⟨now, .lookOn index found⟩ lobby.installs _ := moved_of_records rfl kept
      refine ⟨⟨moved.consistent, sound.callers_of_moved moved, fun other present => ?_⟩, moved⟩
      rcases List.mem_or_eq_of_mem_set present with earlier | rfl
      · exact sound.refreshes other earlier
      · exact records
  | begin attempt => exact sound.change rfl fun _ => Installs.work_beginAttempt _ attempt
  | finish attempt result =>
    exact sound.change rfl fun _ => Installs.work_endAttempt _ attempt result
  | panic attempt => exact sound.change rfl fun _ => Installs.work_panicAttempt _ attempt

/-- Every history keeps the lobby in order, and attempts keep their outcomes. -/
theorem Sound.after (sound : lobby.Sound) (history : List Turn) :
    (lobby.after history).Sound ∧ lobby.installs.Grows (lobby.after history).installs := by
  induction history generalizing lobby with
  | nil => exact ⟨sound, .refl _⟩
  | cons turn history inductionHypothesis =>
    obtain ⟨sound, moved⟩ := sound.step turn
    obtain ⟨sound, grows⟩ := inductionHypothesis sound
    exact ⟨sound, moved.grows.trans grows⟩

/-- Without a refresh, an engine that an attempt has installed stays installed. -/
theorem Sound.lasting_after (sound : lobby.Sound) (lasting : lobby.installs.Lasting)
    {history : List Turn} (calm : ∀ turn ∈ history, turn.refreshes = false) :
    (lobby.after history).installs.Lasting := by
  induction history generalizing lobby with
  | nil => exact lasting
  | cons turn history inductionHypothesis =>
    obtain ⟨first, others⟩ := List.forall_mem_cons.1 calm
    obtain ⟨after, moved⟩ := sound.step turn
    exact inductionHypothesis after (lasting.work sound.consistent (moved.work first)) others

end Invariants

section SingleFlight

/-- What a caller gets that has joined an attempt. -/
structure Told (lobby : Lobby) (index : Nat) (caller : Caller) (number : Nat) : Prop where
  own : ∃ stage, lobby.installs.attempts[number]? = some ⟨caller.browser, stage⟩
  /-- A caller returns only when the attempt is over, and with its error if it has failed. -/
  told : ∀ result, caller.activity = .done result →
    ∃ outcome, lobby.installs.outcome? number = some outcome ∧
      ∀ reason, result = .error reason ↔ outcome = .error reason
  /-- Once the attempt is over, the caller returns when it goes on. -/
  returns : ∀ now found, (lobby.installs.outcome? number).isSome = true →
    ∃ result, (lobby.step ⟨now, .goOn index found⟩).callers[index]? =
      some { caller with activity := .done result }

/-- Callers of an engine share one attempt to install it at a time. -/
structure Shared (lobby : Lobby) : Prop where
  /-- At most one call of the installer for an engine is running. -/
  single : ∀ browser number other, lobby.installs.installing? number = some browser →
    lobby.installs.installing? other = some browser → number = other
  inProgress_iff : ∀ browser, (lobby.installs.state browser).inProgress = true ↔
    ∃ number, lobby.installs.inflight.get browser = some number
  /-- An attempt is under way exactly until its outcome is on record. -/
  inflight_iff : ∀ (browser : Browser) (number : Nat),
    lobby.installs.inflight.get browser = some number ↔
      ∃ stage, lobby.installs.attempts[number]? = some ⟨browser, stage⟩ ∧
        ∀ result, stage ≠ .ended result
  /-- An attempt is opened only for a missing engine without an attempt under way. -/
  opens : ∀ (turn : Turn) (number : Nat) (attempt : Attempt),
    lobby.installs.attempts[number]? = none →
      (lobby.step turn).installs.attempts[number]? = some attempt →
        attempt.stage = .opened ∧ (lobby.installs.state attempt.browser).installed = false ∧
          lobby.installs.inflight.get attempt.browser = none
  told : ∀ (index : Nat) (caller : Caller) (number : Nat), lobby.callers[index]? = some caller →
    caller.joined = some number → lobby.Told index caller number
  /-- A caller that has joined no attempt returns no error. -/
  alone : ∀ caller ∈ lobby.callers, caller.joined = none →
    ∀ reason, caller.activity ≠ .done (.error reason)

/-- The engine for which a turn calls the installer. -/
def calls? (lobby : Lobby) (turn : Turn) : Option Browser :=
  match turn.move with
  | .begin attempt => lobby.installs.opened? attempt
  | _ => none

/-- Attempts are shared, and without refreshes no engine is installed again. -/
structure SingleFlight (engine : Engine) (history : List Turn) : Prop where
  shared : ((fresh engine).after history).Shared
  once : ∀ (number : Nat) (browser : Browser) (later : List Turn) (turn : Turn),
    ((fresh engine).after history).installs.attempts[number]? =
        some ⟨browser, .ended (.ok ())⟩ →
      (∀ turn ∈ history ++ later, turn.refreshes = false) →
        ((fresh engine).after (history ++ later)).calls? turn ≠ some browser

theorem isOpen_iff {stage : AttemptStage} :
    stage.isOpen = true ↔ ∀ result, stage ≠ .ended result := by
  cases stage <;> simp [AttemptStage.isOpen]

/-- A caller that stands with an attempt is told its outcome. -/
theorem told_of_stands {index number : Nat} {caller : Caller}
    (stands : caller.Stands lobby.installs) (present : lobby.callers[index]? = some caller)
    (joined : caller.joined = some number) : lobby.Told index caller number := by
  obtain ⟨inside, -⟩ := List.getElem?_eq_some_iff.1 present
  cases stands with
  | asks browser => cases joined
  | @waits browser entry stage found =>
    obtain rfl := Option.some.inj joined
    refine ⟨⟨stage, found⟩, nofun, fun now found settled => ?_⟩
    refine ⟨lobby.installs.joined browser entry, ?_⟩
    have settled : (lobby.engine.installs.outcome? entry).isSome = true := settled
    simp only [step, present, Engine.resume_wait_of_over settled]
    rw [List.getElem?_set_self inside]
    rfl
  | ready browser state => cases joined
  | @answered browser _ stage outcome result found ended told =>
    obtain rfl := Option.some.inj joined
    refine ⟨⟨stage, found⟩, ?_, fun now found _ => ⟨result, ?_⟩⟩
    · rintro _ ⟨⟩
      exact ⟨outcome, ended, told⟩
    · simp only [step, present, Activity.resume]
      rw [List.getElem?_set_self inside]
      rfl

/-- In a lobby that is in order, attempts are shared. -/
theorem Sound.shared (sound : lobby.Sound) : lobby.Shared where
  single browser number other installs others := by
    have first := (sound.consistent.inflight browser number).2 (Installs.underway?_eq_some_iff.2
      ⟨_, Installs.installing?_eq_some_iff.1 installs, rfl⟩)
    have second := (sound.consistent.inflight browser other).2 (Installs.underway?_eq_some_iff.2
      ⟨_, Installs.installing?_eq_some_iff.1 others, rfl⟩)
    exact Option.some.inj (first.symm.trans second)
  inProgress_iff browser := by
    rw [sound.consistent.inProgress browser, Option.isSome_iff_exists]
  inflight_iff browser number := by
    simp only [sound.consistent.inflight browser number, Installs.underway?_eq_some_iff,
      isOpen_iff]
  opens turn number attempt new found := by
    have moved := (sound.step turn).2
    cases refreshes : turn.refreshes with
    | false => exact (moved.work refreshes).opened_of_new new found
    | true =>
      rw [moved.records refreshes, new] at found
      cases found
  told index caller number present joined :=
    told_of_stands (sound.callers caller (List.mem_of_getElem? present)) present joined
  alone caller present joined reason := by
    cases sound.callers caller present with
    | asks browser => exact nofun
    | waits found => cases joined
    | ready browser state => exact nofun
    | answered found ended told => cases joined

/-- The first of two callers opens an attempt, and the second one joins it while it runs. -/
def sampleCallers : List Turn :=
  [⟨1, .call .chromium⟩, ⟨2, .goOn 0 false⟩, ⟨3, .begin 0⟩, ⟨4, .call .chromium⟩]

end SingleFlight

end Lobby

end StepRunner
