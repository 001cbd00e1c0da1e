import StepRunner.Proofs.Installs.Endings

/-!
This file says what the answer of a probe does to an engine that was installed in the meantime.
A refresh decides that an engine needs a probe before it asks, and never looks again.
A denial that comes after an install takes the engine off the record, however old it is.
-/

namespace StepRunner

section Refreshes

/-- What comes after two activities comes after the second of them. -/
theorem Activity.bind_assoc {α β γ : Type} (activity : Activity α) (next : α → Activity β)
    (last : β → Activity γ) :
    (activity.bind next).bind last = activity.bind fun value => (next value).bind last := by
  induction activity with
  | done value => rfl
  | act change rest inductionHypothesis =>
    simp only [Activity.bind, inductionHypothesis]
  | probe browser rest inductionHypothesis => simp only [Activity.bind, inductionHypothesis]
  | readFile path rest inductionHypothesis => simp only [Activity.bind, inductionHypothesis]
  | time rest inductionHypothesis => simp only [Activity.bind, inductionHypothesis]
  | await event dropped rest inductionHypothesis => simp only [Activity.bind, inductionHypothesis]

namespace Engine

/-- A refresh puts an answer of the host on record and goes on. -/
def noteAnswer (browser : Browser) (next : Activity (List InstallState)) (found : Bool) :
    Activity (List InstallState) :=
  .act (fun _ engine => { engine with installs := engine.installs.record browser found })
    fun _ _ => next

/-- What a refresh does about the engines that are left. -/
def refreshRest : List Browser → Activity (List InstallState)
  | [] => .look fun engine => engine.installs.status
  | browser :: browsers => .act (fun _ engine => engine) fun _ engine =>
    if engine.installs.wantsProbe browser then
      .probe browser (noteAnswer browser (refreshRest browsers))
    else refreshRest browsers

theorem bind_probeAgain (browser : Browser) (browsers : List Browser) :
    (probeAgain browser).bind (fun _ => refreshRest browsers) =
      refreshRest (browser :: browsers) := by
  simp only [probeAgain, Activity.look, bind, Activity.bind, refreshRest]
  congr 1
  funext now engine
  split <;> rfl

/-- A refresh goes through the engines one by one. -/
theorem refreshInstalls_eq : refreshInstalls = refreshRest Browser.all := by
  have loop (browsers : List Browser) : (forIn browsers PUnit.unit fun browser _ => do
      probeAgain browser
      pure (ForInStep.yield PUnit.unit) : Activity PUnit).bind (fun _ =>
        Activity.look fun engine => engine.installs.status) = refreshRest browsers := by
    induction browsers with
    | nil => rfl
    | cons browser browsers inductionHypothesis =>
      rw [List.forIn_cons, ← bind_probeAgain, ← inductionHypothesis]
      simp only [bind, Activity.bind_assoc]
      rfl
  exact loop Browser.all

/-- A refresh between two of its turns waits for an answer of the host or is over. -/
inductive Refreshing : Activity (List InstallState) → Prop where
  | asks (browser : Browser) (browsers : List Browser) :
      Refreshing (.probe browser (noteAnswer browser (refreshRest browsers)))
  | ended (states : List InstallState) : Refreshing (.done states)

/-- A refresh changes nothing on its way to the next question. -/
theorem advance_refreshRest (browsers : List Browser) (now : Int) (engine : Engine) :
    ∃ activity, (refreshRest browsers).advance now engine = (activity, engine) ∧
      Refreshing activity := by
  induction browsers with
  | nil => exact ⟨_, rfl, .ended _⟩
  | cons browser browsers inductionHypothesis =>
    simp only [refreshRest, Activity.advance]
    split
    · exact ⟨_, rfl, .asks browser browsers⟩
    · exact inductionHypothesis

/-- With an answer, a refresh puts it on record and goes on to the next question. -/
theorem Refreshing.resume_probe {browser : Browser} {next : Bool → Activity (List InstallState)}
    (refreshing : Refreshing (.probe browser next)) (now : Int) (found : Bool) (engine : Engine) :
    ∃ activity, (Activity.probe browser next).resume now found engine =
        (activity, { engine with installs := engine.installs.record browser found }) ∧
      Refreshing activity := by
  cases refreshing with
  | asks _ browsers => exact advance_refreshRest browsers now _

end Engine

end Refreshes

namespace Lobby

variable {lobby : Lobby} {browser : Browser} {index : Nat}

/-- Every refresh stands where its last piece has ended. -/
def Refreshing (lobby : Lobby) : Prop :=
  ∀ activity ∈ lobby.refreshes, Engine.Refreshing activity

/-- A refresh whose answer comes puts it on record, whatever has happened since it asked. -/
theorem Refreshing.step_lookOn (refreshing : lobby.Refreshing)
    {next : Bool → Activity (List InstallState)}
    (asks : lobby.refreshes[index]? = some (.probe browser next)) (now : Int) (found : Bool) :
    ∃ activity, Engine.Refreshing activity ∧ lobby.step ⟨now, .lookOn index found⟩ =
      ⟨{ lobby.engine with installs := lobby.installs.record browser found }, lobby.callers,
        lobby.refreshes.set index activity⟩ := by
  obtain ⟨activity, resumed, stands⟩ :=
    (refreshing _ (List.mem_of_getElem? asks)).resume_probe now found lobby.engine
  refine ⟨activity, stands, ?_⟩
  simp only [step, asks, resumed, installs]

/-- A turn of a refresh changes nothing or puts an answer of the host on record. -/
theorem Refreshing.step_cases (refreshing : lobby.Refreshing) {turn : Turn}
    (refreshes : turn.refreshes = true) :
    (lobby.step turn).Refreshing ∧ (lobby.step turn).callers = lobby.callers ∧
      ((lobby.step turn).installs = lobby.installs ∨ ∃ index browser next found,
        turn.move = .lookOn index found ∧ lobby.refreshes[index]? = some (.probe browser next) ∧
          (lobby.step turn).installs = lobby.installs.record browser found) := by
  obtain ⟨now, move⟩ := turn
  cases move with
  | refresh =>
    obtain ⟨activity, advanced, stands⟩ :=
      Engine.advance_refreshRest Browser.all now lobby.engine
    have stepped : lobby.step ⟨now, .refresh⟩ =
        { lobby with refreshes := lobby.refreshes ++ [activity] } := by
      simp only [step, Engine.refreshInstalls_eq, advanced]
    rw [stepped]
    refine ⟨fun other present => ?_, rfl, .inl rfl⟩
    rcases List.mem_append.1 present with earlier | last
    · exact refreshing other earlier
    · exact List.mem_singleton.1 last ▸ stands
  | lookOn index found =>
    cases present : lobby.refreshes[index]? with
    | none =>
      have stepped : lobby.step ⟨now, .lookOn index found⟩ = lobby := by simp only [step, present]
      rw [stepped]
      exact ⟨refreshing, rfl, .inl rfl⟩
    | some activity =>
      cases refreshing activity (List.mem_of_getElem? present) with
      | ended states =>
        have stepped : lobby.step ⟨now, .lookOn index found⟩ = lobby := by
          obtain ⟨inside, same⟩ := List.getElem?_eq_some_iff.1 present
          have kept : lobby.refreshes.set index (.done states) = lobby.refreshes := by
            rw [← same, List.set_getElem_self]
          simp only [step, present, Activity.resume, kept]
        rw [stepped]
        exact ⟨refreshing, rfl, .inl rfl⟩
      | asks browser browsers =>
        obtain ⟨activity, stands, stepped⟩ := refreshing.step_lookOn present now found
        rw [stepped]
        refine ⟨fun other kept => ?_, rfl, .inr ⟨index, browser, _, found, rfl, present, rfl⟩⟩
        rcases List.mem_or_eq_of_mem_set kept with earlier | rfl
        · exact refreshing other earlier
        · exact stands
  | call _ => cases refreshes
  | goOn _ _ => cases refreshes
  | begin _ => cases refreshes
  | finish _ _ => cases refreshes
  | panic _ => cases refreshes

/-- Callers and attempts leave the refreshes alone. -/
theorem refreshes_step {turn : Turn} (calm : turn.refreshes = false) :
    (lobby.step turn).refreshes = lobby.refreshes := by
  obtain ⟨now, move⟩ := turn
  cases move with
  | refresh => cases calm
  | lookOn _ _ => cases calm
  | goOn index found =>
    simp only [step]
    split <;> rfl
  | call _ => rfl
  | begin _ => rfl
  | finish _ _ => rfl
  | panic _ => rfl

theorem Refreshing.step (refreshing : lobby.Refreshing) (turn : Turn) :
    (lobby.step turn).Refreshing := by
  cases refreshes : turn.refreshes with
  | true => exact (refreshing.step_cases refreshes).1
  | false =>
    unfold Refreshing
    rw [refreshes_step refreshes]
    exact refreshing

/-- In a turn a refresh hears that the host does not have an engine. -/
def Denies (lobby : Lobby) (turn : Turn) (browser : Browser) : Prop :=
  ∃ index next, turn.move = .lookOn index false ∧
    lobby.refreshes[index]? = some (.probe browser next)

/-- No refresh hears in a history that the host does not have an engine. -/
def Spared (lobby : Lobby) : List Turn → Browser → Prop
  | [], _ => True
  | turn :: later, browser => ¬lobby.Denies turn browser ∧ (lobby.step turn).Spared later browser

/-- An engine that is ready stays ready in each turn but a denial. -/
theorem Sound.ready_step (sound : lobby.Sound) (refreshing : lobby.Refreshing) {turn : Turn}
    (ready : lobby.installs.Ready browser) (undenied : ¬lobby.Denies turn browser) :
    (lobby.step turn).installs.Ready browser := by
  cases refreshes : turn.refreshes with
  | false => exact ready.work sound.consistent ((sound.step turn).2.work refreshes)
  | true =>
    obtain ⟨-, -, same | ⟨index, other, next, found, move, asks, recorded⟩⟩ :=
      refreshing.step_cases refreshes
    · exact same ▸ ready
    · rw [recorded]
      refine ⟨?_, ready.2⟩
      rw [Installs.state_record]
      split
      · next same =>
        cases found with
        | true => rfl
        | false => exact absurd ⟨index, next, move, same ▸ asks⟩ undenied
      · exact ready.1

/-- An engine that is ready stays ready in each history without a denial. -/
theorem Sound.ready_after (sound : lobby.Sound) (refreshing : lobby.Refreshing)
    (ready : lobby.installs.Ready browser) {later : List Turn}
    (spared : lobby.Spared later browser) : (lobby.after later).installs.Ready browser := by
  induction later generalizing lobby with
  | nil => exact ready
  | cons turn later inductionHypothesis =>
    exact inductionHypothesis (sound.step turn).1 (refreshing.step turn)
      (sound.ready_step refreshing ready spared.1) spared.2

theorem Refreshing.after (refreshing : lobby.Refreshing) (history : List Turn) :
    (lobby.after history).Refreshing := by
  induction history generalizing lobby with
  | nil => exact refreshing
  | cons turn history inductionHypothesis => exact inductionHypothesis (refreshing.step turn)

end Lobby

section Answers

namespace Installs

variable {installs : Installs} {browser : Browser} {state : InstallState}

/-- A caller that joins no attempt has its engine. -/
theorem join_ready (ready : (installs.join browser).1 = .ready state) :
    state = (installs.join browser).2.state browser ∧ state.installed = true := by
  unfold join at ready ⊢
  split at ready
  · cases ready
  · next free =>
    split at ready
    · next installed =>
      obtain rfl := InstallAnswer.ready.inj ready
      simp [installed]
    · cases ready

theorem probed_ready {found : Bool} (ready : (installs.probed browser found).1 = .ready state) :
    state = (installs.probed browser found).2.state browser ∧ state.installed = true := by
  cases found with
  | false => exact join_ready ready
  | true =>
    have present : ((installs.record browser true).state browser).installed = true := by
      simp [state_record]
    obtain rfl := InstallAnswer.ready.inj ready
    exact ⟨rfl, present⟩

theorem ask_ready (ready : (installs.ask browser).1 = some (.ready state)) :
    state.installed = true := by
  simp only [ask] at ready
  split at ready
  · next installed =>
    obtain rfl := InstallAnswer.ready.inj (Option.some.inj ready)
    exact installed
  · split at ready
    · exact (join_ready (Option.some.inj ready)).2
    · cases ready

end Installs

variable {caller : Caller} {engine : Engine} {now : Int} {found : Bool} {state : InstallState}

theorem Engine.settleInstall_eq_done {browser : Browser} {dropped : Engine → Engine}
    {answer : InstallAnswer} (answered : settleInstall browser dropped answer = .done (.ok state)) :
    answer = .ready state := by
  cases answer with
  | ready known =>
    obtain rfl := Except.ok.inj (Activity.done.inj answered)
    rfl
  | wait number => cases answered

/--
A caller that goes on and returns no error returns what is then on record.
If it has joined no attempt, its engine is there.
-/
theorem Caller.Stands.resume_ok (stands : caller.Stands engine.installs)
    (waits : ∀ result, caller.activity ≠ .done result)
    (answered : (caller.activity.resume now found engine).1 = .done (.ok state)) :
    state = (caller.activity.resume now found engine).2.installs.state caller.browser ∧
      (caller.joined = none → state.installed = true) := by
  cases stands with
  | asks browser =>
    simp only [Activity.resume, Engine.advance_settleProbe] at answered ⊢
    obtain ⟨same, installed⟩ := Installs.probed_ready (Engine.settleInstall_eq_done answered)
    exact ⟨same, fun _ => installed⟩
  | @waits browser number stage joined =>
    by_cases settled : (engine.installs.outcome? number).isSome = true
    · simp only [Engine.resume_wait_of_over settled, Installs.joined] at answered ⊢
      split at answered
      · cases answered
      · obtain rfl := Except.ok.inj (Activity.done.inj answered)
        exact ⟨rfl, fun alone => absurd alone (Option.some_ne_none number)⟩
    · simp only [Engine.resume_wait_of_not_over settled] at answered
      cases answered
  | ready browser state => exact absurd rfl (waits _)
  | answered joined ended told => exact absurd rfl (waits _)

end Answers

namespace Lobby

variable {lobby : Lobby} {browser : Browser} {index number : Nat} {caller : Caller}
  {state : InstallState}

theorem step_goOn (present : lobby.callers[index]? = some caller) (now : Int) (found : Bool) :
    lobby.step ⟨now, .goOn index found⟩ =
      { lobby with
        engine := (caller.activity.resume now found lobby.engine).2
        callers := lobby.callers.set index
          { caller with
            activity := (caller.activity.resume now found lobby.engine).1
            joined := (caller.activity.resume now found lobby.engine).1.awaited?.or
              caller.joined } } := by
  simp only [step, present]

/-- A caller that has joined no attempt returns an engine that is there. -/
def Found (caller : Caller) : Prop :=
  caller.joined = none → ∀ state, caller.activity = .done (.ok state) → state.installed = true

/-- A caller that has its engine at once has one that is there. -/
theorem found_call (engine : Engine) (browser : Browser) (now : Int) (joined : Option Nat) :
    Found ⟨browser, ((Engine.ensureInstalled browser id).advance now engine).1, joined⟩ := by
  intro alone state answered
  simp only [Engine.advance_ensureInstalled] at answered
  split at answered
  · next answer asked =>
    rw [Engine.settleInstall_eq_done answered] at asked
    exact Installs.ask_ready asked
  · cases answered

/-- Every turn keeps it that callers without an attempt return engines that are there. -/
theorem Sound.found_step (sound : lobby.Sound) (found : ∀ caller ∈ lobby.callers, Found caller)
    (turn : Turn) : ∀ caller ∈ (lobby.step turn).callers, Found caller := by
  obtain ⟨now, move⟩ := turn
  cases move with
  | call browser =>
    intro caller present
    rcases List.mem_append.1 present with earlier | last
    · exact found caller earlier
    · exact List.mem_singleton.1 last ▸ found_call lobby.engine browser now _
  | goOn index answer =>
    cases present : lobby.callers[index]? with
    | none =>
      have stepped : lobby.step ⟨now, .goOn index answer⟩ = lobby := by
        simp only [Lobby.step, present]
      rw [stepped]
      exact found
    | some caller =>
      rw [step_goOn present]
      have own : caller ∈ lobby.callers := List.mem_of_getElem? present
      intro other kept
      rcases List.mem_or_eq_of_mem_set kept with earlier | rfl
      · exact found other earlier
      · intro alone state answered
        have single : caller.joined = none := (Option.or_eq_none_iff.1 alone).2
        by_cases finished : ∃ result, caller.activity = .done result
        · obtain ⟨result, finished⟩ := finished
          rw [finished] at answered
          exact found caller own single state (finished.trans answered)
        · exact ((sound.callers caller own).resume_ok (not_exists.1 finished) answered).2 single
  | refresh => exact found
  | lookOn index answer =>
    have same : (lobby.step ⟨now, .lookOn index answer⟩).callers = lobby.callers := by
      simp only [Lobby.step]
      split <;> rfl
    rw [same]
    exact found
  | begin attempt => exact found
  | finish attempt result => exact found
  | panic attempt => exact found

theorem Sound.found_after (sound : lobby.Sound) (found : ∀ caller ∈ lobby.callers, Found caller)
    (history : List Turn) : ∀ caller ∈ (lobby.after history).callers, Found caller := by
  induction history generalizing lobby with
  | nil => exact found
  | cons turn history inductionHypothesis =>
    exact inductionHypothesis (sound.step turn).1 (sound.found_step found turn)

/-- What becomes of an engine after an attempt to install it has ended well. -/
structure Installed (done : Lobby) (browser : Browser) (number : Nat) : Prop where
  /-- Until a refresh hears a denial, the engine is on record. -/
  kept : ∀ later, done.Spared later browser →
    ((done.after later).installs.state browser).installed = true
  /-- Until then, callers that return no error return an engine that is there. -/
  told : ∀ later, done.Spared later browser → ∀ index caller,
    (done.after later).callers[index]? = some caller → caller.browser = browser →
      (∀ result, caller.activity ≠ .done result) → ∀ now found after state,
        ((done.after later).step ⟨now, .goOn index found⟩).callers[index]? = some after →
          after.activity = .done (.ok state) → state.installed = true
  /-- A denial takes the engine off the record, also if the refresh asked before the install. -/
  denied : ∀ later instant index next,
    (done.after later).refreshes[index]? = some (.probe browser next) →
      (((done.after later).step ⟨instant, .lookOn index false⟩).installs.state browser).installed =
        false
  /-- Callers of the attempt that go on after a denial return an engine that is not there. -/
  misled : ∀ later instant index next,
    (done.after later).refreshes[index]? = some (.probe browser next) → ∀ waiting caller,
      (done.after later).callers[waiting]? = some caller → caller.joined = some number →
        (∀ result, caller.activity ≠ .done result) → ∀ now found, ∃ state,
          (((done.after later).step ⟨instant, .lookOn index false⟩).step
              ⟨now, .goOn waiting found⟩).callers[waiting]? =
            some { caller with activity := .done (.ok state) } ∧ state.installed = false

/-- What probes and attempts make of the record of an engine. -/
structure Probed (lobby : Lobby) : Prop where
  /-- A refresh puts the answer to its question on record, however long ago it has asked. -/
  records : ∀ index browser next now found,
    lobby.refreshes[index]? = some (.probe browser next) →
      (lobby.step ⟨now, .lookOn index found⟩).installs = lobby.installs.record browser found
  /-- A caller that has joined no attempt returns an engine that is there. -/
  alone : ∀ caller ∈ lobby.callers, caller.joined = none →
    ∀ state, caller.activity = .done (.ok state) → state.installed = true
  installed : ∀ now number browser, lobby.installs.installing? number = some browser →
    (lobby.step ⟨now, .finish number (.ok ())⟩).Installed browser number

/-- A caller of an attempt that has ended well returns what is then on record. -/
theorem Sound.step_goOn_joined (sound : lobby.Sound)
    (ended : lobby.installs.attempts[number]? = some ⟨browser, .ended (.ok ())⟩)
    (present : lobby.callers[index]? = some caller) (joined : caller.joined = some number)
    (waits : ∀ result, caller.activity ≠ .done result) (now : Int) (found : Bool) :
    (lobby.step ⟨now, .goOn index found⟩).callers[index]? =
      some { caller with activity := .done (.ok (lobby.installs.state browser)) } := by
  obtain ⟨inside, -⟩ := List.getElem?_eq_some_iff.1 present
  cases sound.callers caller (List.mem_of_getElem? present) with
  | asks _ => cases joined
  | @waits own entry stage opened =>
    obtain rfl := Option.some.inj joined
    obtain ⟨rfl, rfl⟩ := Attempt.mk.inj (Option.some.inj (opened.symm.trans ended))
    have outcome : lobby.installs.outcome? entry = some (.ok ()) := by
      simp only [Installs.outcome?, ended]
    rw [installs] at outcome
    have settled : (lobby.engine.installs.outcome? entry).isSome = true := by rw [outcome]; rfl
    rw [step_goOn present, List.getElem?_set_self inside, Engine.resume_wait_of_over settled]
    simp only [Installs.joined, outcome]
    rfl
  | ready _ _ => cases joined
  | answered _ _ _ => exact absurd rfl (waits _)

/-- An engine that is ready because an attempt has ended well is lost only to denials. -/
theorem Sound.installed (sound : lobby.Sound) (refreshing : lobby.Refreshing)
    (ready : lobby.installs.Ready browser)
    (ended : lobby.installs.attempts[number]? = some ⟨browser, .ended (.ok ())⟩) :
    lobby.Installed browser number where
  kept later spared := (sound.ready_after refreshing ready spared).1
  told later spared index caller present own waits now found after state returned answered := by
    have orderly := (sound.after later).1
    have calm : ¬(lobby.after later).Denies ⟨now, .goOn index found⟩ browser := by
      rintro ⟨_, _, move, -⟩
      cases move
    have stays := orderly.ready_step (refreshing.after later)
      (sound.ready_after refreshing ready spared) calm
    obtain ⟨inside, -⟩ := List.getElem?_eq_some_iff.1 present
    rw [step_goOn present] at returned stays
    obtain rfl := Option.some.inj ((List.getElem?_set_self inside).symm.trans returned)
    obtain ⟨same, -⟩ :=
      (orderly.callers caller (List.mem_of_getElem? present)).resume_ok waits answered
    rw [same, own]
    exact stays.1
  denied later instant index next asks := by
    obtain ⟨activity, -, stepped⟩ := (refreshing.after later).step_lookOn asks instant false
    rw [stepped]
    exact congrArg InstallState.installed ((Installs.state_record _ _ _ _).trans (if_pos rfl))
  misled later instant index next asks waiting caller present joined waits now found := by
    obtain ⟨activity, -, stepped⟩ := (refreshing.after later).step_lookOn asks instant false
    obtain ⟨orderly, grows⟩ := sound.after later
    obtain ⟨stage, still, same⟩ := grows.attempts number browser _ ended
    rw [same rfl] at still
    have denied := (orderly.step ⟨instant, .lookOn index false⟩).1
    rw [stepped] at denied ⊢
    refine ⟨_, denied.step_goOn_joined still present joined waits now found, ?_⟩
    exact congrArg InstallState.installed ((Installs.state_record _ _ _ _).trans (if_pos rfl))

/-- In every history, an engine that an attempt has installed is lost to the denial of a probe. -/
theorem probed_after (engine : Engine) (history : List Turn) :
    ((fresh engine).after history).Probed := by
  have sound := ((sound_fresh engine).after history).1
  have refreshing : ((fresh engine).after history).Refreshing :=
    Refreshing.after (by simp [Refreshing, fresh]) history
  have found : ∀ caller ∈ ((fresh engine).after history).callers, Found caller :=
    (sound_fresh engine).found_after (by simp [fresh]) history
  refine ⟨fun index browser next now found asks => ?_, found,
    fun now number browser installing => ?_⟩
  · obtain ⟨activity, -, stepped⟩ := refreshing.step_lookOn asks now found
    rw [stepped]
    rfl
  · have installs := Installs.installing?_eq_some_iff.1 installing
    have after := (sound.step ⟨now, .finish number (.ok ())⟩).1
    exact after.installed (refreshing.step _) (Installs.ready_endAttempt installs)
      (Installs.ended_endAttempt installs (.ok ()))

section Sample

/-- A refresh asks the host for an engine, and then a caller that needs the engine installs it. -/
def sampleRace : Lobby :=
  (fresh (System.sample []).engine).after
    [⟨0, .refresh⟩, ⟨1, .call .chromium⟩, ⟨2, .goOn 0 false⟩, ⟨3, .begin 0⟩]

/-- The install ends well. -/
def sampleInstalled : Lobby :=
  sampleRace.step ⟨4, .finish 0 (.ok ())⟩

/-- The refresh hears only now what was true when it asked, and then the caller goes on. -/
def sampleMisled : Lobby :=
  sampleInstalled.after [⟨5, .lookOn 0 false⟩, ⟨6, .goOn 0 false⟩]

/-- The probe from before the install takes the engine off the record, and the caller returns so. -/
theorem not_lasting_sampleRace :
    (¬∀ index next, sampleRace.refreshes[index]? = some (.probe .chromium next) →
      (sampleInstalled.installs.state .chromium).installed = true → ∀ found,
        ((sampleInstalled.step ⟨5, .lookOn index found⟩).installs.state .chromium).installed =
          true) ∧
    ¬∀ caller ∈ sampleMisled.callers, ∀ state, caller.activity = .done (.ok state) →
      state.installed = true := by
  constructor
  · intro lasting
    have lost := lasting 0 _ rfl rfl false
    cases lost
  · intro honest
    have missing := honest _ List.mem_cons_self ⟨.chromium, false, false, none⟩ rfl
    cases missing

end Sample

end Lobby

end StepRunner
