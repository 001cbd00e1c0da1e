import StepRunner.Proofs.Engine.System
import StepRunner.Proofs.Installs.Lobby

/-!
This file says what an attempt to install an engine leaves behind once it is over.
An attempt that succeeds or fails makes room for the next one.
An attempt whose installer panics stays in flight for good, and nobody installs the engine again.
-/

namespace StepRunner

/-- The reason for which an attempt has failed, as far as it is on record. -/
def AttemptStage.reason? : AttemptStage → Option String
  | ended (.error reason) => some reason
  | _ => none

namespace Installs

variable {installs before after : Installs} {browser : Browser} {number : Nat}

section Order

/-- No attempt to install an engine was opened after this one. -/
def IsLast (installs : Installs) (browser : Browser) (number : Nat) : Prop :=
  ∀ later stage, installs.attempts[later]? = some ⟨browser, stage⟩ → later ≤ number

/-- An attempt that goes on to another stage keeps its place among the attempts. -/
theorem isLast_iff_of_changed {old new : AttemptStage}
    (found : before.attempts[number]? = some ⟨browser, old⟩)
    (changed : ∀ entry, after.attempts[entry]? =
      if number = entry then some ⟨browser, new⟩ else before.attempts[entry]?)
    (other : Browser) (entry : Nat) :
    after.IsLast other entry ↔ before.IsLast other entry := by
  constructor
  · intro last later stage known
    by_cases same : number = later
    · subst same
      obtain ⟨rfl, rfl⟩ := Attempt.mk.inj (Option.some.inj (found.symm.trans known))
      exact last number new (by rw [changed, if_pos rfl])
    · exact last later stage (by rw [changed, if_neg same, known])
  · intro last later stage known
    rw [changed] at known
    split at known
    · next same =>
      obtain ⟨rfl, rfl⟩ := Attempt.mk.inj (Option.some.inj known)
      exact same ▸ last number old found
    · exact last later stage known

end Order

section Reports

/-- What is on record about an engine agrees with the last attempt to install it. -/
structure Reported (installs : Installs) : Prop where
  /-- The error on record is that of the last attempt. -/
  lastError : ∀ browser number stage, installs.attempts[number]? = some ⟨browser, stage⟩ →
    installs.IsLast browser number → (installs.state browser).lastError = stage.reason?
  /-- Only the last attempt is in flight. -/
  inflight : ∀ browser number, installs.inflight.get browser = some number →
    installs.IsLast browser number

theorem reported_fresh : Reported {} where
  lastError browser number stage found := by cases found
  inflight browser number underway := by simp at underway

theorem Reported.record (reported : installs.Reported) (browser : Browser) (found : Bool) :
    (installs.record browser found).Reported where
  lastError other number stage known last := by
    have before := reported.lastError other number stage known last
    rw [state_record]
    split
    · next same => exact same ▸ before
    · exact before
  inflight := reported.inflight

/-- A new attempt is the last one of its engine, and it has not failed yet. -/
theorem Reported.opening (reported : installs.Reported) (browser : Browser) :
    (installs.opening browser).Reported := by
  have isLast_of_ne : ∀ {other : Browser} {number : Nat}, other ≠ browser →
      ((installs.opening browser).IsLast other number ↔ installs.IsLast other number) := by
    intro other number differs
    refine forall_congr' fun later => forall_congr' fun stage => imp_congr_left ?_
    rw [attempts_opening]
    split
    · next new => simp [new, Ne.symm differs]
    · rfl
  refine ⟨fun other number stage known last => ?_, fun other number underway => ?_⟩
  · rw [attempts_opening] at known
    rw [state_opening]
    split at known
    · obtain ⟨rfl, rfl⟩ := Attempt.mk.inj (Option.some.inj known)
      rw [if_pos rfl]
      rfl
    · by_cases same : other = browser
      · -- An older attempt to the same engine is not the last one any more.
        subst same
        obtain ⟨inside, -⟩ := List.getElem?_eq_some_iff.1 known
        have newer := last installs.attempts.length .opened
          (by rw [attempts_opening, if_pos rfl])
        omega
      · rw [if_neg same]
        exact reported.lastError other number stage known ((isLast_of_ne same).1 last)
  · rw [inflight_opening] at underway
    split at underway
    · obtain rfl := Option.some.inj underway
      intro later stage known
      obtain ⟨inside, -⟩ := List.getElem?_eq_some_iff.1 known
      have length : (installs.opening browser).attempts.length = installs.attempts.length + 1 :=
        List.length_append
      omega
    · next differs => exact (isLast_of_ne differs).2 (reported.inflight other number underway)

/-- An attempt goes on without a failure on record, neither before nor after. -/
theorem Reported.setStage (reported : installs.Reported) {old stage : AttemptStage}
    (found : installs.attempts[number]? = some ⟨browser, old⟩) (calm : old.reason? = none)
    (calmly : stage.reason? = none) : (installs.setStage number stage).Reported := by
  have changed (other : Nat) : (installs.setStage number stage).attempts[other]? =
      if number = other then some ⟨browser, stage⟩ else installs.attempts[other]? :=
    attempts_setStage found other
  have isLast_iff := isLast_iff_of_changed found changed
  refine ⟨fun other entry later known last => ?_, fun other entry underway => ?_⟩
  · rw [isLast_iff] at last
    rw [changed] at known
    split at known
    · next same =>
      subst same
      obtain ⟨rfl, rfl⟩ := Attempt.mk.inj (Option.some.inj known)
      rw [calmly, ← calm]
      exact reported.lastError browser number old found last
    · exact reported.lastError other entry later known last
  · exact (isLast_iff other entry).2 (reported.inflight other entry underway)

/-- The outcome of an attempt goes on record, which is the last one of its engine. -/
theorem Reported.endAttempt (reported : installs.Reported) (consistent : installs.Consistent)
    (installing : installs.attempts[number]? = some ⟨browser, .installing⟩)
    (result : Except String Unit) : (installs.endAttempt number result).Reported := by
  have held : installs.inflight.get browser = some number :=
    (consistent.inflight browser number).2 (underway?_eq_some_iff.2 ⟨_, installing, rfl⟩)
  have changed (other : Nat) : (installs.endAttempt number result).attempts[other]? =
      if number = other then some ⟨browser, .ended result⟩ else installs.attempts[other]? :=
    attempts_endAttempt installing other
  have isLast_iff := isLast_iff_of_changed installing changed
  refine ⟨fun other entry later known last => ?_, fun other entry underway => ?_⟩
  · rw [isLast_iff] at last
    rw [changed] at known
    rw [endAttempt_eq installing]
    change ((installs.concluding browser result).state other).lastError = later.reason?
    rw [state_concluding]
    split at known
    · obtain ⟨rfl, rfl⟩ := Attempt.mk.inj (Option.some.inj known)
      rw [if_pos rfl]
      cases result <;> rfl
    · next differs =>
      have elsewhere : other ≠ browser := by
        rintro rfl
        have newer := last number .installing installing
        have older := reported.inflight other number held entry later known
        omega
      rw [if_neg elsewhere]
      exact reported.lastError other entry later known last
  · rw [isLast_iff]
    rw [endAttempt_eq installing] at underway
    change (installs.concluding browser result).inflight.get other = some entry at underway
    rw [inflight_concluding] at underway
    split at underway
    · cases underway
    · exact reported.inflight other entry underway

/-- Every piece of code keeps the records in agreement with the attempts. -/
theorem Reported.work (reported : before.Reported) (consistent : before.Consistent)
    (work : Work before after) : after.Reported := by
  cases work with
  | rests => exact reported
  | finds browser => exact reported.record browser true
  | opens free missing => exact reported.opening _
  | begins opened =>
    rw [beginAttempt_eq opened]
    have begun : (before.setStage _ .installing).Reported := reported.setStage opened rfl rfl
    exact ⟨begun.lastError, begun.inflight⟩
  | ends result installing => exact reported.endAttempt consistent installing result
  | panics installing =>
    rw [panicAttempt_eq installing]
    exact reported.setStage installing rfl rfl

end Reports

end Installs

namespace Lobby

variable {lobby : Lobby} {browser : Browser} {number : Nat}

section Histories

/-- What work and records keep, every turn keeps. -/
theorem Sound.keeps_step (sound : lobby.Sound) (turn : Turn) {kept : Installs → Prop}
    (work : ∀ before after, before.Consistent → kept before → before.Work after → kept after)
    (record : ∀ installs browser found, kept installs → kept (installs.record browser found))
    (holds : kept lobby.installs) : kept (lobby.step turn).installs := by
  cases refreshes : turn.refreshes with
  | false =>
    exact work _ _ sound.consistent holds ((sound.step turn).2.work refreshes)
  | true =>
    obtain ⟨now, move⟩ := turn
    cases move with
    | refresh => exact (Engine.records_refreshInstalls.advance now record holds).2
    | lookOn index found =>
      simp only [Lobby.step]
      split
      · exact holds
      · next activity present =>
        have waits := sound.refreshes activity (List.mem_of_getElem? present)
        exact (waits.resume now found record holds).2
    | call _ => cases refreshes
    | goOn _ _ => cases refreshes
    | begin _ => cases refreshes
    | finish _ _ => cases refreshes
    | panic _ => cases refreshes

/-- Every history keeps the records in agreement with the attempts. -/
theorem Sound.reported_after (sound : lobby.Sound) (reported : lobby.installs.Reported)
    (history : List Turn) : (lobby.after history).installs.Reported := by
  induction history generalizing lobby with
  | nil => exact reported
  | cons turn history inductionHypothesis =>
    exact inductionHypothesis (sound.step turn).1 <|
      sound.keeps_step turn (fun _ _ consistent reported => reported.work consistent)
        (fun _ browser found reported => reported.record browser found) reported

end Histories

section Endings

/-- A caller waits for the answer of the host. -/
def Asks (lobby : Lobby) (index : Nat) (browser : Browser) : Prop :=
  ∃ next, lobby.callers[index]? = some ⟨browser, .probe browser next, none⟩

/-- A caller has joined an attempt and waits for it. -/
def Joins (lobby : Lobby) (index : Nat) (browser : Browser) (number : Nat) : Prop :=
  ∃ next, lobby.callers[index]? = some ⟨browser, .await (.attempt number) id next, some number⟩

/-- A caller has opened an attempt of its own, which will call the installer. -/
structure Retries (before after : Lobby) (index : Nat) (browser : Browser) : Prop where
  attempts : after.installs.attempts = before.installs.attempts ++ [⟨browser, .opened⟩]
  joins : after.Joins index browser before.installs.attempts.length
  calls : ∀ now, after.calls? ⟨now, .begin before.installs.attempts.length⟩ = some browser

/-- After an attempt, the engine can be installed again. -/
structure Recovered (lobby : Lobby) (browser : Browser) (number : Nat) : Prop where
  inProgress : (lobby.installs.state browser).inProgress = false
  lastError_iff : (lobby.installs.state browser).lastError.isSome = true ↔
    lobby.installs.outcome? number ≠ some (.ok ())
  /-- The next caller that needs the missing engine asks the host. -/
  asks : (lobby.installs.state browser).installed = false → ∀ now,
    (lobby.step ⟨now, .call browser⟩).Asks lobby.callers.length browser ∧
      (lobby.step ⟨now, .call browser⟩).installs = lobby.installs
  /-- A caller to whom the host denies the missing engine opens another attempt. -/
  retries : (lobby.installs.state browser).installed = false → ∀ now index,
    lobby.Asks index browser → lobby.Retries (lobby.step ⟨now, .goOn index false⟩) index browser

/-- No attempt will install the engine any more. -/
structure Wedged (lobby : Lobby) (browser : Browser) (number : Nat) : Prop where
  inProgress : (lobby.installs.state browser).inProgress = true
  lastError : (lobby.installs.state browser).lastError = none
  /-- A caller that needs the missing engine joins the attempt that is over. -/
  joins : (lobby.installs.state browser).installed = false → ∀ now,
    (lobby.step ⟨now, .call browser⟩).Joins lobby.callers.length browser number
  /-- So does a caller to whom the host denies the engine. -/
  denied : ∀ now index, lobby.Asks index browser →
    (lobby.step ⟨now, .goOn index false⟩).Joins index browser number
  /-- All of them get the outcome of the attempt that is over. -/
  told : ∀ index caller, lobby.callers[index]? = some caller → caller.joined = some number →
    ∀ now found, (lobby.step ⟨now, .goOn index found⟩).callers[index]? =
      some { caller with activity := .done (.error Installs.panicMessage) }
  /-- Nobody calls the installer for the engine. -/
  silent : ∀ turn, lobby.calls? turn ≠ some browser

/-- What an attempt that is over leaves behind. -/
structure Aftermath (lobby : Lobby) (browser : Browser) (number : Nat)
    (stage : AttemptStage) : Prop where
  /-- Every caller that has joined the attempt has an answer. -/
  answered : ∀ index caller, lobby.callers[index]? = some caller → caller.joined = some number →
    ∀ now found, ∃ result, (lobby.step ⟨now, .goOn index found⟩).callers[index]? =
      some { caller with activity := .done result }
  /-- Until another attempt is opened, the engine is free for one unless the installer panicked. -/
  recovered_iff : lobby.installs.IsLast browser number →
    (lobby.Recovered browser number ↔ stage ≠ .panicked)
  /-- If it panicked, no history ever frees the engine. -/
  wedged : stage = .panicked → ∀ later, (lobby.after later).Wedged browser number

/-- A caller to whom the host denies its engine joins an attempt, its own or that of another. -/
theorem Sound.step_denied (sound : lobby.Sound) {index : Nat} (asking : lobby.Asks index browser)
    (now : Int) {answer : InstallAnswer} {after : Installs}
    (joined : lobby.installs.join browser = (answer, after)) :
    lobby.step ⟨now, .goOn index false⟩ =
      ⟨{ lobby.engine with installs := after },
        lobby.callers.set index ⟨browser, Engine.settleInstall browser id answer,
          (Engine.settleInstall browser id answer).awaited?⟩, lobby.refreshes⟩ := by
  obtain ⟨next, present⟩ := asking
  have denied : lobby.engine.installs.probed browser false = (answer, after) := joined
  cases sound.callers _ (List.mem_of_getElem? present) with
  | asks _ =>
    simp only [Lobby.step, present, Activity.resume, Engine.advance_settleProbe, denied,
      Option.or_none]

/-- An engine without an attempt in flight is free for one. -/
theorem Sound.recovered (sound : lobby.Sound) (reported : lobby.installs.Reported)
    {result : Except String Unit}
    (ended : lobby.installs.attempts[number]? = some ⟨browser, .ended result⟩)
    (last : lobby.installs.IsLast browser number) : lobby.Recovered browser number := by
  have free : lobby.installs.inflight.get browser = none := by
    rw [Option.eq_none_iff_forall_ne_some]
    intro other underway
    obtain ⟨stage, found, opened⟩ := Installs.underway?_eq_some_iff.1
      ((sound.consistent.inflight browser other).1 underway)
    -- The attempt in flight would be the last one too, but it has not ended.
    have newer := reported.inflight browser other underway number _ ended
    have older := last other stage found
    obtain rfl : other = number := by omega
    obtain ⟨-, rfl⟩ := Attempt.mk.inj (Option.some.inj (found.symm.trans ended))
    cases opened
  have idle : (lobby.installs.state browser).inProgress = false := by
    rw [sound.consistent.inProgress browser, free]
    rfl
  refine ⟨idle, ?_, fun missing now => ?_, fun missing now index asking => ?_⟩
  · rw [reported.lastError browser number _ ended last]
    cases result <;> simp [AttemptStage.reason?, Installs.outcome?, ended]
  · have asked : lobby.engine.installs.ask browser = (none, lobby.engine.installs) := by
      simp only [Lobby.installs] at missing idle
      simp [Installs.ask, missing, idle]
    simp only [Asks, Lobby.step, Lobby.installs, Engine.advance_ensureInstalled, asked]
    exact ⟨⟨_, List.getElem?_concat_length⟩, trivial⟩
  · have joined : lobby.installs.join browser =
        (.wait lobby.installs.attempts.length, lobby.installs.opening browser) := by
      simp only [Installs.join, free, missing]
      rfl
    obtain ⟨inside, -⟩ := List.getElem?_eq_some_iff.1 asking.choose_spec
    rw [sound.step_denied asking now joined]
    refine ⟨rfl, ⟨_, List.getElem?_set_self inside⟩, fun now => ?_⟩
    exact Installs.opened?_eq_some_iff.2 ((Installs.attempts_opening ..).trans (if_pos rfl))

/-- While an attempt that is over is in flight, its engine is wedged. -/
theorem Sound.wedged (sound : lobby.Sound) (reported : lobby.installs.Reported)
    (panicked : lobby.installs.attempts[number]? = some ⟨browser, .panicked⟩) :
    lobby.Wedged browser number := by
  have underway : lobby.installs.inflight.get browser = some number :=
    (sound.consistent.inflight browser number).2
      (Installs.underway?_eq_some_iff.2 ⟨_, panicked, rfl⟩)
  have busy : (lobby.installs.state browser).inProgress = true := by
    rw [sound.consistent.inProgress browser, underway]
    rfl
  have outcome : lobby.installs.outcome? number = some (.error Installs.panicMessage) := by
    simp only [Installs.outcome?, panicked]
  have joined : lobby.installs.join browser = (.wait number, lobby.installs) := by
    simp only [Installs.join, underway]
  refine ⟨busy, ?_, fun missing now => ?_, fun now index asking => ?_,
    fun index caller present waits now found => ?_, fun turn calls => ?_⟩
  · exact reported.lastError browser number _ panicked
      (reported.inflight browser number underway)
  · have asked : lobby.engine.installs.ask browser =
        (some (.wait number), lobby.engine.installs) := by
      simp only [Lobby.installs] at missing busy joined
      simp [Installs.ask, missing, busy, joined]
    simp only [Joins, Lobby.step, Engine.advance_ensureInstalled, asked]
    exact ⟨_, List.getElem?_concat_length⟩
  · obtain ⟨inside, -⟩ := List.getElem?_eq_some_iff.1 asking.choose_spec
    rw [sound.step_denied asking now joined]
    exact ⟨_, List.getElem?_set_self inside⟩
  · have told := told_of_stands (sound.callers caller (List.mem_of_getElem? present)) present waits
    obtain ⟨result, returned⟩ := told.returns now found (by rw [outcome]; rfl)
    -- The caller stands after its turn too, so what it returns is the outcome.
    obtain ⟨after, moved⟩ := sound.step ⟨now, .goOn index found⟩
    have stays := moved.grows.outcomes number _ outcome
    have stands := after.callers _ (List.mem_of_getElem? returned)
    obtain ⟨known, settled, same⟩ := (told_of_stands stands returned waits).told result rfl
    obtain rfl := Option.some.inj (settled.symm.trans stays)
    rw [returned, (same Installs.panicMessage).2 rfl]
  · unfold calls? at calls
    split at calls
    · next attempt begins =>
      have opened := Installs.opened?_eq_some_iff.1 calls
      have held := (sound.consistent.inflight browser attempt).2
        (Installs.underway?_eq_some_iff.2 ⟨_, opened, rfl⟩)
      obtain rfl := Option.some.inj (held.symm.trans underway)
      cases opened.symm.trans panicked
    · cases calls

/-- In every history an attempt that is over makes room for another one unless it panicked. -/
theorem aftermath_of_isOver (engine : Engine) (history : List Turn) {browser : Browser}
    {number : Nat} {stage : AttemptStage}
    (found : ((fresh engine).after history).installs.attempts[number]? = some ⟨browser, stage⟩)
    (ended : stage.isOver = true) :
    ((fresh engine).after history).Aftermath browser number stage := by
  have sound := ((sound_fresh engine).after history).1
  have reported := (sound_fresh engine).reported_after Installs.reported_fresh history
  have settled : (((fresh engine).after history).installs.outcome? number).isSome = true := by
    unfold Installs.outcome?
    rw [found]
    cases stage <;> first | rfl | cases ended
  refine ⟨fun index caller present joined now found => ?_, fun last => ⟨?_, ?_⟩, ?_⟩
  · exact (told_of_stands (sound.callers caller (List.mem_of_getElem? present))
      present joined).returns now found settled
  · rintro recovered rfl
    have wedged := (sound.wedged reported found).inProgress
    rw [recovered.inProgress] at wedged
    cases wedged
  · intro calm
    cases stage with
    | ended result => exact sound.recovered reported found last
    | panicked => exact absurd rfl calm
    | opened => cases ended
    | installing => cases ended
  · rintro rfl later
    have afterwards := sound.after later
    obtain ⟨stage, still, same⟩ := afterwards.2.attempts number browser _ found
    rw [same rfl] at still
    exact afterwards.1.wedged (sound.reported_after reported later) still

end Endings

section Sample

/-- A caller needs an engine that the host does not have, and its attempt comes to an end. -/
def sampleInstall (ending : Move) : List Turn :=
  [⟨1, .call .chromium⟩, ⟨2, .goOn 0 false⟩, ⟨3, .begin 0⟩, ⟨4, ending⟩]

/-- The lobby after the first attempt to install an engine. -/
def sampleLobby (ending : Move) : Lobby :=
  (fresh (System.sample []).engine).after (sampleInstall ending)

/-- After a download that failed, the next caller may try again. -/
theorem aftermath_sampleLobby :
    (sampleLobby (.finish 0 (.error "download failed"))).installs.attempts[0]? =
        some ⟨.chromium, .ended (.error "download failed")⟩ ∧
      (AttemptStage.ended (.error "download failed")).isOver = true ∧
      (sampleLobby (.finish 0 (.error "download failed"))).Aftermath .chromium 0
        (.ended (.error "download failed")) :=
  ⟨rfl, rfl, aftermath_of_isOver _ (sampleInstall (.finish 0 (.error "download failed"))) rfl rfl⟩

/-- After a panic of the installer nobody may. -/
theorem not_recovered_sampleLobby :
    ¬∀ stage, (sampleLobby (.panic 0)).installs.attempts[0]? = some ⟨.chromium, stage⟩ →
      stage.isOver = true → (sampleLobby (.panic 0)).installs.IsLast .chromium 0 →
        (sampleLobby (.panic 0)).Recovered .chromium 0 := by
  intro promise
  have only : (sampleLobby (.panic 0)).installs.attempts = [⟨.chromium, .panicked⟩] := rfl
  have last : (sampleLobby (.panic 0)).installs.IsLast .chromium 0 := by
    intro later stage found
    obtain ⟨inside, -⟩ := List.getElem?_eq_some_iff.1 found
    rw [only] at inside
    exact Nat.le_of_lt_succ inside
  have busy : ((sampleLobby (.panic 0)).installs.state .chromium).inProgress = true := rfl
  have idle := (promise .panicked rfl rfl last).inProgress
  rw [busy] at idle
  cases idle

end Sample

end Lobby

end StepRunner
