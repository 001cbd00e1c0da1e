import Mathlib.Logic.Basic
import StepRunner.Install

/-!
This file relates what is known about the engines to the attempts to install them.
Each engine has at most one attempt without an outcome on record.
-/

namespace StepRunner

/-- An attempt has not recorded an outcome. -/
def AttemptStage.isOpen : AttemptStage → Bool
  | ended _ => false
  | _ => true

/-- Nothing more happens to an attempt. -/
def AttemptStage.isOver : AttemptStage → Bool
  | ended _ | panicked => true
  | _ => false

namespace Installs

/-- A new attempt to install an engine is opened. -/
def opening (installs : Installs) (browser : Browser) : Installs :=
  let marked := installs.update browser fun state =>
    { state with inProgress := true, lastError := none }
  { marked with
    inflight := marked.inflight.set browser (some installs.attempts.length)
    attempts := marked.attempts ++ [⟨browser, .opened⟩] }

/-- What callers and attempts do in one piece of code. -/
inductive Work (before : Installs) : Installs → Prop where
  | rests : Work before before
  /-- A caller learns that the host has an engine. -/
  | finds (browser : Browser) : Work before (before.record browser true)
  | opens {browser : Browser} (free : before.inflight.get browser = none)
      (missing : (before.state browser).installed = false) : Work before (before.opening browser)
  | begins {number : Nat} {browser : Browser}
      (opened : before.attempts[number]? = some ⟨browser, .opened⟩) :
      Work before (before.beginAttempt number)
  | ends {number : Nat} {browser : Browser} (result : Except String Unit)
      (installing : before.attempts[number]? = some ⟨browser, .installing⟩) :
      Work before (before.endAttempt number result)
  | panics {number : Nat} {browser : Browser}
      (installing : before.attempts[number]? = some ⟨browser, .installing⟩) :
      Work before (before.panicAttempt number)

variable {installs before after : Installs} {browser : Browser} {number : Nat}

section Attempts

theorem opened?_eq_some_iff :
    installs.opened? number = some browser ↔
      installs.attempts[number]? = some ⟨browser, .opened⟩ := by
  unfold opened?
  split
  · next found => simp [found]
  · next differs =>
    simp only [reduceCtorEq, false_iff]
    exact differs browser

theorem installing?_eq_some_iff :
    installs.installing? number = some browser ↔
      installs.attempts[number]? = some ⟨browser, .installing⟩ := by
  unfold installing?
  split
  · next found => simp [found]
  · next differs =>
    simp only [reduceCtorEq, false_iff]
    exact differs browser

theorem work_beginAttempt (installs : Installs) (number : Nat) :
    Work installs (installs.beginAttempt number) := by
  cases found : installs.opened? number with
  | some browser => exact .begins (opened?_eq_some_iff.1 found)
  | none =>
    have rests : installs.beginAttempt number = installs := by simp [beginAttempt, found]
    rw [rests]
    exact .rests

theorem work_endAttempt (installs : Installs) (number : Nat) (result : Except String Unit) :
    Work installs (installs.endAttempt number result) := by
  cases found : installs.installing? number with
  | some browser => exact .ends result (installing?_eq_some_iff.1 found)
  | none =>
    have rests : installs.endAttempt number result = installs := by simp [endAttempt, found]
    rw [rests]
    exact .rests

theorem work_panicAttempt (installs : Installs) (number : Nat) :
    Work installs (installs.panicAttempt number) := by
  cases found : installs.installing? number with
  | some browser => exact .panics (installing?_eq_some_iff.1 found)
  | none =>
    have rests : installs.panicAttempt number = installs := by simp [panicAttempt, found]
    rw [rests]
    exact .rests

end Attempts

section Fields

@[simp] theorem state_update (installs : Installs) (browser other : Browser)
    (change : InstallState → InstallState) :
    (installs.update browser change).state other =
      if other = browser then change (installs.state browser) else installs.state other := by
  simp [update, state]

theorem state_record (installs : Installs) (browser other : Browser) (found : Bool) :
    (installs.record browser found).state other =
      if other = browser then { installs.state browser with installed := found }
      else installs.state other :=
  state_update ..

theorem state_opening (installs : Installs) (browser other : Browser) :
    (installs.opening browser).state other =
      if other = browser then { installs.state browser with inProgress := true, lastError := none }
      else installs.state other :=
  state_update installs browser other fun state =>
    { state with inProgress := true, lastError := none }

theorem inflight_opening (installs : Installs) (browser other : Browser) :
    (installs.opening browser).inflight.get other =
      if other = browser then some installs.attempts.length else installs.inflight.get other :=
  PerBrowser.get_set ..

theorem attempts_opening (installs : Installs) (browser : Browser) (other : Nat) :
    (installs.opening browser).attempts[other]? =
      if other = installs.attempts.length then some ⟨browser, .opened⟩
      else installs.attempts[other]? := by
  change (installs.attempts ++ [⟨browser, .opened⟩])[other]? = _
  rw [List.getElem?_append, List.getElem?_singleton]
  split
  · next inside => rw [if_neg (Nat.ne_of_lt inside)]
  · next outside =>
    split
    · next last => rw [if_pos (by omega)]
    · next beyond => rw [if_neg (by omega), List.getElem?_eq_none (by omega)]

theorem attempts_setStage {old stage : AttemptStage}
    (found : installs.attempts[number]? = some ⟨browser, old⟩) (other : Nat) :
    (installs.setStage number stage).attempts[other]? =
      if number = other then some ⟨browser, stage⟩ else installs.attempts[other]? := by
  simp only [setStage, List.getElem?_modify]
  split
  · next same => simp [← same, found]
  · simp

theorem beginAttempt_eq (opened : installs.attempts[number]? = some ⟨browser, .opened⟩) :
    installs.beginAttempt number =
      ((installs.setStage number .installing).emit ⟨browser, .starting, none⟩).emit
        ⟨browser, .installing, none⟩ := by
  simp [beginAttempt, opened?_eq_some_iff.2 opened]

theorem panicAttempt_eq (installing : installs.attempts[number]? = some ⟨browser, .installing⟩) :
    installs.panicAttempt number = installs.setStage number .panicked := by
  simp [panicAttempt, installing?_eq_some_iff.2 installing]

/-- What is on record about an engine once an attempt to install it has ended. -/
def concluded (result : Except String Unit) (state : InstallState) : InstallState :=
  match result with
  | .ok _ => { state with installed := true, inProgress := false, lastError := none }
  | .error reason =>
    { state with installed := false, inProgress := false, lastError := some reason }

/-- What observers learn when an attempt has ended. -/
def report (browser : Browser) : Except String Unit → InstallEvent
  | .ok _ => ⟨browser, .completed, none⟩
  | .error reason => ⟨browser, .failed, some reason⟩

/-- The outcome of an attempt is put on record, and no attempt is under way. -/
def concluding (installs : Installs) (browser : Browser) (result : Except String Unit) : Installs :=
  let recorded := installs.update browser (concluded result)
  { recorded with inflight := recorded.inflight.set browser none }

theorem endAttempt_eq (installing : installs.attempts[number]? = some ⟨browser, .installing⟩)
    (result : Except String Unit) :
    installs.endAttempt number result =
      ((installs.concluding browser result).emit (report browser result)).setStage number
        (.ended result) := by
  simp only [endAttempt, installing?_eq_some_iff.2 installing]
  cases result <;> rfl

theorem attempts_endAttempt
    (installing : installs.attempts[number]? = some ⟨browser, .installing⟩)
    {result : Except String Unit} (other : Nat) :
    (installs.endAttempt number result).attempts[other]? =
      if number = other then some ⟨browser, .ended result⟩ else installs.attempts[other]? := by
  have found : ((installs.concluding browser result).emit (report browser result)).attempts[number]?
      = some ⟨browser, .installing⟩ := installing
  rw [endAttempt_eq installing]
  exact attempts_setStage found other

/-- An attempt that ends has its outcome on record. -/
theorem ended_endAttempt (installing : installs.attempts[number]? = some ⟨browser, .installing⟩)
    (result : Except String Unit) :
    (installs.endAttempt number result).attempts[number]? = some ⟨browser, .ended result⟩ :=
  (attempts_endAttempt installing number).trans (if_pos rfl)

theorem state_concluding (installs : Installs) (browser other : Browser)
    (result : Except String Unit) :
    (installs.concluding browser result).state other =
      if other = browser then concluded result (installs.state browser)
      else installs.state other :=
  state_update ..

theorem inflight_concluding (installs : Installs) (browser other : Browser)
    (result : Except String Unit) :
    (installs.concluding browser result).inflight.get other =
      if other = browser then none else installs.inflight.get other :=
  PerBrowser.get_set ..

end Fields

section Consistency

/-- The engine of an attempt that has no outcome on record. -/
def underway? (installs : Installs) (number : Nat) : Option Browser :=
  installs.attempts[number]?.bind fun attempt =>
    if attempt.stage.isOpen then some attempt.browser else none

theorem underway?_eq_some_iff :
    installs.underway? number = some browser ↔
      ∃ stage, installs.attempts[number]? = some ⟨browser, stage⟩ ∧ stage.isOpen = true := by
  simp only [underway?, Option.bind_eq_some_iff, Option.ite_none_right_eq_some, Option.some.injEq]
  constructor
  · rintro ⟨⟨_, stage⟩, found, waits, rfl⟩
    exact ⟨stage, found, waits⟩
  · rintro ⟨stage, found, waits⟩
    exact ⟨_, found, waits, rfl⟩

theorem underway?_opening (installs : Installs) (browser : Browser) (number : Nat) :
    (installs.opening browser).underway? number =
      if number = installs.attempts.length then some browser else installs.underway? number := by
  unfold underway?
  rw [attempts_opening]
  split <;> rfl

theorem underway?_setStage {old stage : AttemptStage}
    (found : installs.attempts[number]? = some ⟨browser, old⟩) (other : Nat) :
    (installs.setStage number stage).underway? other =
      if number = other then if stage.isOpen then some browser else none
      else installs.underway? other := by
  unfold underway?
  rw [attempts_setStage found]
  split <;> rfl

/-- The states of the engines and the attempts under way agree with the attempts so far. -/
structure Consistent (installs : Installs) : Prop where
  inProgress : ∀ browser,
    (installs.state browser).inProgress = (installs.inflight.get browser).isSome
  inflight : ∀ browser number,
    installs.inflight.get browser = some number ↔ installs.underway? number = some browser

theorem consistent_fresh : Consistent {} where
  inProgress browser := by
    cases browser <;> rfl
  inflight browser number := by simp [underway?]

theorem Consistent.record (consistent : installs.Consistent) (browser : Browser) (found : Bool) :
    (installs.record browser found).Consistent where
  inProgress other := by
    have same := consistent.inProgress other
    rw [state_record]
    split
    · next equal => exact equal ▸ same
    · exact same
  inflight := consistent.inflight

theorem Consistent.opening (consistent : installs.Consistent)
    (free : installs.inflight.get browser = none) : (installs.opening browser).Consistent := by
  refine ⟨fun other => ?_, fun other number => ?_⟩
  · rw [state_opening, inflight_opening]
    split
    · rfl
    · exact consistent.inProgress other
  · have before := consistent.inflight other number
    rw [inflight_opening, underway?_opening]
    split
    · next same =>
      rw [same, free] at before
      split
      · next last => simp [last, same]
      · next earlier => simpa [Ne.symm earlier, same] using before
    · next differs =>
      split
      · next last =>
        -- The number of the new attempt was not in use.
        have unknown : installs.underway? number = none := by simp [underway?, last]
        simpa [unknown, Ne.symm differs] using before
      · exact before

/-- An attempt goes on to another stage without an outcome. -/
theorem Consistent.setStage (consistent : installs.Consistent) {old stage : AttemptStage}
    (found : installs.attempts[number]? = some ⟨browser, old⟩) (waited : old.isOpen = true)
    (waits : stage.isOpen = true) : (installs.setStage number stage).Consistent := by
  refine ⟨consistent.inProgress, fun other entry => (consistent.inflight other entry).trans ?_⟩
  rw [underway?_setStage found, if_pos waits]
  split
  · next same => rw [← same, underway?_eq_some_iff.2 ⟨old, found, waited⟩]
  · rfl

/-- An attempt that was under way ends, and its outcome goes on record. -/
theorem Consistent.endAttempt (consistent : installs.Consistent)
    (installing : installs.attempts[number]? = some ⟨browser, .installing⟩)
    (result : Except String Unit) : (installs.endAttempt number result).Consistent := by
  have own : installs.underway? number = some browser :=
    underway?_eq_some_iff.2 ⟨_, installing, rfl⟩
  have held := (consistent.inflight browser number).2 own
  rw [endAttempt_eq installing]
  refine ⟨fun other => ?_, fun other entry => ?_⟩
  · have before := consistent.inProgress other
    change ((installs.concluding browser result).state other).inProgress =
      ((installs.concluding browser result).inflight.get other).isSome
    rw [state_concluding, inflight_concluding]
    split
    · cases result <;> rfl
    · exact before
  · have before := consistent.inflight other entry
    change (installs.concluding browser result).inflight.get other = some entry ↔
      ((installs.concluding browser result).setStage number (.ended result)).underway? entry =
        some other
    have found : (installs.concluding browser result).attempts[number]? =
        some ⟨browser, .installing⟩ := installing
    rw [inflight_concluding, underway?_setStage found]
    split
    · next same =>
      rw [same, held] at before
      split
      · simp [AttemptStage.isOpen]
      · next differs =>
        have elsewhere : installs.underway? entry ≠ some browser := by simpa [differs] using before
        rw [same]
        exact iff_of_false (by simp) elsewhere
    · next differs =>
      split
      · next same =>
        rw [← same, own] at before
        simpa [AttemptStage.isOpen, Ne.symm differs, ← same] using before
      · exact before

/-- Every piece of code keeps the engines consistent with their attempts. -/
theorem Consistent.work (consistent : before.Consistent) (work : Work before after) :
    after.Consistent := by
  cases work with
  | rests => exact consistent
  | finds browser => exact consistent.record browser true
  | opens free missing => exact consistent.opening free
  | begins opened =>
    rw [beginAttempt_eq opened]
    have begun : (before.setStage _ .installing).Consistent := consistent.setStage opened rfl rfl
    exact ⟨begun.inProgress, begun.inflight⟩
  | ends result installing => exact consistent.endAttempt installing result
  | panics installing =>
    rw [panicAttempt_eq installing]
    exact consistent.setStage installing rfl rfl

end Consistency

section Histories

/-- One piece of code opens an attempt, takes one attempt to another stage, or does neither. -/
theorem Work.changes (work : Work before after) :
    (∀ entry : Nat, after.attempts[entry]? = before.attempts[entry]?) ∨
    (∃ browser, before.inflight.get browser = none ∧ (before.state browser).installed = false ∧
      ∀ entry : Nat, after.attempts[entry]? =
        if entry = before.attempts.length then some ⟨browser, .opened⟩
        else before.attempts[entry]?) ∨
    ∃ (number : Nat) (browser : Browser) (old later : AttemptStage),
      before.attempts[number]? = some ⟨browser, old⟩ ∧ old.isOver = false ∧
      ∀ entry, after.attempts[entry]? =
        if number = entry then some ⟨browser, later⟩ else before.attempts[entry]? := by
  cases work with
  | rests => exact .inl fun _ => rfl
  | finds _ => exact .inl fun _ => rfl
  | opens free missing => exact .inr (.inl ⟨_, free, missing, attempts_opening before _⟩)
  | begins opened =>
    rw [beginAttempt_eq opened]
    exact .inr (.inr ⟨_, _, _, .installing, opened, rfl, attempts_setStage opened⟩)
  | ends result installing =>
    exact .inr (.inr ⟨_, _, _, .ended result, installing, rfl, attempts_endAttempt installing⟩)
  | panics installing =>
    rw [panicAttempt_eq installing]
    exact .inr (.inr ⟨_, _, _, .panicked, installing, rfl, attempts_setStage installing⟩)

/-- An attempt keeps its number and its engine, and its stage once nothing more happens to it. -/
theorem Work.attempts (work : Work before after) {stage : AttemptStage}
    (known : before.attempts[number]? = some ⟨browser, stage⟩) :
    ∃ later, after.attempts[number]? = some ⟨browser, later⟩ ∧
      (stage.isOver = true → later = stage) := by
  obtain ⟨inside, -⟩ := List.getElem?_eq_some_iff.1 known
  rcases work.changes with same | ⟨_, _, _, opened⟩ | ⟨entry, _, _, later, found, waits, changed⟩
  · exact ⟨stage, (same number).trans known, fun _ => rfl⟩
  · refine ⟨stage, ?_, fun _ => rfl⟩
    rw [opened, if_neg (Nat.ne_of_lt inside), known]
  · rw [changed]
    by_cases same : entry = number
    · subst same
      obtain ⟨rfl, rfl⟩ := Attempt.mk.inj (Option.some.inj (found.symm.trans known))
      refine ⟨later, if_pos rfl, fun finished => ?_⟩
      rw [waits] at finished
      cases finished
    · exact ⟨stage, by rw [if_neg same, known], fun _ => rfl⟩

theorem exists_isOver_of_outcome? {outcome : Except String Unit}
    (known : installs.outcome? number = some outcome) :
    ∃ browser stage, installs.attempts[number]? = some ⟨browser, stage⟩ ∧
      stage.isOver = true := by
  unfold outcome? at known
  split at known
  · next found => exact ⟨_, _, found, rfl⟩
  · next found => exact ⟨_, _, found, rfl⟩
  · cases known

/-- The outcome of an attempt never changes. -/
theorem Work.outcome?_eq (work : Work before after) {outcome : Except String Unit}
    (known : before.outcome? number = some outcome) : after.outcome? number = some outcome := by
  obtain ⟨browser, stage, found, finished⟩ := exists_isOver_of_outcome? known
  obtain ⟨later, kept, same⟩ := work.attempts found
  rw [same finished, ← found] at kept
  unfold outcome?
  rw [kept]
  exact known

/-- An attempt is opened only for an engine that is missing and has no attempt under way. -/
theorem Work.opened_of_new (work : Work before after) {attempt : Attempt}
    (new : before.attempts[number]? = none) (found : after.attempts[number]? = some attempt) :
    attempt.stage = .opened ∧ (before.state attempt.browser).installed = false ∧
      before.inflight.get attempt.browser = none := by
  rcases work.changes with
    same | ⟨browser, free, missing, opened⟩ | ⟨entry, _, _, _, old, _, changed⟩
  · rw [same, new] at found
    cases found
  · rw [opened, new] at found
    split at found
    · obtain rfl := Option.some.inj found
      exact ⟨rfl, missing, free⟩
    · cases found
  · rw [changed, new] at found
    split at found
    · next same =>
      rw [same, new] at old
      cases old
    · cases found

/-- An engine is there, and no attempt to install it is under way. -/
def Ready (installs : Installs) (browser : Browser) : Prop :=
  (installs.state browser).installed = true ∧ installs.inflight.get browser = none

/-- Callers and attempts never lose an engine that is ready. -/
theorem Ready.work (ready : before.Ready browser) (consistent : before.Consistent)
    (work : Work before after) : after.Ready browser := by
  obtain ⟨installed, free⟩ := ready
  cases work with
  | rests => exact ⟨installed, free⟩
  | finds other =>
    refine ⟨?_, free⟩
    rw [state_record]
    split
    · rfl
    · exact installed
  | @opens other idle missing =>
    have differs : browser ≠ other := by
      rintro rfl
      rw [missing] at installed
      cases installed
    rw [Ready, state_opening, inflight_opening, if_neg differs, if_neg differs]
    exact ⟨installed, free⟩
  | begins opened =>
    rw [beginAttempt_eq opened]
    exact ⟨installed, free⟩
  | @ends entry other result installing =>
    -- An attempt to this engine would not be under way.
    have differs : browser ≠ other := by
      rintro rfl
      have held := (consistent.inflight browser entry).2
        (underway?_eq_some_iff.2 ⟨_, installing, rfl⟩)
      rw [free] at held
      cases held
    rw [endAttempt_eq installing]
    change ((before.concluding other result).state browser).installed = true ∧
      (before.concluding other result).inflight.get browser = none
    rw [state_concluding, inflight_concluding, if_neg differs, if_neg differs]
    exact ⟨installed, free⟩
  | panics installing =>
    rw [panicAttempt_eq installing]
    exact ⟨installed, free⟩

/-- An attempt that ends well leaves its engine ready. -/
theorem ready_endAttempt (installing : before.attempts[number]? = some ⟨browser, .installing⟩) :
    (before.endAttempt number (.ok ())).Ready browser := by
  rw [endAttempt_eq installing]
  change ((before.concluding browser (.ok ())).state browser).installed = true ∧
    (before.concluding browser (.ok ())).inflight.get browser = none
  rw [state_concluding, inflight_concluding, if_pos rfl, if_pos rfl]
  exact ⟨rfl, rfl⟩

/-- An engine that an attempt has installed is there, and no attempt to install it is under way. -/
def Lasting (installs : Installs) : Prop :=
  ∀ (number : Nat) (browser : Browser),
    installs.attempts[number]? = some ⟨browser, .ended (.ok ())⟩ →
      (installs.state browser).installed = true ∧ installs.inflight.get browser = none

theorem lasting_fresh : Lasting {} := by
  intro number browser ended
  cases ended

/-- Callers and attempts never lose an engine that an attempt has installed. -/
theorem Lasting.work (lasting : before.Lasting) (consistent : before.Consistent)
    (work : Work before after) : after.Lasting := by
  intro number browser ended
  by_cases earlier : before.attempts[number]? = some ⟨browser, .ended (.ok ())⟩
  · have ready : before.Ready browser := lasting number browser earlier
    exact ready.work consistent work
  -- Only the end of the attempt itself can have put its outcome on record.
  cases work with
  | rests => exact absurd ended earlier
  | finds other => exact absurd ended earlier
  | @opens other free missing =>
    rw [attempts_opening] at ended
    split at ended
    · cases ended
    · exact absurd ended earlier
  | begins opened =>
    rw [beginAttempt_eq opened] at ended
    have changed := (attempts_setStage opened number).symm.trans ended
    split at changed
    · cases changed
    · exact absurd changed earlier
  | @ends entry other result installing =>
    have changed := (attempts_endAttempt installing number).symm.trans ended
    split at changed
    · cases changed
      exact ready_endAttempt installing
    · exact absurd changed earlier
  | panics installing =>
    rw [panicAttempt_eq installing] at ended
    have changed := (attempts_setStage installing number).symm.trans ended
    split at changed
    · cases changed
    · exact absurd changed earlier

/-- Attempts keep their numbers, their engines and their outcomes. -/
structure Grows (before after : Installs) : Prop where
  attempts : ∀ (number : Nat) (browser : Browser) (stage : AttemptStage),
    before.attempts[number]? = some ⟨browser, stage⟩ →
      ∃ later, after.attempts[number]? = some ⟨browser, later⟩ ∧
        (stage.isOver = true → later = stage)
  outcomes : ∀ number outcome,
    before.outcome? number = some outcome → after.outcome? number = some outcome

theorem Grows.refl (installs : Installs) : Grows installs installs :=
  ⟨fun _ _ stage found => ⟨stage, found, fun _ => rfl⟩, fun _ _ known => known⟩

theorem Grows.trans {middle : Installs} (first : Grows before middle)
    (second : Grows middle after) : Grows before after := by
  refine ⟨fun number browser stage found => ?_, fun number outcome known => ?_⟩
  · obtain ⟨later, found, kept⟩ := first.attempts number browser stage found
    obtain ⟨last, found, stays⟩ := second.attempts number browser later found
    refine ⟨last, found, fun finished => ?_⟩
    obtain rfl := kept finished
    exact stays finished
  · exact second.outcomes number outcome (first.outcomes number outcome known)

theorem Work.grows (work : Work before after) : Grows before after :=
  ⟨fun _ _ _ found => work.attempts found, fun _ _ known => work.outcome?_eq known⟩

end Histories

section Callers

/-- What a caller learns from the engines, and what it leaves of them. -/
structure Settles (before : Installs) (browser : Browser) (answer : InstallAnswer)
    (after : Installs) : Prop where
  work : Work before after
  /-- A caller joins only attempts to install its engine. -/
  joins : ∀ number, answer = .wait number →
    ∃ stage, after.attempts[number]? = some ⟨browser, stage⟩

/-- A caller joins the attempt under way, or a new one if its engine is missing. -/
theorem Consistent.join (consistent : installs.Consistent) (browser : Browser) :
    Settles installs browser (installs.join browser).1 (installs.join browser).2 := by
  unfold Installs.join
  split
  · next number underway =>
    obtain ⟨stage, found, -⟩ :=
      underway?_eq_some_iff.1 ((consistent.inflight browser number).1 underway)
    refine ⟨.rests, ?_⟩
    rintro _ ⟨⟩
    exact ⟨stage, found⟩
  · next free =>
    split
    · exact ⟨.rests, nofun⟩
    · next missing =>
      refine ⟨.opens free (by simpa using missing), ?_⟩
      rintro _ ⟨⟩
      exact ⟨.opened, (attempts_opening installs browser _).trans (if_pos rfl)⟩

/-- A caller that asks for its engine has an answer at once or leaves everything as it is. -/
theorem Consistent.ask (consistent : installs.Consistent) (browser : Browser) :
    (∃ answer after, installs.ask browser = (some answer, after) ∧
      Settles installs browser answer after) ∨ installs.ask browser = (none, installs) := by
  simp only [Installs.ask]
  split
  · exact .inl ⟨_, _, rfl, .rests, nofun⟩
  · split
    · exact .inl ⟨_, _, rfl, consistent.join browser⟩
    · exact .inr rfl

/-- A caller takes the answer of the host. -/
theorem Consistent.probed (consistent : installs.Consistent) (browser : Browser) (found : Bool) :
    Settles installs browser (installs.probed browser found).1
      (installs.probed browser found).2 := by
  cases found with
  | true => exact ⟨.finds browser, nofun⟩
  | false => exact consistent.join browser

end Callers

end Installs

end StepRunner
