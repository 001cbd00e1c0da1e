import Mathlib.Data.List.Basic
import StepRunner.Proofs.Installs.Endings

/-!
This file says what observers of the installs learn in every history.
Each call of the installer gives one block of events, and the blocks of an engine follow one
another.
-/

namespace StepRunner

/-- What observers have learned about an attempt: nothing before it calls the installer. -/
def Attempt.block (attempt : Attempt) : List InstallEvent :=
  let called : List InstallEvent :=
    [⟨attempt.browser, .starting, none⟩, ⟨attempt.browser, .installing, none⟩]
  match attempt.stage with
  | .opened => []
  | .installing | .panicked => called
  | .ended result => called ++ [Installs.report attempt.browser result]

namespace Installs

variable {installs before after : Installs} {browser own : Browser} {number : Nat}
  {calls : List Nat}

section Blocks

theorem beginAttempt_of_not_opened (idle : installs.opened? number = none) :
    installs.beginAttempt number = installs := by
  simp [beginAttempt, idle]

theorem endAttempt_of_not_installing (idle : installs.installing? number = none)
    (result : Except String Unit) : installs.endAttempt number result = installs := by
  simp [endAttempt, idle]

theorem panicAttempt_of_not_installing (idle : installs.installing? number = none) :
    installs.panicAttempt number = installs := by
  simp [panicAttempt, idle]

/-- What observers have learned about the attempt with a number. -/
def block (installs : Installs) (number : Nat) : List InstallEvent :=
  (installs.attempts[number]?.map Attempt.block).getD []

/-- Observers learn nothing, and no attempt goes on, but a new one may be opened. -/
structure Quiet (before after : Installs) : Prop where
  events : after.events = before.events
  attempts : after.attempts = before.attempts ∨
    ∃ browser, after.attempts = before.attempts ++ [⟨browser, .opened⟩]

/-- The events of an engine are the blocks of its attempts that have called the installer. -/
structure Blocks (installs : Installs) (browser : Browser) (calls : List Nat) : Prop where
  events : installs.events.filter (·.browser = browser) = calls.flatMap installs.block
  mem_iff : ∀ number, number ∈ calls ↔
    ∃ stage, installs.attempts[number]? = some ⟨browser, stage⟩ ∧ stage ≠ .opened
  increasing : calls.Pairwise (· < ·)

theorem Quiet.refl (installs : Installs) : Quiet installs installs :=
  ⟨rfl, .inl rfl⟩

theorem quiet_record (installs : Installs) (browser : Browser) (found : Bool) :
    Quiet installs (installs.record browser found) :=
  ⟨rfl, .inl rfl⟩

theorem quiet_join (installs : Installs) (browser : Browser) :
    Quiet installs (installs.join browser).2 := by
  unfold Installs.join
  split
  · exact .refl installs
  · split
    · exact .refl installs
    · exact ⟨rfl, .inr ⟨browser, rfl⟩⟩

theorem quiet_ask (installs : Installs) (browser : Browser) :
    Quiet installs (installs.ask browser).2 := by
  simp only [Installs.ask]
  split
  · exact .refl installs
  · split
    · exact quiet_join installs browser
    · exact .refl installs

theorem quiet_probed (installs : Installs) (browser : Browser) (found : Bool) :
    Quiet installs (installs.probed browser found).2 := by
  cases found with
  | true => exact quiet_record installs browser true
  | false => exact quiet_join installs browser

/-- An attempt that has called the installer keeps its place while nobody goes on. -/
theorem Quiet.called_iff (quiet : Quiet before after) {attempt : Attempt}
    (called : attempt.stage ≠ .opened) :
    after.attempts[number]? = some attempt ↔ before.attempts[number]? = some attempt := by
  rcases quiet.attempts with same | ⟨opened, more⟩
  · rw [same]
  · rw [more, List.getElem?_append]
    split
    · rfl
    · next outside =>
      rw [List.getElem?_eq_none (Nat.le_of_not_lt outside), List.getElem?_singleton]
      split
      · simp only [Option.some.injEq, reduceCtorEq, iff_false]
        rintro rfl
        exact called rfl
      · rfl

/-- The blocks of attempts that have called the installer stay while nobody goes on. -/
theorem Blocks.quiet (blocks : before.Blocks browser calls) (quiet : Quiet before after) :
    after.Blocks browser calls := by
  refine ⟨?_, fun number => (blocks.mem_iff number).trans ?_, blocks.increasing⟩
  · rw [quiet.events, blocks.events]
    refine List.flatMap_congr fun number called => ?_
    obtain ⟨stage, found, begun⟩ := (blocks.mem_iff number).1 called
    rw [block, block, found, (quiet.called_iff begun).2 found]
  · exact exists_congr fun stage => and_congr_left fun begun => (quiet.called_iff begun).symm

/-- What a change of one attempt does to the blocks. -/
theorem block_of_changed {new : AttemptStage} (changed : ∀ entry, after.attempts[entry]? =
      if number = entry then some ⟨own, new⟩ else before.attempts[entry]?) (entry : Nat) :
    after.block entry =
      if number = entry then Attempt.block ⟨own, new⟩ else before.block entry := by
  rw [block, changed]
  split <;> rfl

/-- The attempts of another engine are left alone when an attempt goes on. -/
theorem own_of_changed {old new : AttemptStage}
    (found : before.attempts[number]? = some ⟨own, old⟩)
    (changed : ∀ entry, after.attempts[entry]? =
      if number = entry then some ⟨own, new⟩ else before.attempts[entry]?)
    (differs : own ≠ browser) (entry : Nat) (stage : AttemptStage) :
    after.attempts[entry]? = some ⟨browser, stage⟩ ↔
      before.attempts[entry]? = some ⟨browser, stage⟩ := by
  rw [changed]
  split
  · next same =>
    subst same
    rw [found]
    simp [differs]
  · rfl

/-- The blocks of another engine stay when an attempt goes on. -/
theorem Blocks.elsewhere (blocks : before.Blocks browser calls) {old new : AttemptStage}
    (found : before.attempts[number]? = some ⟨own, old⟩)
    (changed : ∀ entry, after.attempts[entry]? =
      if number = entry then some ⟨own, new⟩ else before.attempts[entry]?)
    (differs : own ≠ browser) {told : List InstallEvent}
    (events : after.events = before.events ++ told)
    (others : ∀ event ∈ told, event.browser = own) : after.Blocks browser calls := by
  have kept := own_of_changed found changed differs
  refine ⟨?_, fun entry => (blocks.mem_iff entry).trans ?_, blocks.increasing⟩
  · have nothing : told.filter (·.browser = browser) = [] := by
      refine List.filter_eq_nil_iff.2 fun event present => ?_
      simpa [others event present] using differs
    rw [events, List.filter_append, nothing, List.append_nil, blocks.events]
    refine List.flatMap_congr fun entry called => ?_
    obtain ⟨stage, known, -⟩ := (blocks.mem_iff entry).1 called
    rw [block, block, known, (kept entry stage).2 known]
  · exact exists_congr fun stage => and_congr_left fun _ => (kept entry stage).symm

theorem attempts_beginAttempt (opened : before.attempts[number]? = some ⟨own, .opened⟩)
    (entry : Nat) : (before.beginAttempt number).attempts[entry]? =
      if number = entry then some ⟨own, .installing⟩ else before.attempts[entry]? := by
  rw [beginAttempt_eq opened]
  exact attempts_setStage opened entry

theorem events_beginAttempt (opened : before.attempts[number]? = some ⟨own, .opened⟩) :
    (before.beginAttempt number).events =
      before.events ++ Attempt.block ⟨own, .installing⟩ := by
  rw [beginAttempt_eq opened]
  exact List.append_assoc ..

/-- An attempt that calls the installer begins a block of its own after all others. -/
theorem Blocks.begin (blocks : before.Blocks browser calls)
    (last : before.IsLast browser number)
    (opened : before.attempts[number]? = some ⟨browser, .opened⟩) :
    (before.beginAttempt number).Blocks browser (calls ++ [number]) := by
  have changed := attempts_beginAttempt opened
  have new : number ∉ calls := by
    intro called
    obtain ⟨stage, found, begun⟩ := (blocks.mem_iff number).1 called
    cases found.symm.trans opened
    exact begun rfl
  refine ⟨?_, fun entry => ?_, ?_⟩
  · rw [events_beginAttempt opened, List.filter_append, blocks.events, List.flatMap_append]
    congr 1
    · refine List.flatMap_congr fun entry called => ?_
      rw [block_of_changed changed, if_neg (ne_of_mem_of_not_mem called new).symm]
    · rw [List.flatMap_singleton, block_of_changed changed, if_pos rfl]
      simp [Attempt.block]
  · rw [List.mem_append, List.mem_singleton, blocks.mem_iff, changed]
    split
    · next same => simp [← same]
    · next differs => simp [Ne.symm differs]
  · refine List.pairwise_append.2 ⟨blocks.increasing, List.pairwise_singleton _ _, ?_⟩
    intro entry called other single
    obtain rfl := List.mem_singleton.1 single
    obtain ⟨stage, found, -⟩ := (blocks.mem_iff entry).1 called
    exact Nat.lt_of_le_of_ne (last entry stage found) (ne_of_mem_of_not_mem called new)

/-- The last of increasing numbers stands at the end. -/
theorem eq_append_of_last (increasing : calls.Pairwise (· < ·)) (called : number ∈ calls)
    (last : ∀ entry ∈ calls, entry ≤ number) :
    ∃ earlier, calls = earlier ++ [number] ∧ ∀ entry ∈ earlier, entry < number := by
  obtain ⟨earlier, later, rfl⟩ := List.append_of_mem called
  obtain ⟨-, rest, before⟩ := List.pairwise_append.1 increasing
  cases later with
  | nil => exact ⟨earlier, rfl, fun entry present => before entry present number (by simp)⟩
  | cons next later =>
    have after := (List.pairwise_cons.1 rest).1 next (by simp)
    have newest := last next (by simp)
    omega

/-- The block of the last attempt of an engine may grow when the attempt goes on. -/
theorem Blocks.extend (blocks : before.Blocks browser calls) (last : before.IsLast browser number)
    {old new : AttemptStage} (found : before.attempts[number]? = some ⟨browser, old⟩)
    (begun : old ≠ .opened) (goesOn : new ≠ .opened)
    (changed : ∀ entry, after.attempts[entry]? =
      if number = entry then some ⟨browser, new⟩ else before.attempts[entry]?)
    {told : List InstallEvent} (events : after.events = before.events ++ told)
    (grows : Attempt.block ⟨browser, new⟩ = Attempt.block ⟨browser, old⟩ ++ told)
    (own : ∀ event ∈ told, event.browser = browser) : after.Blocks browser calls := by
  have called : number ∈ calls := (blocks.mem_iff number).2 ⟨old, found, begun⟩
  obtain ⟨earlier, rfl, smaller⟩ := eq_append_of_last blocks.increasing called fun entry present =>
    have ⟨stage, known, _⟩ := (blocks.mem_iff entry).1 present
    last entry stage known
  refine ⟨?_, fun entry => (blocks.mem_iff entry).trans ?_, blocks.increasing⟩
  · have all : told.filter (·.browser = browser) = told := by
      refine List.filter_eq_self.2 fun event present => ?_
      simpa using own event present
    have same : earlier.flatMap before.block = earlier.flatMap after.block := by
      refine List.flatMap_congr fun entry present => ?_
      rw [block_of_changed changed, if_neg (Nat.ne_of_gt (smaller entry present))]
    have block : before.block number = Attempt.block ⟨browser, old⟩ := by
      rw [Installs.block, found]
      rfl
    rw [events, List.filter_append, all, blocks.events, List.flatMap_append, List.flatMap_append,
      List.flatMap_singleton, List.flatMap_singleton, block_of_changed changed number, if_pos rfl,
      grows, block, same, List.append_assoc]
  · rw [changed]
    split
    · next same =>
      subst same
      rw [found]
      simp [begun, goesOn]
    · rfl

/-- What an attempt that has called the installer tells observers goes on with its block. -/
theorem Blocks.goOn (blocks : before.Blocks browser calls) (last : before.IsLast own number)
    {old new : AttemptStage} (found : before.attempts[number]? = some ⟨own, old⟩)
    (begun : old ≠ .opened) (goesOn : new ≠ .opened)
    (changed : ∀ entry, after.attempts[entry]? =
      if number = entry then some ⟨own, new⟩ else before.attempts[entry]?)
    {told : List InstallEvent} (events : after.events = before.events ++ told)
    (grows : Attempt.block ⟨own, new⟩ = Attempt.block ⟨own, old⟩ ++ told)
    (others : ∀ event ∈ told, event.browser = own) : after.Blocks browser calls := by
  by_cases same : own = browser
  · subst same
    exact blocks.extend last found begun goesOn changed events grows others
  · exact blocks.elsewhere found changed same events others

theorem report_browser (browser : Browser) (result : Except String Unit) :
    (report browser result).browser = browser := by
  cases result <;> rfl

/-- The installer comes to an end, and so does the block of its attempt. -/
theorem Blocks.finish (blocks : before.Blocks browser calls) (last : before.IsLast own number)
    (installing : before.attempts[number]? = some ⟨own, .installing⟩)
    (result : Except String Unit) : (before.endAttempt number result).Blocks browser calls := by
  have goesOn : AttemptStage.ended result ≠ .opened := nofun
  have events : (before.endAttempt number result).events =
      before.events ++ [report own result] := by
    rw [endAttempt_eq installing]
    rfl
  refine blocks.goOn last installing nofun goesOn (attempts_endAttempt installing) events rfl ?_
  intro event present
  obtain rfl := List.mem_singleton.1 present
  exact report_browser own result

/-- The installer panics, and the block of its attempt stays as it is. -/
theorem Blocks.panic (blocks : before.Blocks browser calls) (last : before.IsLast own number)
    (installing : before.attempts[number]? = some ⟨own, .installing⟩) :
    (before.panicAttempt number).Blocks browser calls := by
  have goesOn : AttemptStage.panicked ≠ .opened := nofun
  rw [panicAttempt_eq installing]
  exact blocks.goOn last installing nofun goesOn (attempts_setStage installing)
    (List.append_nil _).symm (List.append_nil _).symm nofun

/-- An attempt to another engine calls the installer. -/
theorem Blocks.begin_elsewhere (blocks : before.Blocks browser calls) (differs : own ≠ browser)
    (opened : before.attempts[number]? = some ⟨own, .opened⟩) :
    (before.beginAttempt number).Blocks browser calls := by
  have changed := attempts_beginAttempt opened
  refine blocks.elsewhere opened changed differs (events_beginAttempt opened) ?_
  simp [Attempt.block]

end Blocks

end Installs

/-- A caller that goes on tells observers nothing. -/
theorem Caller.Stands.quiet_resume {caller : Caller} {engine : Engine}
    (stands : caller.Stands engine.installs) (now : Int) (found : Bool) :
    Installs.Quiet engine.installs (caller.activity.resume now found engine).2.installs := by
  cases stands with
  | asks browser =>
    simp only [Activity.resume, Engine.advance_settleProbe]
    exact Installs.quiet_probed _ browser found
  | @waits browser number stage joined =>
    by_cases settled : (engine.installs.outcome? number).isSome = true
    · rw [Engine.resume_wait_of_over settled]
      exact .refl _
    · rw [Engine.resume_wait_of_not_over settled]
      exact .refl _
  | ready browser state => exact .refl _
  | answered joined ended told => exact .refl _

namespace Lobby

variable {lobby : Lobby} {browser : Browser} {number : Nat} {turn : Turn} {calls : List Nat}

section Turns

/-- The attempt that goes on in a turn. -/
def Turn.attempt? (turn : Turn) : Option Nat :=
  match turn.move with
  | .begin number | .finish number _ | .panic number => some number
  | _ => none

/-- The attempt that calls the installer for an engine in a turn. -/
def callOf? (lobby : Lobby) (browser : Browser) (turn : Turn) : Option Nat :=
  if lobby.calls? turn = some browser then turn.attempt? else none

/-- The calls of the installer for an engine in a history, as the numbers of their attempts. -/
def callsOf (browser : Browser) (lobby : Lobby) : List Turn → List Nat
  | [] => []
  | turn :: history =>
    (lobby.callOf? browser turn).toList ++ callsOf browser (lobby.step turn) history

/-- Callers and refreshes tell observers nothing. -/
theorem Sound.quiet_step (sound : lobby.Sound) (idle : turn.attempt? = none) :
    Installs.Quiet lobby.installs (lobby.step turn).installs := by
  obtain ⟨now, move⟩ := turn
  have record (installs : Installs) (browser : Browser) (found : Bool)
      (quiet : Installs.Quiet lobby.installs installs) :
      Installs.Quiet lobby.installs (installs.record browser found) :=
    ⟨quiet.events, quiet.attempts⟩
  cases move with
  | call browser =>
    simp only [Lobby.step, Lobby.installs, Engine.advance_ensureInstalled]
    exact Installs.quiet_ask _ browser
  | goOn index found =>
    simp only [Lobby.step]
    split
    · exact .refl _
    · next caller present =>
      exact (sound.callers caller (List.mem_of_getElem? present)).quiet_resume now found
  | refresh => exact (Engine.records_refreshInstalls.advance now record (.refl _)).2
  | lookOn index found =>
    simp only [Lobby.step]
    split
    · exact .refl _
    · next activity present =>
      have waits := sound.refreshes activity (List.mem_of_getElem? present)
      exact (waits.resume now found record (.refl _)).2
  | begin _ => cases idle
  | finish _ _ => cases idle
  | panic _ => cases idle

theorem callOf?_eq_some_iff : lobby.callOf? browser turn = some number ↔
    turn.move = .begin number ∧
      lobby.installs.attempts[number]? = some ⟨browser, .opened⟩ := by
  obtain ⟨now, move⟩ := turn
  rw [callOf?, Option.ite_none_right_eq_some]
  cases move with
  | begin other =>
    change lobby.installs.opened? other = some browser ∧ some other = some number ↔
      Move.begin other = .begin number ∧ _
    rw [Installs.opened?_eq_some_iff, Option.some.injEq, Move.begin.injEq]
    constructor
    · rintro ⟨opened, rfl⟩
      exact ⟨rfl, opened⟩
    · rintro ⟨rfl, opened⟩
      exact ⟨opened, rfl⟩
  | _ => simp [calls?]

/-- No attempt to install an engine was opened after one that is under way. -/
theorem Sound.isLast_of_isOpen (sound : lobby.Sound) (reported : lobby.installs.Reported)
    {stage : AttemptStage} (found : lobby.installs.attempts[number]? = some ⟨browser, stage⟩)
    (underway : stage.isOpen = true) : lobby.installs.IsLast browser number :=
  reported.inflight browser number <| (sound.consistent.inflight browser number).2 <|
    Installs.underway?_eq_some_iff.2 ⟨stage, found, underway⟩

/-- A turn begins a block, goes on with the last one, or leaves the blocks of an engine alone. -/
theorem Sound.blocks_step (sound : lobby.Sound) (reported : lobby.installs.Reported)
    (blocks : lobby.installs.Blocks browser calls) (turn : Turn) :
    (lobby.step turn).installs.Blocks browser
      (calls ++ (lobby.callOf? browser turn).toList) := by
  by_cases calling : ∃ number, lobby.callOf? browser turn = some number
  · obtain ⟨number, calling⟩ := calling
    obtain ⟨begins, opened⟩ := callOf?_eq_some_iff.1 calling
    obtain ⟨now, move⟩ := turn
    obtain rfl : move = .begin number := begins
    rw [calling]
    exact blocks.begin (sound.isLast_of_isOpen reported opened rfl) opened
  · have silent : lobby.callOf? browser turn = none := by
      simpa [Option.eq_none_iff_forall_ne_some] using calling
    rw [silent, Option.toList_none, List.append_nil]
    obtain ⟨now, move⟩ := turn
    cases move with
    | call _ => exact blocks.quiet (sound.quiet_step rfl)
    | goOn _ _ => exact blocks.quiet (sound.quiet_step rfl)
    | refresh => exact blocks.quiet (sound.quiet_step rfl)
    | lookOn _ _ => exact blocks.quiet (sound.quiet_step rfl)
    | begin number =>
      change (lobby.installs.beginAttempt number).Blocks browser calls
      cases found : lobby.installs.opened? number with
      | none => rwa [Installs.beginAttempt_of_not_opened found]
      | some own =>
        have opened := Installs.opened?_eq_some_iff.1 found
        refine blocks.begin_elsewhere (fun same => ?_) opened
        exact calling ⟨number, callOf?_eq_some_iff.2 ⟨rfl, same ▸ opened⟩⟩
    | finish number result =>
      change (lobby.installs.endAttempt number result).Blocks browser calls
      cases found : lobby.installs.installing? number with
      | none => rwa [Installs.endAttempt_of_not_installing found]
      | some own =>
        have installing := Installs.installing?_eq_some_iff.1 found
        exact blocks.finish (sound.isLast_of_isOpen reported installing rfl) installing result
    | panic number =>
      change (lobby.installs.panicAttempt number).Blocks browser calls
      cases found : lobby.installs.installing? number with
      | none => rwa [Installs.panicAttempt_of_not_installing found]
      | some own =>
        have installing := Installs.installing?_eq_some_iff.1 found
        exact blocks.panic (sound.isLast_of_isOpen reported installing rfl) installing

/-- What observers learn in a turn. -/
def tells (lobby : Lobby) (turn : Turn) : List InstallEvent :=
  match turn.move with
  | .begin number =>
    match lobby.installs.opened? number with
    | some browser => [⟨browser, .starting, none⟩, ⟨browser, .installing, none⟩]
    | none => []
  | .finish number result =>
    match lobby.installs.installing? number with
    | some browser => [Installs.report browser result]
    | none => []
  | _ => []

/-- Every turn tells observers what it has to tell, after everything that was told before. -/
theorem Sound.events_step (sound : lobby.Sound) (turn : Turn) :
    (lobby.step turn).installs.events = lobby.installs.events ++ lobby.tells turn := by
  obtain ⟨now, move⟩ := turn
  have nothing := List.append_nil lobby.installs.events
  cases move with
  | call _ => exact (sound.quiet_step rfl).events.trans nothing.symm
  | goOn _ _ => exact (sound.quiet_step rfl).events.trans nothing.symm
  | refresh => exact (sound.quiet_step rfl).events.trans nothing.symm
  | lookOn _ _ => exact (sound.quiet_step rfl).events.trans nothing.symm
  | begin number =>
    change (lobby.installs.beginAttempt number).events = _
    cases found : lobby.installs.opened? number with
    | none => simp only [tells, found, Installs.beginAttempt_of_not_opened found, nothing]
    | some own =>
      simp only [tells, found, Installs.beginAttempt_eq (Installs.opened?_eq_some_iff.1 found)]
      exact List.append_assoc ..
  | finish number result =>
    change (lobby.installs.endAttempt number result).events = _
    cases found : lobby.installs.installing? number with
    | none => simp only [tells, found, Installs.endAttempt_of_not_installing found, nothing]
    | some own =>
      simp only [tells, found, Installs.endAttempt_eq (Installs.installing?_eq_some_iff.1 found)]
      rfl
  | panic number =>
    change (lobby.installs.panicAttempt number).events = _
    cases found : lobby.installs.installing? number with
    | none => simp only [tells, Installs.panicAttempt_of_not_installing found, nothing]
    | some own =>
      simp only [tells, nothing,
        Installs.panicAttempt_eq (Installs.installing?_eq_some_iff.1 found)]
      rfl

end Turns

section Histories

/-- In a lobby that is in order, the blocks go on through every history. -/
theorem Sound.blocks_after (sound : lobby.Sound) (reported : lobby.installs.Reported)
    (blocks : lobby.installs.Blocks browser calls) (history : List Turn) :
    (lobby.after history).installs.Blocks browser (calls ++ callsOf browser lobby history) := by
  induction history generalizing lobby calls with
  | nil =>
    rw [callsOf, List.append_nil]
    exact blocks
  | cons turn history inductionHypothesis =>
    have next := inductionHypothesis (sound.step turn).1 (sound.reported_after reported [turn])
      (sound.blocks_step reported blocks turn)
    rwa [List.append_assoc] at next

/-- The installer comes to an end in a turn, and observers learn of it at some moment. -/
structure Ends (lobby : Lobby) (turn : Turn) (number : Nat) (result : Except String Unit)
    (event : InstallEvent) (moment : Installs) : Prop where
  move : turn.move = .finish number result
  installing : lobby.installs.attempts[number]? = some ⟨event.browser, .installing⟩
  /-- Nothing has been told in the turn before. -/
  first : moment.events = lobby.installs.events
  after : (lobby.step turn).installs = (moment.emit event).setStage number (.ended result)

/-- Attempts to different engines go on in two turns. -/
def Apart (lobby : Lobby) (first second : Turn) : Prop :=
  ∃ number other attempt another,
    first.attempt? = some number ∧ lobby.installs.attempts[number]? = some attempt ∧
    second.attempt? = some other ∧ lobby.installs.attempts[other]? = some another ∧
    attempt.browser ≠ another.browser

/-- What observers have learned by now, and what they learn in the next turn. -/
structure Announced (lobby : Lobby) (calls : Browser → List Nat) : Prop where
  /-- The events of an engine are one block after another, one for each call of the installer. -/
  blocks : ∀ browser, lobby.installs.Blocks browser (calls browser)
  /-- Only the last call may not have come to an end. -/
  complete : ∀ browser, ∀ number ∈ (calls browser).dropLast,
    ∃ result, lobby.installs.attempts[number]? = some ⟨browser, .ended result⟩
  tells : ∀ turn, (lobby.step turn).installs.events = lobby.installs.events ++ lobby.tells turn
  /-- An install is complete without an error, and by then the engine is installed. -/
  completed : ∀ turn, ∀ event ∈ lobby.tells turn, event.phase = .completed →
    event.error = none ∧ ∃ number moment, lobby.Ends turn number (.ok ()) event moment ∧
      (moment.state event.browser).installed = true ∧
      (moment.state event.browser).inProgress = false ∧
      (moment.state event.browser).lastError = none
  /-- An install fails with the error of its attempt, which by then is on record. -/
  failed : ∀ turn, ∀ event ∈ lobby.tells turn, event.phase = .failed →
    ∃ number reason moment, event.error = some reason ∧
      lobby.Ends turn number (.error reason) event moment ∧
      (moment.state event.browser).installed = false ∧
      (moment.state event.browser).inProgress = false ∧
      (moment.state event.browser).lastError = some reason
  /-- Attempts to different engines go on in either order. -/
  free : ∀ first second, lobby.Apart first second →
    (lobby.after [first, second]).installs.events =
        lobby.installs.events ++ lobby.tells first ++ lobby.tells second ∧
      (lobby.after [second, first]).installs.events =
        lobby.installs.events ++ lobby.tells second ++ lobby.tells first

/-- A turn of an attempt leaves all other attempts alone. -/
theorem attempts_step {other : Nat} (goesOn : turn.attempt? = some number)
    (differs : number ≠ other) :
    (lobby.step turn).installs.attempts[other]? = lobby.installs.attempts[other]? := by
  obtain ⟨now, move⟩ := turn
  cases move with
  | begin entry =>
    obtain rfl : entry = number := Option.some.inj goesOn
    change (lobby.installs.beginAttempt entry).attempts[other]? = _
    cases found : lobby.installs.opened? entry with
    | none => rw [Installs.beginAttempt_of_not_opened found]
    | some own =>
      have opened := Installs.opened?_eq_some_iff.1 found
      exact (Installs.attempts_beginAttempt opened other).trans (if_neg differs)
  | finish entry result =>
    obtain rfl : entry = number := Option.some.inj goesOn
    change (lobby.installs.endAttempt entry result).attempts[other]? = _
    cases found : lobby.installs.installing? entry with
    | none => rw [Installs.endAttempt_of_not_installing found]
    | some own =>
      have installing := Installs.installing?_eq_some_iff.1 found
      exact (Installs.attempts_endAttempt installing other).trans (if_neg differs)
  | panic entry =>
    obtain rfl : entry = number := Option.some.inj goesOn
    change (lobby.installs.panicAttempt entry).attempts[other]? = _
    cases found : lobby.installs.installing? entry with
    | none => rw [Installs.panicAttempt_of_not_installing found]
    | some own =>
      have installing := Installs.installing?_eq_some_iff.1 found
      rw [Installs.panicAttempt_eq installing]
      exact (Installs.attempts_setStage installing other).trans (if_neg differs)
  | call _ => cases goesOn
  | goOn _ _ => cases goesOn
  | refresh => cases goesOn
  | lookOn _ _ => cases goesOn

/-- What an attempt tells depends on how far it has come, and on no other attempt. -/
theorem tells_congr {other : Lobby} (goesOn : turn.attempt? = some number)
    (same : other.installs.attempts[number]? = lobby.installs.attempts[number]?) :
    other.tells turn = lobby.tells turn := by
  obtain ⟨now, move⟩ := turn
  cases move with
  | begin _ =>
    obtain rfl := Option.some.inj goesOn
    simp only [tells, Installs.opened?, same]
  | finish _ result =>
    obtain rfl := Option.some.inj goesOn
    simp only [tells, Installs.installing?, same]
  | _ => rfl

theorem Apart.symm {first second : Turn} (apart : lobby.Apart first second) :
    lobby.Apart second first := by
  obtain ⟨number, other, attempt, another, goesOn, found, next, known, differs⟩ := apart
  exact ⟨other, number, another, attempt, next, known, goesOn, found, differs.symm⟩

/-- Attempts to different engines do not change what the other has to tell. -/
theorem Sound.events_of_apart (sound : lobby.Sound) {first second : Turn}
    (apart : lobby.Apart first second) :
    (lobby.after [first, second]).installs.events =
      lobby.installs.events ++ lobby.tells first ++ lobby.tells second := by
  obtain ⟨number, other, attempt, another, goesOn, found, next, known, differs⟩ := apart
  have elsewhere : number ≠ other := by
    rintro rfl
    obtain rfl := Option.some.inj (found.symm.trans known)
    exact differs rfl
  change ((lobby.step first).step second).installs.events = _
  rw [(sound.step first).1.events_step, sound.events_step,
    tells_congr next (attempts_step goesOn elsewhere)]

/-- The outcome of an attempt is on record by the time at which observers learn of it. -/
theorem ends_of_tells {event : InstallEvent} (present : event ∈ lobby.tells turn)
    (ceased : event.phase = .completed ∨ event.phase = .failed) :
    ∃ number result, event = Installs.report event.browser result ∧
      lobby.Ends turn number result event (lobby.installs.concluding event.browser result) := by
  obtain ⟨now, move⟩ := turn
  cases move with
  | begin number =>
    simp only [tells] at present
    split at present
    · rcases List.mem_pair.1 present with rfl | rfl <;> simp at ceased
    · cases present
  | finish number result =>
    simp only [tells] at present
    split at present
    · next browser found =>
      obtain rfl := List.mem_singleton.1 present
      have installing := Installs.installing?_eq_some_iff.1 found
      rw [Installs.report_browser]
      refine ⟨number, result, rfl, ⟨rfl, ?_, rfl, ?_⟩⟩
      · rwa [Installs.report_browser]
      · exact Installs.endAttempt_eq installing result
    · cases present
  | _ => cases present

/-- By the time at which observers learn of an outcome, the state of the engine is this. -/
theorem state_concluding_self (installs : Installs) (browser : Browser)
    (result : Except String Unit) :
    (installs.concluding browser result).state browser =
      Installs.concluded result (installs.state browser) :=
  (Installs.state_concluding ..).trans (if_pos rfl)

/-- Another attempt to an engine calls the installer only after the earlier ones have ended. -/
theorem Sound.ended_of_earlier (sound : lobby.Sound) (reported : lobby.installs.Reported)
    (blocks : lobby.installs.Blocks browser calls) (early : number ∈ calls.dropLast) :
    ∃ result, lobby.installs.attempts[number]? = some ⟨browser, .ended result⟩ := by
  have nonempty : calls ≠ [] := List.ne_nil_of_mem (List.dropLast_subset calls early)
  have increasing := blocks.increasing
  rw [← List.dropLast_append_getLast nonempty] at increasing
  have less := (List.pairwise_append.1 increasing).2.2 number early _ (List.mem_singleton_self _)
  obtain ⟨later, known, -⟩ := (blocks.mem_iff _).1 (List.getLast_mem nonempty)
  obtain ⟨stage, found, -⟩ := (blocks.mem_iff number).1 (List.dropLast_subset calls early)
  cases underway : stage.isOpen with
  | true =>
    -- An attempt under way would be the last one.
    have last := sound.isLast_of_isOpen reported found underway _ later known
    omega
  | false =>
    cases stage with
    | ended result => exact ⟨result, found⟩
    | _ => cases underway

/-- In every history, the events of each engine are the blocks of its calls of the installer. -/
theorem announced_after (engine : Engine) (history : List Turn) :
    ((fresh engine).after history).Announced fun browser =>
      callsOf browser (fresh engine) history := by
  have sound := ((sound_fresh engine).after history).1
  have reported := (sound_fresh engine).reported_after Installs.reported_fresh history
  have none (browser : Browser) : (fresh engine).installs.Blocks browser [] :=
    ⟨rfl, fun number => by simp [fresh, installs], .nil⟩
  have blocks (browser : Browser) :=
    (sound_fresh engine).blocks_after Installs.reported_fresh (none browser) history
  refine ⟨blocks, fun browser number => sound.ended_of_earlier reported (blocks browser),
    sound.events_step, fun turn event present completed => ?_, fun turn event present failed => ?_,
    fun first second apart => ⟨sound.events_of_apart apart, sound.events_of_apart apart.symm⟩⟩
  · obtain ⟨number, result, told, ends⟩ := ends_of_tells present (.inl completed)
    cases result with
    | ok _ =>
      refine ⟨by rw [told]; rfl, number, _, ends, ?_⟩
      rw [state_concluding_self]
      exact ⟨rfl, rfl, rfl⟩
    | error reason =>
      rw [told] at completed
      cases completed
  · obtain ⟨number, result, told, ends⟩ := ends_of_tells present (.inr failed)
    cases result with
    | ok _ =>
      rw [told] at failed
      cases failed
    | error reason =>
      refine ⟨number, reason, _, by rw [told]; rfl, ends, ?_⟩
      rw [state_concluding_self]
      exact ⟨rfl, rfl, rfl⟩

/-- Two engines are installed at the same time, and one of the installs fails. -/
def sampleInstalls : List Turn :=
  [⟨1, .call .chromium⟩, ⟨2, .goOn 0 false⟩, ⟨3, .call .firefox⟩, ⟨4, .goOn 1 false⟩,
    ⟨5, .begin 0⟩, ⟨6, .begin 1⟩, ⟨7, .finish 0 (.error "download failed")⟩,
    ⟨8, .finish 1 (.ok ())⟩]

/-- The blocks of two engines may interleave. -/
theorem announced_sampleInstalls :
    let lobby := fresh (System.sample []).engine
    (lobby.after sampleInstalls).installs.events =
      [⟨.chromium, .starting, none⟩, ⟨.chromium, .installing, none⟩,
        ⟨.firefox, .starting, none⟩, ⟨.firefox, .installing, none⟩,
        ⟨.chromium, .failed, some "download failed"⟩, ⟨.firefox, .completed, none⟩] ∧
      (lobby.after sampleInstalls).Announced fun browser =>
        callsOf browser lobby sampleInstalls :=
  ⟨rfl, announced_after _ sampleInstalls⟩

end Histories

end Lobby

end StepRunner
