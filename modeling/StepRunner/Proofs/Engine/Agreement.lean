import StepRunner.Proofs.Engine.Preservation

/-!
This file shows that the slot and the store agree about the run in progress as long as no browser
breaks down.
The store then accepts everything that a start or a run writes.
-/

namespace StepRunner.System

/-- Every stored run has ended, unless it is the one that has the slot. -/
def Settled (system : System) : Prop :=
  ∀ run ∈ system.engine.store.tables.runs, run.status.isTerminal = true ∨
    ∃ ticket context, system.engine.registry.slot = .active ticket context ∧
      context.runId = run.id

/-- The slot and the store agree about the run in progress. -/
structure Agrees (system : System) : Prop where
  unique : ∀ run ∈ system.engine.store.tables.runs, ∀ other ∈ system.engine.store.tables.runs,
    run.status = .running → other.status = .running → run = other
  unqueued : ∀ run ∈ system.engine.store.tables.runs, run.status ≠ .queued
  active_iff : (∃ ticket context, system.engine.registry.slot = .active ticket context) ↔
    ∃ run ∈ system.engine.store.tables.runs, run.status = .running
  active : ∀ ticket context, system.engine.registry.slot = .active ticket context →
    ∃ run ∈ system.engine.store.tables.runs, run.status = .running ∧ run.id = context.runId ∧
      ∃ testCase ∈ system.engine.store.tables.testCases,
        testCase.id = context.testCaseId ∧ run.testCaseId = testCase.id ∧
        ∃ project ∈ system.engine.store.tables.projects,
          project.id = context.projectId ∧ testCase.projectId = project.id
  reserved : ∀ ticket projectId testCaseId,
    system.engine.registry.slot = .reserved ticket projectId testCaseId →
    ∃ testCase ∈ system.engine.store.tables.testCases, testCase.id = testCaseId ∧
      ∃ project ∈ system.engine.store.tables.projects,
        project.id = projectId ∧ testCase.projectId = project.id

/-- The store accepts what starts and runs are about to write, and no run is given up for it. -/
structure Accepts (system : System) : Prop where
  starts : ∀ call ∈ system.waiting, ∀ now, ∃ run, (system.engine.storeRun call now).1 = .ok run
  begins : ∀ number task step rest, system.engine.task? number = some task →
    task.stage = .ready (step :: rest) → ∀ now,
    (system.engine.mint.2.writeOnly
      (·.insertResult (Engine.pendingResult system.engine.mint.1 task.run step now))).1 = .ok ()
  outcomes : ∀ number task result, system.engine.task? number = some task →
    task.pending? = some result → ∀ outcome : StepResult, outcome.id = result.id →
    (system.engine.writeOnly (·.finishResult outcome)).1 = .ok ()
  ends : ∀ number task, system.engine.task? number = some task → task.isOver = false →
    ∀ now status error, status.isTerminal = true →
    ∃ run, (system.engine.write (·.moveRun now task.run.id status error)).1 = .ok run
  faultless : ∀ number task fault, system.engine.task? number = some task →
    task.stage ≠ .closing (some fault)

variable {system later : System} {sessions : Nat → Session} {turn : Turn}

section Preservation

/-- Without a run in the slot every stored run has ended. -/
theorem Settled.ended_of_inactive (settled : system.Settled)
    (inactive : ∀ ticket context, system.engine.registry.slot ≠ .active ticket context) :
    ∀ run ∈ system.engine.store.tables.runs, run.status.isTerminal = true := by
  intro run present
  rcases settled run present with ended | ⟨ticket, context, held, -⟩
  · exact ended
  · exact absurd held (inactive ticket context)

/-- Every run but the one in progress has ended. -/
theorem Settled.ended_of_other (settled : system.Settled) {number : Nat} {task : RunTask}
    {finished : List StepResult} (running : system.Running number task finished) :
    ∀ run ∈ system.engine.store.tables.runs, run.id ≠ task.run.id →
      run.status.isTerminal = true := by
  intro run present other
  rcases settled run present with ended | ⟨ticket, context, held, named⟩
  · exact ended
  · rw [running.held] at held
    cases held
    exact absurd (named.symm.trans running.sound.runId) other

/-- A turn in which no browser breaks down leaves no run open but the one in progress. -/
theorem Transition.settled (transition : Transition sessions system turn later)
    (consistent : system.Consistent) (settled : system.Settled) (calm : turn.isCalm = true) :
    later.Settled := by
  cases transition with
  | aside unmoved beside =>
    obtain ⟨store, installs, artifacts, aside, rfl⟩ := beside
    exact fun run present => settled run (aside.runs present)
  | claimed idle call ticket testCaseId owned numbered =>
    exact fun run present =>
      .inl (settled.ended_of_inactive (by simp [idle.free]) run present)
  | dropped call starting settles =>
    exact fun run present =>
      .inl (settled.ended_of_inactive (by simp [starting.held]) run present)
  | started call starting settles =>
    intro run present
    rcases (Engine.mem_startedStore_runs consistent.store starting.sound.owned).1 present with
      rfl | old
    · exact .inr ⟨_, _, rfl, rfl⟩
    · exact .inl (settled.ended_of_inactive (by simp [starting.held]) run old)
  | stopped running asked => exact settled
  | passed running own passes => exact settled
  | begun running own stage goes => exact settled
  | decided running own decides made artifacts store sound minted testCases runs results =>
    exact fun run present => settled run (runs ▸ present)
  | ended running own ends =>
    intro run present
    have known := (Store.mem_runs_writeMove consistent.store running.sound.stored _ _ _).1 present
    rcases known with rfl | ⟨old, other⟩
    · exact .inl (Engine.finalStatus_isTerminal _ _)
    · exact .inl (settled.ended_of_other running run old other)
  | brokeDown running fault => simp [Turn.isCalm, fault] at calm

end Preservation

section Agreement

theorem owner_of_owns (sound : system.engine.store.Sound) {projectId testCaseId : String}
    (owned : system.engine.store.tables.Owns projectId testCaseId) :
    ∃ testCase ∈ system.engine.store.tables.testCases, testCase.id = testCaseId ∧
      ∃ project ∈ system.engine.store.tables.projects,
        project.id = projectId ∧ testCase.projectId = project.id := by
  obtain ⟨testCase, present, named, owner⟩ := owned
  obtain ⟨project, among, same⟩ := sound.tables.linked.testCases testCase present
  exact ⟨testCase, present, named, project, among, same.trans owner, same.symm⟩

/-- A consistent system without open runs beside the slot agrees with its store. -/
theorem Consistent.agrees (consistent : system.Consistent) (settled : system.Settled) :
    system.Agrees := by
  have sound := consistent.store
  have open_ended {run : Run} (present : run ∈ system.engine.store.tables.runs)
      (unended : run.status.isTerminal = false) :
      ∃ ticket context, system.engine.registry.slot = .active ticket context ∧
        context.runId = run.id := by
    simpa [unended] using settled run present
  have running_of_active {ticket : Nat} {context : ActiveContext}
      (held : system.engine.registry.slot = .active ticket context) :
      ∃ number task finished,
        system.Running number task finished ∧ task.active.context = context := by
    rcases consistent.phase with idle | ⟨call, starting⟩ | ⟨number, task, finished, running⟩
    · simp [idle.free] at held
    · simp [starting.held] at held
    · rw [running.held] at held
      cases held
      exact ⟨number, task, finished, running, rfl⟩
  exact
    { unique := by
        intro run present other among runs others
        obtain ⟨_, _, held, same⟩ := open_ended present (by rw [runs]; rfl)
        obtain ⟨_, _, again, equal⟩ := open_ended among (by rw [others]; rfl)
        rw [held] at again
        cases again
        exact Rows.eq_of_key_eq sound.tables.keyed.runs present among (same.symm.trans equal)
      unqueued := by
        intro run present queued
        obtain ⟨_, _, held, named⟩ := open_ended present (by rw [queued]; rfl)
        obtain ⟨number, task, finished, running, rfl⟩ := running_of_active held
        have same := Rows.eq_of_key_eq sound.tables.keyed.runs present running.sound.stored
          (named.symm.trans running.sound.runId)
        rw [same, running.sound.running] at queued
        cases queued
      active_iff := by
        constructor
        · rintro ⟨ticket, context, held⟩
          obtain ⟨number, task, finished, running, -⟩ := running_of_active held
          exact ⟨task.run, running.sound.stored, running.sound.running⟩
        · rintro ⟨run, present, runs⟩
          obtain ⟨ticket, context, held, -⟩ := open_ended present (by rw [runs]; rfl)
          exact ⟨ticket, context, held⟩
      active := by
        intro ticket context held
        obtain ⟨number, task, finished, running, rfl⟩ := running_of_active held
        obtain ⟨testCase, present, named, project⟩ := owner_of_owns sound running.sound.owned
        exact ⟨task.run, running.sound.stored, running.sound.running, running.sound.runId.symm,
          testCase, present, named.trans running.sound.testCaseId.symm, named.symm, project⟩
      reserved := by
        intro ticket projectId testCaseId held
        rcases consistent.phase with idle | ⟨call, starting⟩ | ⟨number, task, finished, running⟩
        · simp [idle.free] at held
        · rw [starting.held] at held
          cases held
          rw [starting.sound.testCaseId]
          exact owner_of_owns sound starting.sound.owned
        · simp [running.held] at held }

/-- The store of a consistent system refuses no write of a start or a run. -/
theorem Consistent.accepts (consistent : system.Consistent) : system.Accepts where
  starts := by
    intro call among now
    obtain ⟨index, waits⟩ := List.getElem?_of_mem among
    obtain ⟨starting, -⟩ := consistent.starting_of_waiting waits
    rw [Engine.storeRun_eq consistent.reliable consistent.store starting.sound.owned]
    exact ⟨_, rfl⟩
  begins := by
    intro number task step rest found stage now
    obtain ⟨finished, running⟩ :=
      consistent.running_of_busy found (by simp [RunTask.isOver, stage])
    have inserted := (Store.insertResult_of_minted consistent.store
      (Engine.pendingResult system.engine.mint.1 task.run step now) rfl
      ⟨task.run, running.sound.stored, rfl⟩).1
    rw [Engine.writeOnly_of_accepted (by exact consistent.reliable) inserted]
  outcomes := by
    intro number task result found pending outcome same
    have busy : task.isOver = false := by
      unfold RunTask.pending? at pending
      unfold RunTask.isOver
      split at pending <;> simp_all
    obtain ⟨finished, running⟩ := consistent.running_of_busy found busy
    obtain ⟨undecided, own⟩ := running.sound.trail.pending result pending
    have rows : system.engine.store.tables.resultsOf result.runId = finished ++ [result] := by
      rw [own, running.sound.results, RunTask.rows, pending]
      rfl
    obtain ⟨store, accepted, -⟩ := Store.finishResult_of_pending consistent.store rows
      (fun row among => (running.sound.trail.decided row among).1) undecided same
    rw [Engine.writeOnly_of_accepted consistent.reliable accepted]
  ends := by
    intro number task found busy now status error ends
    obtain ⟨finished, running⟩ := consistent.running_of_busy found busy
    have moves := Store.moveRun_of_mem consistent.store running.sound.stored
      (running.sound.running ▸ RunStatus.running_canMoveTo ends) now error
    rw [Engine.write_of_accepted consistent.reliable moves]
    exact ⟨_, rfl⟩
  faultless := by
    intro number task fault found stage
    obtain ⟨finished, running⟩ :=
      consistent.running_of_busy found (by simp [RunTask.isOver, stage])
    exact running.sound.trail.faultless fault stage

end Agreement

/-- A calm history leaves no run open but the one in progress. -/
theorem Consistent.settled_after (consistent : system.Consistent) (settled : system.Settled)
    (history : List Turn) (calm : ∀ turn ∈ history, turn.isCalm = true) :
    (system.after sessions history).Settled := by
  induction history generalizing system with
  | nil => exact settled
  | cons turn history inductionHypothesis =>
    exact inductionHypothesis (consistent.step sessions turn)
      ((consistent.transition sessions turn).settled consistent settled (calm turn (by simp)))
      fun other among => calm other (by simp [among])

/--
From a store without open runs, the slot and the store agree after every calm history, and the
store accepts all that starts and runs write.
-/
theorem agrees_and_accepts_after {store : Store} (sound : store.Sound)
    (ended : ∀ run ∈ store.tables.runs, run.status.isTerminal = true) (artifacts : Artifacts)
    (options : RunOptions) (history : List Turn) (calm : ∀ turn ∈ history, turn.isCalm = true) :
    ((opened store artifacts options).after sessions history).Agrees ∧
      ((opened store artifacts options).after sessions history).Accepts := by
  have consistent := Consistent.opened sound artifacts options
  have settled : (opened store artifacts options).Settled := fun run present =>
    .inl (ended run present)
  have later := consistent.after sessions history
  exact ⟨later.agrees (consistent.settled_after settled history calm), later.accepts⟩

/-- The slot and the store of the sample agree within its run. -/
theorem agrees_and_accepts_after_sampleStart :
    (sample sampleStart).engine.registry.context?.isSome = true ∧ (sample sampleStart).Agrees ∧
      (sample sampleStart).Accepts :=
  ⟨by decide +kernel, agrees_and_accepts_after .empty (by simp) _ _ sampleStart (by decide)⟩

end StepRunner.System
