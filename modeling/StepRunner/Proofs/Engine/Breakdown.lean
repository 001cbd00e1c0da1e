import StepRunner.Proofs.Engine.Preservation

/-!
This file shows what becomes of a run whose browser breaks down.
The slot is free again, but the run stays stored as running, and nobody hears of its end.
-/

namespace StepRunner

/-- The task of a run has come to its end without a breakdown. -/
def RunTask.hasEnded (task : RunTask) : Bool :=
  match task.stage with
  | .ended _ => true
  | _ => false

namespace System

variable {system later : System} {sessions : Nat → Session} {turn : Turn}
variable {number other : Nat} {task rival : RunTask} {finished : List StepResult}

/-- Two tasks have different runs. -/
theorem Consistent.runId_ne (consistent : system.Consistent)
    (found : system.engine.task? number = some task)
    (again : system.engine.task? other = some rival) (different : other ≠ number) :
    rival.run.id ≠ task.run.id := by
  intro same
  have first : system.engine.runIds[number]? = some task.run.id := by
    simp only [Engine.task?] at found
    simp [Engine.runIds, found]
  have second : system.engine.runIds[other]? = some rival.run.id := by
    simp only [Engine.task?] at again
    simp [Engine.runIds, again]
  have inside := (List.getElem?_eq_some_iff.1 second).1
  exact different ((List.getElem?_inj inside consistent.distinct).1
    (second.trans (same ▸ first.symm)))

/-- A task that is over is not the one that has the slot. -/
theorem Running.ne_of_over (running : system.Running number task finished)
    (found : system.engine.task? other = some rival) (ceased : rival.isOver = true) :
    other ≠ number := by
  rintro rfl
  obtain rfl := Option.some.inj (found.symm.trans running.found)
  simp [running.busy] at ceased

theorem Running.task?_updateTask_of_over (running : system.Running number task finished)
    (found : system.engine.task? other = some rival) (ceased : rival.isOver = true)
    (change : RunTask → RunTask) :
    (system.engine.updateTask number change).task? other = some rival := by
  rw [Engine.task?_updateTask, if_neg (running.ne_of_over found ceased).symm, found]

section Past

/-- A task that is over never changes again. -/
theorem Transition.task?_of_over (transition : Transition sessions system turn later)
    (found : system.engine.task? other = some rival) (ceased : rival.isOver = true) :
    later.engine.task? other = some rival := by
  cases transition with
  | aside unmoved beside =>
    obtain ⟨store, installs, artifacts, aside, rfl⟩ := beside
    exact found
  | claimed idle call ticket testCaseId owned numbered => exact found
  | dropped call starting settles => exact found
  | started call starting settles =>
    have inside := (List.getElem?_eq_some_iff.1 found).1
    exact (List.getElem?_append_left inside).trans found
  | stopped running asked => exact found
  | passed running own passes => exact running.task?_updateTask_of_over found ceased _
  | begun running own stage goes => exact running.task?_updateTask_of_over found ceased _
  | decided running own decides made artifacts store sound minted testCases runs results =>
    exact running.task?_updateTask_of_over found ceased _
  | ended running own ends => exact running.task?_updateTask_of_over found ceased _
  | brokeDown running fault => exact running.task?_updateTask_of_over found ceased _

/-- The stored run of a task that is over never changes again, unless it is deleted. -/
theorem Transition.run_of_over (transition : Transition sessions system turn later)
    (consistent : system.Consistent) (found : system.engine.task? other = some rival)
    (ceased : rival.isOver = true) {run : Run} (present : run ∈ later.engine.store.tables.runs)
    (named : run.id = rival.run.id) : run ∈ system.engine.store.tables.runs := by
  cases transition with
  | aside unmoved beside =>
    obtain ⟨store, installs, artifacts, aside, rfl⟩ := beside
    exact aside.runs present
  | claimed idle call ticket testCaseId owned numbered => exact present
  | dropped call starting settles => exact present
  | started call starting settles =>
    rcases (Engine.mem_startedStore_runs consistent.store starting.sound.owned).1 present with
      rfl | old
    · have known : rival.run.id ∈ system.engine.runIds :=
        List.mem_map_of_mem (List.mem_map_of_mem (List.mem_of_getElem? found))
      rw [← named] at known
      exact absurd known consistent.minted_notMem_runIds
    · exact old
  | stopped running asked => exact present
  | passed running own passes => exact present
  | begun running own stage goes => exact present
  | decided running own decides made artifacts store sound minted testCases runs results =>
    exact runs ▸ present
  | ended running own ends =>
    have known := (Store.mem_runs_writeMove consistent.store running.sound.stored _ _ _).1 present
    rcases known with rfl | ⟨old, -⟩
    · have different := consistent.runId_ne running.found found (running.ne_of_over found ceased)
      exact absurd named.symm different
    · exact old
  | brokeDown running fault => exact present

end Past

section Silence

/-- The end of a run is told only of tasks that have ended. -/
structure Truthful (system : System) : Prop where
  known : ∀ event ∈ system.engine.events, event.runId ∈ system.engine.runIds
  silent : ∀ number task, system.engine.task? number = some task → task.hasEnded = false →
    ∀ status, .runFinished task.run.id status ∉ system.engine.events

theorem Truthful.opened (store : Store) (artifacts : Artifacts) (options : RunOptions) :
    (opened store artifacts options).Truthful where
  known := by simp [System.opened, Engine.events]
  silent := by simp [System.opened, Engine.task?]

theorem Running.unended (running : system.Running number task finished) :
    task.hasEnded = false := by
  have busy := running.busy
  unfold RunTask.isOver at busy
  unfold RunTask.hasEnded
  split at busy <;> simp_all

/-- What the task with the slot tells of its run is the truth if it tells its end at its end. -/
theorem Truthful.updateTask (truthful : system.Truthful) (consistent : system.Consistent)
    (running : system.Running number task finished) {change : RunTask → RunTask}
    (tasks : later.engine.tasks = (system.engine.updateTask number change).tasks)
    (kept : ∀ task, (change task).run = task.run)
    {told : List RunEvent} (events : later.engine.events = system.engine.events ++ told)
    (own : ∀ event ∈ told, event.runId = task.run.id)
    (ends : (change task).hasEnded = true ∨ ∀ status, .runFinished task.run.id status ∉ told) :
    later.Truthful where
  known := by
    have runIds : later.engine.runIds = system.engine.runIds := by
      have same : (system.engine.updateTask number change).runIds = system.engine.runIds :=
        runIds_updateTask number kept
      rw [← same]
      simp only [Engine.runIds, tasks]
    rw [events, runIds]
    intro event among
    rcases List.mem_append.1 among with old | new
    · exact truthful.known event old
    · exact own event new ▸ running.mem_runIds
  silent := by
    intro other rival found unended status
    have present : (system.engine.updateTask number change).task? other = some rival := by
      rwa [Engine.task?, tasks] at found
    rw [events, List.mem_append, not_or]
    by_cases same : other = number
    · subst same
      rw [running.found_updateTask change] at present
      cases present
      rw [kept]
      refine ⟨truthful.silent other task running.found running.unended status, ?_⟩
      rcases ends with ended | silent
      · simp [unended] at ended
      · exact silent status
    · rw [Engine.task?_updateTask, if_neg (Ne.symm same)] at present
      refine ⟨truthful.silent other rival present unended status, fun among => ?_⟩
      exact consistent.runId_ne running.found present same (own _ among)

/-- Each turn tells the truth about the ends of runs. -/
theorem Transition.truthful (transition : Transition sessions system turn later)
    (consistent : system.Consistent) (truthful : system.Truthful) : later.Truthful := by
  cases transition with
  | aside unmoved beside =>
    obtain ⟨store, installs, artifacts, aside, rfl⟩ := beside
    exact ⟨truthful.known, truthful.silent⟩
  | claimed idle call ticket testCaseId owned numbered =>
    exact ⟨truthful.known, truthful.silent⟩
  | dropped call starting settles => exact ⟨truthful.known, truthful.silent⟩
  | started call starting settles =>
    have told : (system.engine.started call turn.now).events = system.engine.events ++
        [.runStarted (Store.idOf system.engine.store.minted) call.testCase.id call.browser] :=
      Engine.events_emit _
    constructor
    · rw [told, runIds_started]
      intro event among
      rcases List.mem_append.1 among with old | new
      · exact List.mem_append_left _ (truthful.known event old)
      · rw [List.mem_singleton.1 new]
        exact List.mem_append_right _ (List.mem_singleton_self _)
    · intro other rival found unended status
      rw [told, List.mem_append, not_or]
      refine ⟨fun among => ?_, by simp⟩
      simp only [Engine.started, Engine.emit, Engine.task?, List.getElem?_append] at found
      split at found
      · exact truthful.silent other rival found unended status among
      · obtain ⟨-, rfl⟩ : other - system.engine.tasks.length = 0 ∧
            system.engine.startedTask call turn.now = rival := by
          simpa [List.getElem?_singleton] using found
        exact consistent.minted_notMem_runIds (truthful.known _ among)
  | stopped running asked => exact ⟨truthful.known, truthful.silent⟩
  | passed running own passes =>
    exact truthful.updateTask consistent running rfl (fun _ => rfl) (List.append_nil _).symm
      (by simp) (.inr (by simp))
  | begun running own stage goes =>
    exact truthful.updateTask consistent running rfl (fun _ => rfl) (Engine.events_emit _)
      (by simp [RunEvent.runId]) (.inr (by simp))
  | decided running own decides made artifacts store sound minted testCases runs results =>
    exact truthful.updateTask consistent running rfl (fun _ => rfl) (Engine.events_emit _)
      (by simp [RunEvent.runId]) (.inr (by simp))
  | ended running own ends =>
    exact truthful.updateTask consistent running rfl (fun _ => rfl) (Engine.events_emit _)
      (by simp [RunEvent.runId]) (.inl rfl)
  | brokeDown running fault =>
    exact truthful.updateTask consistent running rfl (fun _ => rfl) (List.append_nil _).symm
      (by simp) (.inr (by simp))

theorem Consistent.truthful_after (consistent : system.Consistent) (truthful : system.Truthful)
    (sessions : Nat → Session) (history : List Turn) :
    (system.after sessions history).Truthful := by
  induction history generalizing system with
  | nil => exact truthful
  | cons turn history inductionHypothesis =>
    exact inductionHypothesis (consistent.step sessions turn)
      ((consistent.transition sessions turn).truthful consistent truthful)

end Silence

section Stranding

theorem Consistent.task?_after_of_over (consistent : system.Consistent)
    (sessions : Nat → Session) (history : List Turn)
    (found : system.engine.task? other = some rival) (ceased : rival.isOver = true) :
    (system.after sessions history).engine.task? other = some rival := by
  induction history generalizing system with
  | nil => exact found
  | cons turn history inductionHypothesis =>
    exact inductionHypothesis (consistent.step sessions turn)
      ((consistent.transition sessions turn).task?_of_over found ceased)

theorem Consistent.run_after_of_over (consistent : system.Consistent) (history : List Turn)
    (found : system.engine.task? other = some rival) (ceased : rival.isOver = true) {run : Run}
    (present : run ∈ (system.after sessions history).engine.store.tables.runs)
    (named : run.id = rival.run.id) : run ∈ system.engine.store.tables.runs := by
  induction history generalizing system with
  | nil => exact present
  | cons turn history inductionHypothesis =>
    have transition := consistent.transition sessions turn
    have still := transition.task?_of_over found ceased
    have old := inductionHypothesis (consistent.step sessions turn) still present
    exact transition.run_of_over consistent found ceased old named

/-- A breakdown frees the slot, ends the task and changes nothing in the store. -/
theorem Running.brokeDown (running : system.Running number task finished)
    (sessions : Nat → Session) (now : Int) :
    let broken := system.step sessions ⟨now, .breakDown number⟩
    broken.engine.registry.slot = .empty ∧
      broken.engine.task? number = some { task with stage := .panicked } ∧
      broken.engine.store = system.engine.store := by
  simp only [step, change, Engine.brokeDown, running.found, running.busy, Bool.false_eq_true,
    if_false, Registry.finish_of_held running.held]
  exact ⟨rfl, running.found_updateTask _, rfl⟩

end Stranding

/-- A run has ended, and the store, the observers and the slot show it. -/
structure Resolved (system : System) (runId : String) : Prop where
  ended : ∃ run, system.engine.store.tables.run? runId = some run ∧
    run.status.isTerminal = true ∧ run.endedAt.isSome = true
  decided : ∀ result ∈ system.engine.store.tables.listResults runId, result.status ≠ .pending
  told : ∃ status, .runFinished runId status ∈ system.engine.events
  free : system.engine.registry.slot = .empty

theorem Running.not_ceased (running : system.Running number task finished) :
    ¬(system.engine.task? number).any RunTask.isOver = true := by
  simp [running.found, running.busy]

/-- A run that comes to its end without a breakdown is resolved. -/
theorem Transition.resolved (transition : Transition sessions system turn later)
    (consistent : system.Consistent) (running : system.Running number task finished)
    (intact : turn.move ≠ .breakDown number)
    (ceased : (later.engine.task? number).any RunTask.isOver = true) :
    later.Resolved task.run.id := by
  cases transition with
  | aside unmoved beside => exact absurd ceased (running.beside beside).not_ceased
  | claimed idle call ticket testCaseId owned numbered =>
    exact absurd idle.free (by simp [running.held])
  | dropped call starting settles => exact absurd starting.held (by simp [running.held])
  | started call starting settles => exact absurd starting.held (by simp [running.held])
  | stopped again asked => exact absurd ceased (running.stopped _).not_ceased
  | passed again own passes =>
    obtain ⟨rfl, rfl, rfl⟩ := again.unique running
    exact absurd ceased (running.passed passes).not_ceased
  | begun again own stage goes =>
    obtain ⟨rfl, rfl, rfl⟩ := again.unique running
    exact absurd ceased (running.begun stage turn.now).not_ceased
  | decided again own decides made artifacts store sound minted testCases runs results =>
    obtain ⟨rfl, rfl, rfl⟩ := again.unique running
    exact absurd ceased (running.decided decides made artifacts testCases runs results).not_ceased
  | @ended _ _ _ again own fatal failed ends =>
    obtain ⟨rfl, rfl, rfl⟩ := again.unique running
    obtain ⟨stored, terminal, stamped, rows⟩ := running.ended consistent ends turn.now
    let status := (system.engine.endedRun task fatal failed turn.now).status
    have told : (system.engine.ended number task fatal failed turn.now).events =
        system.engine.events ++ [.runFinished task.run.id status] :=
      Engine.events_emit _
    exact
      { ended := ⟨_, stored, terminal, stamped⟩
        decided := by
          intro result among
          exact (running.sound.trail.decided result (rows ▸ among)).1
        told := ⟨status, by simp [change, told]⟩
        free := rfl }
  | brokeDown again fault =>
    obtain ⟨rfl, rfl, rfl⟩ := again.unique running
    exact absurd fault intact

/--
The run of a task is stranded.
The slot is free, but the stored run is running without an end for as long as it is kept, and its
end is never told.
One of its step results is pending if and only if the task was within a step.
-/
structure Stranded (system : System) (sessions : Nat → Session) (number : Nat) (task : RunTask) :
    Prop where
  free : system.engine.registry.slot = .empty
  panicked : system.engine.task? number = some { task with stage := .panicked }
  stored : system.engine.store.tables.run? task.run.id = some task.run
  pending_iff : (∃ result ∈ system.engine.store.tables.listResults task.run.id,
    result.status = .pending) ↔ task.pending?.isSome = true
  stays : ∀ later run,
    (system.after sessions later).engine.store.tables.run? task.run.id = some run →
    run.status = .running ∧ run.endedAt = none
  silent : ∀ later status,
    .runFinished task.run.id status ∉ (system.after sessions later).engine.events
  unresolved : ∀ later, ¬(system.after sessions later).Resolved task.run.id

/-- The run in progress is stranded when its browser breaks down. -/
theorem Running.stranded (running : system.Running number task finished)
    (consistent : system.Consistent) (truthful : system.Truthful) (sessions : Nat → Session)
    (now : Int) :
    (system.step sessions ⟨now, .breakDown number⟩).Stranded sessions number task := by
  obtain ⟨free, panicked, kept⟩ := running.brokeDown sessions now
  have next := consistent.step sessions ⟨now, .breakDown number⟩
  have honest : (system.step sessions ⟨now, .breakDown number⟩).Truthful :=
    (consistent.transition sessions _).truthful consistent truthful
  generalize system.step sessions ⟨now, .breakDown number⟩ = broken at *
  have silent (later : List Turn) (status : RunStatus) :
      .runFinished task.run.id status ∉ (broken.after sessions later).engine.events := by
    have still := next.task?_after_of_over sessions later panicked rfl
    exact (next.truthful_after honest sessions later).silent number _ still rfl status
  exact
    { free
      panicked
      stored := by
        rw [kept]
        exact consistent.store.tables.keyed.run?_eq_some_iff.2 ⟨running.sound.stored, rfl⟩
      pending_iff := by
        rw [kept, running.listResults_eq]
        exact running.sound.trail.pending_iff
      stays := by
        intro later run there
        have rows := (next.after sessions later).store.tables.keyed
        obtain ⟨present, named⟩ := rows.run?_eq_some_iff.1 there
        have old := next.run_after_of_over later panicked rfl present named
        rw [kept] at old
        obtain rfl :=
          Rows.eq_of_key_eq consistent.store.tables.keyed.runs old running.sound.stored named
        exact ⟨running.sound.running, running.sound.unended⟩
      silent
      unresolved := by
        rintro later ⟨-, -, ⟨status, told⟩, -⟩
        exact silent later status told }

/--
A run whose browser breaks down at any of its stages is stranded.
A run whose task comes to its end in any other way is resolved.
-/
theorem stranded_or_resolved {store : Store} (sound : store.Sound) (artifacts : Artifacts)
    (options : RunOptions) (history : List Turn)
    (found : ((opened store artifacts options).after sessions history).engine.task? number =
      some task)
    (busy : task.isOver = false) :
    let system := (opened store artifacts options).after sessions history
    (∀ now, (system.step sessions ⟨now, .breakDown number⟩).Stranded sessions number task) ∧
      ∀ turn, turn.move ≠ .breakDown number →
        ((system.step sessions turn).engine.task? number).any RunTask.isOver = true →
        (system.step sessions turn).Resolved task.run.id := by
  have first := Consistent.opened sound artifacts options
  have unheard : (opened store artifacts options).Truthful :=
    ⟨by simp [opened, Engine.events], by simp [opened, Engine.task?]⟩
  have consistent := first.after sessions history
  have truthful := first.truthful_after unheard sessions history
  obtain ⟨finished, running⟩ := consistent.running_of_busy found busy
  refine ⟨fun now => running.stranded consistent truthful sessions now, ?_⟩
  intro turn intact ceased
  exact (consistent.transition sessions turn).resolved consistent running intact ceased

/-- The run of the sample is stranded within its step. -/
theorem stranded_after_sampleBreakDown :
    ∃ task, (sample sampleAction).engine.task? 0 = some task ∧ task.isOver = false ∧
      task.pending?.isSome = true ∧
      (sample sampleBreakDown).Stranded (fun _ => .prompt) 0 task := by
  have within : ((sample sampleAction).engine.task? 0).any
      (fun task => !task.isOver && task.pending?.isSome) = true := by decide +kernel
  obtain ⟨task, found, facts⟩ := (Option.any_eq_true _ _).1 within
  obtain ⟨busy, pending⟩ : task.isOver = false ∧ task.pending?.isSome = true := by
    simpa using facts
  exact ⟨task, found, busy, pending, (stranded_or_resolved .empty _ _ _ found busy).1 4⟩

/-- Tells whether an event is the end of a run. -/
def endsRun : RunEvent → Bool
  | .runFinished _ _ => true
  | _ => false

/-- A task can be over although its run has not ended. -/
theorem not_resolved_after_sampleBreakDown :
    ¬∀ task, (sample sampleBreakDown).engine.task? 0 = some task → task.isOver = true →
      (sample sampleBreakDown).Resolved task.run.id := by
  intro promise
  have silent : (sample sampleBreakDown).engine.events.any endsRun = false := by decide +kernel
  have ceased : ((sample sampleBreakDown).engine.task? 0).any RunTask.isOver = true := by
    decide +kernel
  obtain ⟨task, found, ended⟩ := (Option.any_eq_true _ _).1 ceased
  obtain ⟨status, told⟩ := (promise task found ended).told
  exact List.any_eq_false.1 silent _ told rfl

end System

end StepRunner
