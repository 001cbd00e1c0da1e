import StepRunner.Proofs.Engine.Frames
import StepRunner.Proofs.Store.Recovery

/-!
This file says what a turn of a task does in a sound store whose row of the run somebody else may
have failed.
The task goes on beside that row, or the run comes to its end.
-/

namespace StepRunner

/-- The row of a run in progress, given the time at which a recovery first found it. -/
def Run.shown (run : Run) : Option Int → Run
  | none => run
  | some instant => Store.interrupted run instant

@[simp] theorem Run.shown_id (run : Run) (found? : Option Int) :
    (run.shown found?).id = run.id := by
  cases found? <;> rfl

@[simp] theorem Run.shown_testCaseId (run : Run) (found? : Option Int) :
    (run.shown found?).testCaseId = run.testCaseId := by
  cases found? <;> rfl

/-- A recovery that finds a run in progress fails it, unless another one has done so before. -/
theorem Run.resumed_shown {run : Run} (running : run.status = .running) (found? : Option Int)
    (now : Int) : Store.resumed now (run.shown found?) = run.shown (found?.or (some now)) := by
  cases found? with
  | none => simp [shown, Store.resumed, Store.isOpen, running]
  | some instant => exact Store.resumed_of_terminal rfl

namespace Store

variable {store : Store}

theorem Sound.recoverResults (sound : store.Sound) (now : Int) :
    (store.recoverResults now).Sound :=
  sound.updateResults _ (fun _ => rfl) fun _ => rfl

theorem Sound.recoverRuns (sound : store.Sound) (now : Int) : (store.recoverRuns now).Sound := by
  refine sound.mapRuns (fun run => ?_) fun run => ?_
  · split <;> rfl
  · split <;> rfl

theorem runs_recoverRuns (store : Store) (now : Int) :
    (store.recoverRuns now).tables.runs = store.tables.runs.map (resumed now) := rfl

theorem mem_recoverRuns {run : Run} (running : run.status = .running) {found? : Option Int}
    (stored : run.shown found? ∈ store.tables.runs) (now : Int) :
    run.shown (found?.or (some now)) ∈ (store.recoverRuns now).tables.runs := by
  rw [← Run.resumed_shown running, runs_recoverRuns]
  exact List.mem_map_of_mem stored

/-- A run without an error that moves to its end gets the error and the time of the end. -/
theorem moved_of_terminal {run : Run} {next : RunStatus} (final : next.isTerminal = true)
    (unfailed : run.error = none) (now : Int) (error : Option String) :
    moved run now next error = { run with status := next, endedAt := some now, error } := by
  cases next <;> cases error <;> simp_all [moved, RunStatus.isTerminal]

/-- A move that has been checked is written over what a recovery makes of the run meanwhile. -/
theorem run?_writeMove_recoverRuns (sound : store.Sound) {run : Run}
    (stored : run ∈ store.tables.runs) (running : run.status = .running) (instant now : Int)
    (next : RunStatus) (error : Option String) :
    ((store.recoverRuns instant).writeMove (moved run now next error)).tables.run? run.id =
      some (moved run now next error) := by
  have recovered := sound.recoverRuns instant
  have row : run.shown (some instant) ∈ (store.recoverRuns instant).tables.runs :=
    mem_recoverRuns running (show run.shown none ∈ _ from stored) instant
  refine (recovered.writeMove _).tables.keyed.run?_eq_some_iff.2 ⟨?_, rfl⟩
  refine List.mem_map.2 ⟨_, row, ?_⟩
  simp [Run.shown, interrupted, moved]

end Store

namespace Engine

/-- The slot, the tasks, the runs and the test cases are as before in a sound store. -/
structure Carries (before after : Engine) : Prop where
  reliable : after.refusals = []
  registry : after.registry = before.registry
  tasks : after.tasks = before.tasks
  sound : after.store.Sound
  minted : before.store.minted ≤ after.store.minted
  testCases : after.store.tables.testCases = before.store.tables.testCases
  runs : after.store.tables.runs = before.store.tables.runs

variable {engine before middle after : Engine} {number : Nat} {task : RunTask}

namespace Carries

theorem refl (reliable : engine.refusals = []) (sound : engine.store.Sound) :
    engine.Carries engine :=
  ⟨reliable, rfl, rfl, sound, le_rfl, rfl, rfl⟩

theorem trans (first : before.Carries middle) (second : middle.Carries after) :
    before.Carries after where
  reliable := second.reliable
  registry := second.registry.trans first.registry
  tasks := second.tasks.trans first.tasks
  sound := second.sound
  minted := first.minted.trans second.minted
  testCases := second.testCases.trans first.testCases
  runs := second.runs.trans first.runs

theorem emit (carries : before.Carries after) (event : RunEvent) :
    before.Carries (after.emit event) :=
  ⟨carries.reliable, carries.registry, carries.tasks, carries.sound, carries.minted,
    carries.testCases, carries.runs⟩

/-- A write of step results carries the rest of the engine, if it is not refused. -/
theorem writeOnly (reliable : engine.refusals = []) (sound : engine.store.Sound)
    {change : Store → Except StoreError Store}
    (kept : ∀ store, change engine.store = .ok store → store.Sound ∧
      store.minted = engine.store.minted ∧
      store.tables.testCases = engine.store.tables.testCases ∧
      store.tables.runs = engine.store.tables.runs) :
    engine.Carries (engine.writeOnly change).2 := by
  have rest : engine.refusals.tail = [] := by rw [reliable]; rfl
  rcases engine.writeOnly_cases change with ⟨error, refused⟩ | ⟨store, -, accepted, written⟩
  · rw [refused]
    exact ⟨rest, rfl, rfl, sound, le_rfl, rfl, rfl⟩
  · obtain ⟨sound, minted, testCases, runs⟩ := kept store accepted
    rw [written]
    exact ⟨rest, rfl, rfl, sound, minted.ge, testCases, runs⟩

/-- A new step result is added or refused. -/
theorem insertResult (reliable : engine.refusals = []) (sound : engine.store.Sound)
    {result : StepResult} (made : result.id = Store.idOf engine.store.minted) :
    engine.Carries (engine.mint.2.writeOnly (·.insertResult result)).2 := by
  have next : engine.mint.2.store.Sound :=
    ⟨sound.tables, fun number later => sound.fresh number ((Nat.le_succ _).trans later)⟩
  have mint : engine.Carries engine.mint.2 :=
    ⟨reliable, rfl, rfl, next, Nat.le_succ _, rfl, rfl⟩
  have aside : engine.mint.2.refusals = [] := reliable
  refine mint.trans (writeOnly aside next fun store accepted => ?_)
  obtain ⟨-, owned, rfl⟩ := Store.insertResult_eq accepted
  exact ⟨(Store.insertResult_of_minted sound result made owned).2, rfl, rfl, rfl⟩

theorem finishResult (reliable : engine.refusals = []) (sound : engine.store.Sound)
    (outcome : StepResult) : engine.Carries (engine.writeOnly (·.finishResult outcome)).2 := by
  refine writeOnly reliable sound fun store accepted => ?_
  rw [Store.finishResult_eq accepted]
  exact ⟨sound.updateResults _ (fun _ => rfl) fun _ => rfl, rfl, rfl, rfl⟩

end Carries

/-- What a turn of a task makes of the engine: the task goes on, or its run is finalized. -/
inductive Proceeds (engine : Engine) (number : Nat) (task : RunTask) (now : Int) :
    Engine → Prop where
  | on {middle : Engine} (carries : engine.Carries middle) {change : RunTask → RunTask}
      (run : ∀ task, (change task).run = task.run)
      (active : ∀ task, (change task).active = task.active)
      (busy : (change task).isOver = false) :
      Proceeds engine number task now (middle.updateTask number change)
  | ends {middle : Engine} (carries : engine.Carries middle)
      (quiet : middle.events = engine.events) (fatal : Option String) (failed : Bool) :
      Proceeds engine number task now (middle.finalize number task fatal failed now)

namespace Proceeds

variable {now : Int}

theorem after_carries (carries : engine.Carries middle) (quiet : middle.events = engine.events)
    (proceeds : middle.Proceeds number task now after) :
    engine.Proceeds number task now after := by
  cases proceeds with
  | on next run active busy => exact .on (carries.trans next) run active busy
  | ends next same fatal failed =>
    exact .ends (carries.trans next) (same.trans quiet) fatal failed

theorem setStage (carries : engine.Carries middle) {stage : Stage}
    (busy : RunTask.isOver { task with stage } = false) :
    engine.Proceeds number task now (middle.setStage number stage) :=
  .on carries (fun _ => rfl) (fun _ => rfl) busy

/-- A step begins with a new result, or the run is closed. -/
theorem beginStep (reliable : engine.refusals = []) (sound : engine.store.Sound) (step : Step)
    (rest : List Step) :
    engine.Proceeds number task now (engine.beginStep number task step rest now) := by
  have carries : engine.Carries (engine.mint.2.writeOnly
      (·.insertResult (pendingResult engine.mint.1 task.run step now))).2 :=
    .insertResult reliable sound rfl
  unfold Engine.beginStep
  simp only
  split
  · next outcome =>
    rw [outcome] at carries
    exact setStage carries rfl
  · next outcome =>
    rw [outcome] at carries
    have told := carries.emit (.stepStarted task.run.id step.id step.order)
    split
    · exact setStage told rfl
    · exact setStage told rfl

/-- A step ends with its outcome, or the run is closed. -/
theorem endStep (reliable : engine.refusals = []) (sound : engine.store.Sound)
    (result : StepResult) (failure path : Option String) (rest : List Step) :
    engine.Proceeds number task now
      (engine.endStep number task result failure path rest now) := by
  unfold Engine.endStep
  simp only
  have carries {outcome : StepResult} :
      engine.Carries (engine.writeOnly (·.finishResult outcome)).2 :=
    .finishResult reliable sound outcome
  split
  · next outcome =>
    have carries := outcome ▸ carries
    exact setStage carries rfl
  · next outcome =>
    have carries := outcome ▸ carries
    refine .on (carries.emit _) (fun _ => rfl) (fun _ => rfl) ?_
    rcases stageAfter_cases task.options
      (stepStatus (engine.registry.cancelRequested task.active) failure.isSome) rest with
      goes | stops
    · simp only [RunTask.isOver, goes]
    · simp only [RunTask.isOver, stops]

end Proceeds

/-- A turn of a task that is not over lets it go on, or it finalizes the run. -/
theorem proceeds (reliable : engine.refusals = []) (sound : engine.store.Sound)
    (present : engine.task? number = some task) (busy : task.isOver = false) (session : Session)
    (now : Int) : engine.Proceeds number task now (engine.proceed session number now) := by
  have same : engine.Carries engine := .refl reliable sound
  simp only [proceed, present]
  cases stage : task.stage with
  | launching =>
    simp only [launched, present, stage]
    split
    · exact .ends same rfl _ _
    · exact .setStage same rfl
  | ready rest =>
    simp only [advance, present, stage]
    cases rest with
    | nil => exact .setStage same rfl
    | cons step rest =>
      simp only
      split
      · exact .setStage same rfl
      · exact .beginStep reliable sound step rest
  | acting result action rest =>
    simp only [acted, present, stage]
    exact .setStage same rfl
  | photographing result failure rest =>
    simp only [photographed, present, stage]
    split
    · exact .setStage same rfl
    · exact .endStep reliable sound _ _ _ _
  | storing result failure picture rest =>
    simp only [stored, present, stage]
    let artifacts := (engine.artifacts.capture task.run.id result.stepId picture).2
    let pictured : Engine := { engine with artifacts }
    have reliable : pictured.refusals = [] := reliable
    have kept : engine.Carries pictured := ⟨reliable, rfl, rfl, sound, le_rfl, rfl, rfl⟩
    exact .after_carries kept rfl (.endStep reliable kept.sound _ _ _ _)
  | closing fault =>
    simp only [closed, present, stage]
    cases fault with
    | none => exact .ends same rfl _ _
    | some fault =>
      have failed : engine.writeAlways (·.failPending now task.run.id fault) =
          (.ok (engine.store.failPending now task.run.id fault).1,
            { engine with store := (engine.store.failPending now task.run.id fault).2 }) :=
        write_of_accepted reliable rfl
      have rest : (engine.store.failPending now task.run.id fault).2.Sound :=
        sound.updateResults _ (fun _ => rfl) fun _ => rfl
      have carries : engine.Carries
          { engine with store := (engine.store.failPending now task.run.id fault).2 } :=
        ⟨reliable, rfl, rfl, rest, le_rfl, rfl, rfl⟩
      simp only [failed]
      exact .ends carries rfl _ _
  | ended run => simp [RunTask.isOver, stage] at busy
  | panicked => simp [RunTask.isOver, stage] at busy

/-- A task that is over does not proceed. -/
theorem proceed_of_over
    (ceased : ∀ task, engine.task? number = some task → task.isOver = true) (session : Session)
    (now : Int) : engine.proceed session number now = engine := by
  unfold proceed
  split
  · rfl
  · next task present =>
    have ended := ceased task present
    unfold RunTask.isOver at ended
    split at ended <;> simp_all

theorem brokeDown_of_over
    (ceased : ∀ task, engine.task? number = some task → task.isOver = true) :
    engine.brokeDown number = engine := by
  unfold brokeDown
  split
  · rfl
  · next task present => rw [if_pos (ceased task present)]

/-- A run whose row has ended by itself is told and kept as it ends, and its row stays. -/
theorem finalize_of_terminal (reliable : engine.refusals = []) (sound : engine.store.Sound)
    {row : Run} (stored : row ∈ engine.store.tables.runs) (named : row.id = task.run.id)
    (terminal : row.status.isTerminal = true) (unfailed : task.run.error = none)
    (held : engine.registry.slot = .active task.active.ticket task.active.context)
    (fatal : Option String) (failed : Bool) (now : Int) :
    let run := engine.endedRun task fatal failed now
    engine.finalize number task fatal failed now =
      ({ engine with registry := engine.registry.freed }.emit
        (.runFinished task.run.id run.status)).setStage number (.ended run) := by
  intro run
  let status :=
    finalStatus (engine.registry.cancelRequested task.active) (fatal.isSome || failed)
  have row? : engine.store.tables.run? task.run.id = some row :=
    sound.tables.keyed.run?_eq_some_iff.2 ⟨stored, named⟩
  have closed : row.status.canMoveTo status = false := by
    cases state : row.status <;> simp_all [RunStatus.isTerminal, RunStatus.canMoveTo]
  have refused : engine.write (·.moveRun now task.run.id status fatal) =
      (.error (.invalidTransition row.status.name status.name), engine) := by
    refine write_of_refused reliable ?_
    simp [Store.moveRun, Store.checkMove, row?, closed, bind, Except.bind]
  have ends : run = { task.run with status, endedAt := some now, error := fatal } :=
    Store.moved_of_terminal (finalStatus_isTerminal _ _) unfailed now fatal
  simp only [status] at refused
  simp only [finalize, refused, Registry.finish_of_held held, ends]
  rfl

/-- A run comes to the same end whether or not a recovery found it, but then it is not stored. -/
theorem finalize_shown (reliable : engine.refusals = []) (sound : engine.store.Sound)
    {found? : Option Int} (stored : task.run.shown found? ∈ engine.store.tables.runs)
    (running : task.run.status = .running) (unfailed : task.run.error = none)
    (held : engine.registry.slot = .active task.active.ticket task.active.context)
    (fatal : Option String) (failed : Bool) (now : Int) :
    let run := engine.endedRun task fatal failed now
    let store := if found?.isSome then engine.store else engine.store.writeMove run
    engine.finalize number task fatal failed now =
      ({ engine with store, registry := engine.registry.freed }.emit
        (.runFinished task.run.id run.status)).setStage number (.ended run) := by
  cases found? with
  | none => exact finalize_eq reliable sound stored running held fatal failed now
  | some instant =>
    exact finalize_of_terminal reliable sound stored rfl rfl unfailed held fatal failed now

end Engine

end StepRunner
