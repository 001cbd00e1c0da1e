import Mathlib.Data.List.Flatten
import StepRunner.Proofs.Engine.Cancels
import StepRunner.Proofs.Engine.Continuing
import StepRunner.Proofs.Engine.Filing

/-!
This file puts all times that an engine records for its runs into one order.
Whatever happens, they are readings of the clock in the order in which the clock gave them: those
of a run come before those of every run that starts later, and those of a step before those of
every step that follows it.
-/

namespace StepRunner

/-- The instants at which a step began and ended, as far as it has come. -/
def StepResult.instants (result : StepResult) : List Int :=
  result.startedAt :: result.endedAt.toList

/-- The end of a step is recorded after its start. -/
theorem StepResult.instants_decided_sublist (result : StepResult) (cancelled : Bool)
    (failure path : Option String) (now : Int) :
    (Engine.decidedResult cancelled result failure path now).instants.Sublist
      (result.instants ++ [now]) :=
  (List.sublist_append_right result.endedAt.toList [now]).cons_cons result.startedAt

namespace RunTask

/-- The run of a task as the engine has recorded it. -/
def record (task : RunTask) : Run :=
  match task.stage with
  | .ended run => run
  | _ => task.run

/-- The start of a run, the instants of its steps one after the other, and its end. -/
def instants (task : RunTask) (results : List StepResult) : List Int :=
  task.record.startedAt :: (results.flatMap StepResult.instants ++ task.record.endedAt.toList)

/-- The step results of a task that is over are in order, and all are ended if the run has ended. -/
structure Settled (task : RunTask) (results : List StepResult) : Prop where
  ordered : (results.map StepResult.order).Pairwise (· ≤ ·)
  ended : ∀ run, task.stage = .ended run →
    run.endedAt.isSome = true ∧ ∀ result ∈ results, result.endedAt.isSome = true

variable {task : RunTask} {results fewer : List StepResult}

/-- A task that has not ended has the run that it was created with. -/
theorem record_of_unended (unended : task.hasEnded = false) : task.record = task.run := by
  unfold hasEnded at unended
  unfold record
  split <;> simp_all

theorem Settled.of_sublist (settled : task.Settled results) (sublist : fewer.Sublist results) :
    task.Settled fewer where
  ordered := settled.ordered.sublist (sublist.map _)
  ended := by
    intro run stage
    obtain ⟨ended, all⟩ := settled.ended run stage
    exact ⟨ended, fun result among => all result (sublist.subset among)⟩

/-- Fewer results record fewer instants. -/
theorem instants_sublist (sublist : fewer.Sublist results) :
    (task.instants fewer).Sublist (task.instants results) :=
  ((sublist.flatMap _).append_right _).cons_cons _

end RunTask

namespace Engine

/-- The instants that an engine has recorded for its runs, in the order of their starts. -/
def timeline (engine : Engine) : List Int :=
  engine.tasks.flatMap fun task => task.instants (engine.store.tables.resultsOf task.run.id)

variable {engine : Engine}

/-- A deletion adds no step result. -/
theorem results_perform_sublist (reliable : engine.refusals = []) (deletion : Deletion) :
    (deletion.perform engine).2.store.tables.results.Sublist engine.store.tables.results := by
  have removed : (deletion.remove engine.store).2.tables.results.Sublist
      engine.store.tables.results := by
    cases deletion with
    | project id => exact List.filter_sublist
    | testCase id => exact List.filter_sublist
  rw [deletion.perform_eq_delete]
  rcases engine.store_delete reliable (deletion.check engine.registry)
    (.notFound deletion.resource deletion.id) (deletion.runIds engine.store.tables)
    (deletion.remove ·) with same | same
  · rw [same]
  · rw [same]
    exact removed

/-- The end of a step concerns the results of no other run. -/
theorem resultsOf_endStep_other (reliable : engine.refusals = []) (sound : engine.store.Sound)
    (number : Nat) (task : RunTask) {result : StepResult}
    (stored : result ∈ engine.store.tables.results) (failure path : Option String)
    (rest : List Step) (now : Int) {runId : String} (other : result.runId ≠ runId) :
    (engine.endStep number task result failure path rest now).store.tables.resultsOf runId =
      engine.store.tables.resultsOf runId := by
  let change (row : StepResult) : StepResult :=
    if Store.isPending result.id row then
      decidedResult (engine.registry.cancelRequested task.active) row failure path now
    else row
  have own (row : StepResult) : (change row).runId = row.runId := by
    simp only [change]
    split <;> rfl
  have kept : ∀ row ∈ engine.store.tables.resultsOf runId, change row = row := by
    intro row among
    obtain ⟨present, named⟩ := List.mem_filter.1 among
    refine if_neg fun chosen => other ?_
    simp only [Store.isPending, Bool.and_eq_true, decide_eq_true_eq] at chosen
    have same := Rows.eq_of_key_eq sound.tables.keyed.results present stored chosen.1
    exact same ▸ of_decide_eq_true named
  calc (engine.endStep number task result failure path rest now).store.tables.resultsOf runId
      = (engine.store.tables.results.map change).filter fun row => row.runId = runId := by
        rw [Tables.resultsOf, engine.results_endStep reliable]
    _ = (engine.store.tables.resultsOf runId).map change := by
        simp only [Tables.resultsOf, List.filter_map, Function.comp_def, own]
    _ = engine.store.tables.resultsOf runId := by
        conv_rhs => rw [← List.map_id (engine.store.tables.resultsOf runId)]
        exact List.map_congr_left kept

end Engine

namespace System

variable {sessions : Nat → Session} {system later : System} {turn : Turn} {number : Nat}
  {task : RunTask} {finished : List StepResult}

/-- The run in progress leaves the step results of the other runs alone. -/
theorem Running.resultsOf_proceed_other (running : system.Running number task finished)
    (consistent : system.Consistent) (session : Session) (now : Int) {runId : String}
    (other : task.run.id ≠ runId) :
    (system.engine.proceed session number now).store.tables.resultsOf runId =
      system.engine.store.tables.resultsOf runId := by
  have found := running.found
  have sound := running.sound
  have ends (fatal : Option String) (failed : Bool) :
      (system.engine.finalize number task fatal failed now).store.tables.resultsOf runId =
        system.engine.store.tables.resultsOf runId := by
    rw [Engine.finalize_eq consistent.reliable consistent.store sound.stored sound.running
      running.held]
    rfl
  have decides {result : StepResult} (pending : task.pending? = some result)
      (failure path : Option String) (rest : List Step) (artifacts : Artifacts) :
      ({ system.engine with artifacts }.endStep number task result failure path rest
        now).store.tables.resultsOf runId = system.engine.store.tables.resultsOf runId := by
    obtain ⟨-, own⟩ := sound.trail.pending result pending
    have listed : result ∈ system.engine.store.tables.resultsOf task.run.id := by
      simp [sound.results, RunTask.rows, pending]
    have apart : result.runId ≠ runId := own ▸ other
    have kept := @Engine.resultsOf_endStep_other { system.engine with artifacts }
      consistent.reliable consistent.store number task result (List.mem_filter.1 listed).1 failure
      path rest now runId apart
    exact kept
  simp only [Engine.proceed, found]
  cases stage : task.stage with
  | launching =>
    simp only [Engine.launched, found, stage]
    split
    · exact ends _ _
    · rfl
  | ready rest =>
    simp only [Engine.advance, found, stage]
    cases rest with
    | nil => rfl
    | cons step rest =>
      simp only
      split
      · rfl
      · rw [Engine.beginStep_eq consistent.reliable consistent.store sound.stored]
        have added := Store.resultsOf_append system.engine.store.tables runId
          (system.engine.begunResult task step now)
        have apart : (system.engine.begunResult task step now).runId ≠ runId := other
        rw [if_neg apart, List.append_nil] at added
        exact added
  | acting result action rest =>
    simp only [Engine.acted, found, stage]
    rfl
  | photographing result failure rest =>
    simp only [Engine.photographed, found, stage]
    split
    · rfl
    · exact decides (by simp [RunTask.pending?, stage]) _ _ _ _
  | storing result failure picture rest =>
    simp only [Engine.stored, found, stage]
    exact decides (by simp [RunTask.pending?, stage]) _ _ _ _
  | closing fault =>
    cases fault with
    | none =>
      simp only [Engine.closed, found, stage]
      exact ends _ _
    | some fault => exact absurd stage (sound.trail.faultless fault)
  | ended run => rfl
  | panicked => rfl

/-- Only a task that goes on adds step results. -/
theorem Consistent.results_step_sublist (consistent : system.Consistent)
    (sessions : Nat → Session) (other : ∀ number, turn.move ≠ .proceed number) :
    (system.step sessions turn).engine.store.tables.results.Sublist
      system.engine.store.tables.results := by
  have reliable := consistent.reliable
  obtain ⟨now, move⟩ := turn
  cases move with
  | begin testCaseId browser options =>
    simp only [System.step]
    split
    · next prepared =>
      obtain ⟨-, -, -, -, -, -, registry, -, rfl⟩ := Engine.prepare_eq prepared
      exact List.Sublist.refl _
    · exact List.Sublist.refl _
  | conclude index installed =>
    cases waits : system.waiting[index]? with
    | none =>
      simp only [System.step, waits]
      exact List.Sublist.refl _
    | some call =>
      cases installed with
      | error reason =>
        simp only [System.step, waits]
        exact List.Sublist.refl _
      | ok _ =>
        rw [consistent.step_conclude waits now]
        exact List.Sublist.refl _
  | abandon index =>
    simp only [System.step]
    split
    · exact List.Sublist.refl _
    · exact List.Sublist.refl _
  | proceed number => exact absurd rfl (other number)
  | breakDown number =>
    simp only [System.step, System.change, Engine.brokeDown]
    split
    · exact List.Sublist.refl _
    · split
      · exact List.Sublist.refl _
      · exact List.Sublist.refl _
  | cancel runId => exact List.Sublist.refl _
  | createProject name => exact (Engine.Keeps.createProject reliable now name).results
  | createTestCase projectId title lines =>
    exact (Engine.Keeps.createTestCase reliable now projectId title lines).results
  | updateSteps testCaseId lines =>
    exact (Engine.Keeps.updateSteps reliable now testCaseId lines).results
  | deleteProject id => exact Engine.results_perform_sublist reliable (.project id)
  | deleteTestCase id => exact Engine.results_perform_sublist reliable (.testCase id)
  | read path variant => exact List.Sublist.refl _
  | install change => exact List.Sublist.refl _

/-- A turn adds no step result to a run, unless the task of the run goes on. -/
theorem Consistent.resultsOf_step_sublist (consistent : system.Consistent)
    (sessions : Nat → Session) {runId : String}
    (other : ∀ number task, turn.move = .proceed number →
      system.engine.task? number = some task → task.isOver = false → task.run.id ≠ runId) :
    ((system.step sessions turn).engine.store.tables.resultsOf runId).Sublist
      (system.engine.store.tables.resultsOf runId) := by
  by_cases proceeds : ∃ number, turn.move = .proceed number
  · obtain ⟨number, own⟩ := proceeds
    simp only [System.step, own, System.change]
    cases found : system.engine.task? number with
    | none => simp [Engine.proceed, found]
    | some task =>
      cases busy : task.isOver with
      | true =>
        have ceased : ∀ rival, system.engine.task? number = some rival → rival.isOver = true := by
          intro rival present
          exact Option.some.inj (found.symm.trans present) ▸ busy
        rw [Engine.proceed_of_over ceased]
      | false =>
        obtain ⟨finished, running⟩ := consistent.running_of_busy found busy
        rw [running.resultsOf_proceed_other consistent _ _ (other number task own found busy)]
  · exact (consistent.results_step_sublist sessions fun number own =>
      proceeds ⟨number, own⟩).filter _

section Timeline

/-- The same tasks with fewer results record fewer instants. -/
theorem timeline_sublist_of_same (tasks : later.engine.tasks = system.engine.tasks)
    (fewer : ∀ task ∈ system.engine.tasks,
      (later.engine.store.tables.resultsOf task.run.id).Sublist
        (system.engine.store.tables.resultsOf task.run.id)) :
    later.engine.timeline.Sublist system.engine.timeline := by
  rw [Engine.timeline, tasks]
  exact List.Sublist.flatMap_right _ fun task among => RunTask.instants_sublist (fewer task among)

/-- What the last task records comes at the end of the timeline. -/
theorem timeline_sublist_of_last {earlier : List RunTask} {rival : RunTask} {added : List Int}
    (before : system.engine.tasks = earlier ++ [task])
    (after : later.engine.tasks = earlier ++ [rival])
    (others : ∀ other ∈ earlier, (later.engine.store.tables.resultsOf other.run.id).Sublist
      (system.engine.store.tables.resultsOf other.run.id))
    (own : (rival.instants (later.engine.store.tables.resultsOf rival.run.id)).Sublist
      (task.instants (system.engine.store.tables.resultsOf task.run.id) ++ added)) :
    later.engine.timeline.Sublist (system.engine.timeline ++ added) := by
  have first := List.Sublist.flatMap_right earlier fun other among =>
    @RunTask.instants_sublist other _ _ (others other among)
  simp only [Engine.timeline, before, after, List.flatMap_append, List.flatMap_singleton,
    List.append_assoc]
  exact first.append own

/-- The times recorded so far follow a clock, and the task that is not over is the last one. -/
structure Timely (system : System) (clock : List Int) : Prop where
  timeline : system.engine.timeline.Sublist clock
  last : ∀ number task, system.engine.task? number = some task → task.isOver = false →
    number + 1 = system.engine.tasks.length
  settled : ∀ number task, system.engine.task? number = some task → task.isOver = true →
    task.Settled (system.engine.store.tables.resultsOf task.run.id)

variable {clock added : List Int}

/-- A turn that changes no task and adds no result leaves the timeline as it is, or shortens it. -/
theorem Timely.unchanged (timely : system.Timely clock)
    (tasks : later.engine.tasks = system.engine.tasks)
    (fewer : ∀ runId, (later.engine.store.tables.resultsOf runId).Sublist
      (system.engine.store.tables.resultsOf runId)) : later.Timely (clock ++ added) where
  timeline :=
    ((timeline_sublist_of_same tasks fun _ _ => fewer _).trans timely.timeline).trans
      (List.sublist_append_left clock added)
  last := by
    simp only [Engine.task?, tasks]
    exact timely.last
  settled := by
    simp only [Engine.task?, tasks]
    exact fun number task found ceased =>
      (timely.settled number task found ceased).of_sublist (fewer _)

/-- A change of the last task changes the end of the list of tasks. -/
theorem Running.tasks_updateTask (running : system.Running number task finished)
    (last : number + 1 = system.engine.tasks.length) (change : RunTask → RunTask) :
    (system.engine.updateTask number change).tasks =
      system.engine.tasks.take number ++ [change task] := by
  obtain ⟨inside, here⟩ := List.getElem?_eq_some_iff.1 running.found
  simp only [Engine.updateTask, List.modify_eq_take_cons_drop inside, here,
    List.drop_eq_nil_of_le last.ge]

/-- The task in progress goes on or comes to its end. -/
theorem Timely.changed (timely : system.Timely clock) (consistent : system.Consistent)
    (running : system.Running number task finished) {change : RunTask → RunTask}
    (tasks : later.engine.tasks = (system.engine.updateTask number change).tasks)
    (kept : (change task).run = task.run)
    (fewer : ∀ runId, task.run.id ≠ runId → (later.engine.store.tables.resultsOf runId).Sublist
      (system.engine.store.tables.resultsOf runId))
    (own : ((change task).instants (later.engine.store.tables.resultsOf task.run.id)).Sublist
      (task.instants (system.engine.store.tables.resultsOf task.run.id) ++ added))
    (settled : (change task).isOver = true →
      (change task).Settled (later.engine.store.tables.resultsOf task.run.id)) :
    later.Timely (clock ++ added) := by
  have before := timely.last number task running.found running.busy
  have after := running.tasks_updateTask before change
  have others : ∀ other ∈ system.engine.tasks.take number,
      (later.engine.store.tables.resultsOf other.run.id).Sublist
        (system.engine.store.tables.resultsOf other.run.id) := by
    intro other among
    obtain ⟨position, found⟩ := List.mem_iff_getElem?.1 among
    rw [List.getElem?_take] at found
    split at found
    · next early =>
      exact fewer _ (consistent.runId_ne running.found found early.ne).symm
    · cases found
  have unchanged : (system.engine.updateTask number id).tasks = system.engine.tasks :=
    List.modify_id _ _
  exact
    { timeline := by
        refine (timeline_sublist_of_last (unchanged.symm.trans
          (running.tasks_updateTask before id)) (tasks.trans after) others ?_).trans
          (timely.timeline.append_right added)
        rw [kept]
        exact own
      last := by
        intro other rival found busy
        have same : other = number := by
          by_contra different
          rw [Engine.task?, tasks] at found
          simp [running.over_updateTask change other rival found different] at busy
        rw [same, before, tasks]
        exact (List.length_modify _ _ _).symm
      settled := by
        intro other rival found ceased
        rw [Engine.task?, tasks] at found
        by_cases same : other = number
        · subst same
          obtain rfl := Option.some.inj ((running.found_updateTask change).symm.trans found)
          rw [kept]
          exact settled ceased
        · rw [← Engine.task?, Engine.task?_updateTask, if_neg (Ne.symm same)] at found
          have different := consistent.runId_ne running.found found same
          exact (timely.settled other rival found ceased).of_sublist
            (fewer _ (Ne.symm different)) }

/-- A run in progress records its start and what its steps record. -/
theorem Running.instants_eq (running : system.Running number task finished)
    (results : List StepResult) :
    task.instants results = task.run.startedAt :: results.flatMap StepResult.instants := by
  rw [RunTask.instants, RunTask.record_of_unended running.unended, running.sound.unended,
    Option.toList_none, List.append_nil]

/-- The step results of the run in progress are in order. -/
theorem Running.ordered (running : system.Running number task finished) :
    ((system.engine.store.tables.resultsOf task.run.id).map StepResult.order).Pairwise (· ≤ ·) := by
  rw [running.sound.results, running.sound.orders]
  exact List.pairwise_le_range'

/-- A run that starts records its start after everything that is recorded. -/
theorem Timely.started (timely : system.Timely clock) (consistent : system.Consistent)
    {call : StartCall} (starting : system.Starting call) (now : Int) :
    Timely ⟨system.engine.started call now, []⟩ (clock ++ [now]) where
  timeline := by
    have bare : (system.engine.startedStore call now).tables.resultsOf
        (system.engine.startedRun call now).id = [] :=
      Engine.startedStore_resultsOf consistent.store
    have whole : (system.engine.started call now).timeline = system.engine.timeline ++ [now] := by
      change (system.engine.tasks ++ [system.engine.startedTask call now]).flatMap _ = _
      rw [List.flatMap_append, List.flatMap_singleton]
      change _ ++ (system.engine.startedTask call now).instants
        ((system.engine.startedStore call now).tables.resultsOf
          (system.engine.startedRun call now).id) = _
      rw [bare]
      rfl
    rw [whole]
    exact timely.timeline.append_right [now]
  last := by
    intro number task found busy
    have length : (system.engine.started call now).tasks.length =
        system.engine.tasks.length + 1 := List.length_append
    have inside : number < (system.engine.started call now).tasks.length :=
      (List.getElem?_eq_some_iff.1 found).1
    rw [length] at inside ⊢
    by_contra early
    have old : system.engine.task? number = some task := by
      rwa [Engine.task?, ← List.getElem?_append_left (by omega)]
    simp [starting.ceased number task old] at busy
  settled := by
    intro number task found ceased
    rcases task?_started found with old | rfl
    · exact timely.settled number task old ceased
    · cases ceased

/-- The run in progress comes to its end and records it. -/
theorem Timely.ended (timely : system.Timely clock) (consistent : system.Consistent)
    (running : system.Running number task finished) {session : Session} {fatal : Option String}
    {failed : Bool} (ends : task.Ends session fatal failed) (now : Int) :
    Timely (system.change (·.ended number task fatal failed now)) (clock ++ [now]) := by
  let run := system.engine.endedRun task fatal failed now
  have status := Engine.finalStatus_isTerminal
    (system.engine.registry.cancelRequested task.active) (fatal.isSome || failed)
  have startedAt : run.startedAt = task.run.startedAt := by
    refine if_neg fun same => ?_
    rw [same] at status
    cases status
  have endedAt : run.endedAt = some now := by
    simp [run, Engine.endedRun, Store.moved, status]
  let finish (task : RunTask) : RunTask := { task with stage := .ended run }
  have tasks : (system.change (·.ended number task fatal failed now)).engine.tasks =
      (system.engine.updateTask number finish).tasks := rfl
  refine timely.changed consistent running tasks rfl (fun _ _ => List.Sublist.refl _) ?_ ?_
  · rw [running.instants_eq]
    change (run.startedAt :: _ ++ run.endedAt.toList).Sublist _
    rw [startedAt, endedAt]
    exact List.Sublist.refl _
  · refine fun _ => ⟨running.ordered, ?_⟩
    rintro _ ⟨⟩
    refine ⟨by rw [endedAt]; rfl, fun result among => ?_⟩
    change result ∈ system.engine.store.tables.resultsOf task.run.id at among
    rw [running.sound.results, RunTask.rows, ends.pending?_eq, Option.toList_none,
      List.append_nil] at among
    exact (running.sound.trail.decided result among).2

/-- Each turn adds its own instant to the timeline, or nothing. -/
theorem Consistent.timely_step (consistent : system.Consistent) (timely : system.Timely clock)
    (sessions : Nat → Session) (turn : Turn) :
    (system.step sessions turn).Timely (clock ++ [turn.now]) := by
  have fewer {runId : String} := @resultsOf_step_sublist system turn consistent sessions runId
  have transition := consistent.transition sessions turn
  generalize system.step sessions turn = later at fewer transition
  have others {number : Nat} {task : RunTask} {finished : List StepResult}
      (running : system.Running number task finished) (own : turn.move = .proceed number) :
      ∀ runId, task.run.id ≠ runId → (later.engine.store.tables.resultsOf runId).Sublist
        (system.engine.store.tables.resultsOf runId) := by
    refine fun runId other => fewer fun rival again moves found _ => ?_
    obtain rfl : number = rival := Move.proceed.inj (own.symm.trans moves)
    obtain rfl := Option.some.inj (running.found.symm.trans found)
    exact other
  cases transition with
  | aside unmoved beside =>
    refine timely.unchanged ?_ fun runId => fewer fun number task moves found busy => ?_
    · obtain ⟨store, installs, artifacts, aside, rfl⟩ := beside
      rfl
    · simp [unmoved.proceed number task moves found] at busy
  | claimed idle call ticket testCaseId owned numbered =>
    exact timely.unchanged rfl fun _ => List.Sublist.refl _
  | dropped call starting settles => exact timely.unchanged rfl fun _ => List.Sublist.refl _
  | started call starting settles => exact timely.started consistent starting turn.now
  | stopped running asked => exact timely.unchanged rfl fun _ => List.Sublist.refl _
  | passed running own passes =>
    have goesOn := running.passed passes
    refine timely.changed consistent running rfl rfl (others running own) ?_ fun ceased => ?_
    · rw [goesOn.instants_eq, running.instants_eq]
      exact List.sublist_append_left _ _
    · simp [goesOn.busy] at ceased
  | @begun number task finished running own step rest stage goes =>
    have goesOn := running.begun stage turn.now
    refine timely.changed consistent running rfl rfl (others running own) ?_ fun ceased => ?_
    · have rows : (system.engine.begunStore task step turn.now).tables.resultsOf task.run.id =
          system.engine.store.tables.resultsOf task.run.id ++
            [system.engine.begunResult task step turn.now] := Engine.begunStore_resultsOf step
      rw [goesOn.instants_eq, running.instants_eq]
      change (_ :: ((system.engine.begunStore task step turn.now).tables.resultsOf
        task.run.id).flatMap _).Sublist _
      rw [rows, List.flatMap_append, List.flatMap_singleton]
      exact List.Sublist.refl _
    · simp [goesOn.busy] at ceased
  | @decided number task finished running own result outcome failure path rest decides made
      artifacts store sound minted testCases runs results =>
    have goesOn := running.decided decides made artifacts testCases runs results
    refine timely.changed consistent running rfl rfl (others running own) ?_ fun ceased => ?_
    · have rows : system.engine.store.tables.resultsOf task.run.id = finished ++ [result] := by
        rw [running.sound.results, RunTask.rows, decides.pending?_eq, Option.toList_some]
      rw [goesOn.instants_eq, running.instants_eq, rows]
      change (_ :: (store.tables.resultsOf task.run.id).flatMap _).Sublist _
      rw [results, made, List.flatMap_append, List.flatMap_append, List.flatMap_singleton,
        List.flatMap_singleton, List.cons_append, List.append_assoc]
      exact ((result.instants_decided_sublist _ failure path turn.now).append_left _).cons_cons _
    · simp [goesOn.busy] at ceased
  | ended running own ends => exact timely.ended consistent running ends turn.now
  | @brokeDown number task finished running fault =>
    refine timely.changed consistent running rfl rfl (fun _ _ => List.Sublist.refl _) ?_ fun _ => ?_
    · rw [running.instants_eq]
      change (task.run.startedAt :: (_ ++ task.run.endedAt.toList)).Sublist _
      rw [running.sound.unended, Option.toList_none, List.append_nil]
      exact List.sublist_append_left _ _
    · refine ⟨running.ordered, fun run ended => ?_⟩
      cases ended

/-- Every history adds some of its instants to the timeline, in their order. -/
theorem Consistent.timely_after (consistent : system.Consistent) (timely : system.Timely clock)
    (sessions : Nat → Session) (history : List Turn) :
    (system.after sessions history).Timely (clock ++ history.map Turn.now) := by
  induction history generalizing system clock with
  | nil =>
    rw [List.map_nil, List.append_nil]
    exact timely
  | cons turn history inductionHypothesis =>
    have later := inductionHypothesis (consistent.step sessions turn)
      (consistent.timely_step timely sessions turn)
    rwa [List.append_assoc, List.singleton_append] at later

theorem Timely.opened (store : Store) (artifacts : Artifacts) (options : RunOptions) :
    (opened store artifacts options).Timely [] where
  timeline := List.Sublist.refl _
  last := by simp [System.opened, Engine.task?]
  settled := by simp [System.opened, Engine.task?]

/-- The results of a run are listed in the order in which they were stored. -/
theorem Timely.listResults_eq (timely : system.Timely clock) (consistent : system.Consistent)
    (found : system.engine.task? number = some task) :
    system.engine.store.tables.listResults task.run.id =
      system.engine.store.tables.resultsOf task.run.id := by
  have ordered : ((system.engine.store.tables.resultsOf task.run.id).map
      StepResult.order).Pairwise (· ≤ ·) := by
    cases busy : task.isOver with
    | true => exact (timely.settled number task found busy).ordered
    | false =>
      obtain ⟨finished, running⟩ := consistent.running_of_busy found busy
      exact running.ordered
  rw [List.pairwise_map] at ordered
  rw [Tables.listResults_eq]
  exact List.mergeSort_of_pairwise (ordered.imp (by simp))

end Timeline

section Calm

/-- No browser has broken down within a run. -/
def Unbroken (system : System) : Prop :=
  ∀ number task, system.engine.task? number = some task → task.stage ≠ .panicked

theorem Unbroken.updateTask (unbroken : system.Unbroken)
    (running : system.Running number task finished) {change : RunTask → RunTask}
    (tasks : later.engine.tasks = (system.engine.updateTask number change).tasks)
    (whole : (change task).stage ≠ .panicked) : later.Unbroken := by
  intro other rival found
  simp only [Engine.task?, tasks] at found
  by_cases same : other = number
  · subst same
    obtain rfl := Option.some.inj ((running.found_updateTask change).symm.trans found)
    exact whole
  · refine unbroken other rival ?_
    rwa [← Engine.task?, Engine.task?_updateTask, if_neg (Ne.symm same)] at found

theorem Running.unbroken (running : system.Running number task finished) :
    task.stage ≠ .panicked := by
  intro stage
  have busy := running.busy
  simp [RunTask.isOver, stage] at busy

theorem Transition.unbroken (transition : Transition sessions system turn later)
    (unbroken : system.Unbroken) (calm : turn.isCalm = true) : later.Unbroken := by
  cases transition with
  | aside unmoved beside =>
    obtain ⟨store, installs, artifacts, aside, rfl⟩ := beside
    exact unbroken
  | claimed idle call ticket testCaseId owned numbered => exact unbroken
  | dropped call starting settles => exact unbroken
  | started call starting settles =>
    intro number task found
    rcases task?_started found with old | rfl
    · exact unbroken number task old
    · exact nofun
  | stopped running asked => exact unbroken
  | passed running own passes =>
    exact unbroken.updateTask running rfl (running.passed passes).unbroken
  | begun running own stage goes =>
    exact unbroken.updateTask running rfl (running.begun stage turn.now).unbroken
  | decided running own decides made artifacts store sound minted testCases runs results =>
    exact unbroken.updateTask running rfl
      (running.decided decides made artifacts testCases runs results).unbroken
  | ended running own ends => exact unbroken.updateTask running rfl nofun
  | brokeDown running fault => simp [Turn.isCalm, fault] at calm

theorem Consistent.unbroken_after (consistent : system.Consistent) (unbroken : system.Unbroken)
    (sessions : Nat → Session) (history : List Turn)
    (calm : ∀ turn ∈ history, turn.isCalm = true) : (system.after sessions history).Unbroken := by
  induction history generalizing system with
  | nil => exact unbroken
  | cons turn history inductionHypothesis =>
    obtain ⟨first, others⟩ := List.forall_mem_cons.1 calm
    exact inductionHypothesis (consistent.step sessions turn)
      ((consistent.transition sessions turn).unbroken unbroken first) others

/-- The times that an engine has recorded for its runs are those of one course of events. -/
structure Chronological (system : System) : Prop where
  /-- A run that is stored is as its task has recorded it. -/
  recorded : ∀ task ∈ system.engine.tasks, task.record.id = task.run.id ∧
    ∀ row ∈ system.engine.store.tables.runs, row.id = task.run.id → row = task.record
  /-- A run has ended after all its steps. -/
  ended : ∀ task ∈ system.engine.tasks, task.record.endedAt.isSome = true →
    ∀ result ∈ system.engine.store.tables.listResults task.run.id, result.endedAt.isSome = true
  /-- The start of a run, those and the ends of its steps, and its end lie in this order. -/
  within : ∀ task ∈ system.engine.tasks,
    (task.instants (system.engine.store.tables.listResults task.run.id)).Pairwise (· ≤ ·)
  /-- A run starts after the end of every run that was started before it. -/
  apart : ∀ number other task rival, number < other → system.engine.task? number = some task →
    system.engine.task? other = some rival →
    ∃ ended, task.record.endedAt = some ended ∧ ended ≤ rival.record.startedAt

/-- The recorded times follow a clock that never goes back. -/
theorem chronological_after {store : Store} (sound : store.Sound) (artifacts : Artifacts)
    (options : RunOptions) (sessions : Nat → Session) (history : List Turn)
    (calm : ∀ turn ∈ history, turn.isCalm = true)
    (forward : (history.map Turn.now).Pairwise (· ≤ ·)) :
    ((opened store artifacts options).after sessions history).Chronological := by
  have first := Consistent.opened sound artifacts options
  have consistent := first.after sessions history
  have timely := first.timely_after (.opened store artifacts options) sessions history
  have heeds := first.heeds_after (.opened store artifacts options)
    (.opened store artifacts options) sessions history
  have unbroken := first.unbroken_after (by simp [Unbroken, opened, Engine.task?]) sessions history
    calm
  generalize (opened store artifacts options).after sessions history = system at *
  obtain ⟨within, between⟩ := List.pairwise_flatMap.1 (forward.sublist timely.timeline)
  have ends {number : Nat} {task : RunTask} (found : system.engine.task? number = some task)
      (ceased : task.isOver = true) : ∃ run, task.stage = .ended run ∧ task.record = run := by
    cases stage : task.stage with
    | ended run => exact ⟨run, rfl, by simp only [RunTask.record, stage]⟩
    | panicked => exact absurd stage (unbroken number task found)
    | _ => simp [RunTask.isOver, stage] at ceased
  exact
    { recorded := by
        intro task among
        obtain ⟨number, found⟩ := List.mem_iff_getElem?.1 among
        cases busy : task.isOver with
        | false =>
          obtain ⟨finished, running⟩ := consistent.running_of_busy found busy
          rw [RunTask.record_of_unended running.unended]
          exact ⟨rfl, fun row present named => Rows.eq_of_key_eq
            consistent.store.tables.keyed.runs present running.sound.stored named⟩
        | true =>
          obtain ⟨run, stage, rfl⟩ := ends found busy
          obtain ⟨named, reported⟩ := heeds.ended number task _ found stage
          exact ⟨named, fun row present same => reported.stored row present (same.trans named.symm)⟩
      ended := by
        intro task among recorded
        obtain ⟨number, found⟩ := List.mem_iff_getElem?.1 among
        cases busy : task.isOver with
        | false =>
          obtain ⟨finished, running⟩ := consistent.running_of_busy found busy
          simp [RunTask.record_of_unended running.unended, running.sound.unended] at recorded
        | true =>
          obtain ⟨run, stage, -⟩ := ends found busy
          rw [timely.listResults_eq consistent found]
          exact ((timely.settled number task found busy).ended run stage).2
      within := by
        intro task among
        obtain ⟨number, found⟩ := List.mem_iff_getElem?.1 among
        rw [timely.listResults_eq consistent found]
        exact within task among
      apart := by
        intro number other task rival early found again
        obtain ⟨inside, rfl⟩ := List.getElem?_eq_some_iff.1 again
        obtain ⟨present, rfl⟩ := List.getElem?_eq_some_iff.1 found
        have ceased : system.engine.tasks[number].isOver = true := by
          by_contra busy
          have last := timely.last number _ found (by simpa using busy)
          omega
        obtain ⟨run, stage, same⟩ := ends found ceased
        obtain ⟨ended, recorded⟩ := Option.isSome_iff_exists.1
          ((timely.settled number _ found ceased).ended run stage).1
        rw [same]
        refine ⟨ended, recorded, ?_⟩
        refine List.pairwise_iff_getElem.1 between number other present inside early ended ?_ _
          List.mem_cons_self
        simp [RunTask.instants, same, recorded] }

/-- The run of the sample that is done a second time later on. -/
def sampleRepeat : List Turn :=
  sampleRun ++
    [⟨4, .begin (Store.idOf 1) .firefox sampleOptions⟩, ⟨4, .conclude 0 (.ok ())⟩,
      ⟨4, .proceed 1⟩, ⟨5, .proceed 1⟩, ⟨6, .proceed 1⟩, ⟨7, .proceed 1⟩, ⟨8, .proceed 1⟩,
      ⟨8, .proceed 1⟩]

/-- Two runs of the sample record their times one after the other. -/
theorem chronological_after_sampleRepeat :
    (sample sampleRepeat).engine.timeline = [2, 3, 3, 3, 4, 5, 7, 8] ∧
      (sample sampleRepeat).Chronological :=
  ⟨by decide +kernel,
    chronological_after .empty default sampleOptions (fun _ => .prompt) sampleRepeat (by decide)
      (by decide)⟩

end Calm

end System

end StepRunner
