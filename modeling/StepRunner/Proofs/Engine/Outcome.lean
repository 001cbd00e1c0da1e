import StepRunner.Proofs.Engine.Course
import StepRunner.Proofs.Engine.Preservation

/-!
This file shows that every run comes to what its course determines, whatever the order of turns.
-/

namespace StepRunner

namespace RunTask

/-- The course of a run that was asked to stop at some points. -/
def course (task : RunTask) (session : Session) (stops : List Stop) : Course :=
  ⟨task.steps, task.options, session, stops⟩

/-- What the course says about the stage of a task after a number of steps. -/
def Awaits (task : RunTask) (course : Course) (count : Nat) : Prop :=
  match task.stage with
  | .ready _ => course.endedBy count = false
  | .acting _ action _ => ∀ step, course.steps[count]? = some step → step.action? = some action
  | .photographing _ failure _ | .storing _ failure _ _ =>
    ∀ step, course.steps[count]? = some step → failure = course.failure? step
  | .closing _ => course.halts count = true
  | .launching | .ended _ | .panicked => True

/-- A task has come so far as its course says. -/
structure Follows (task : RunTask) (course : Course) (finished : List StepResult)
    (cancelled : Bool) : Prop where
  cancelled : cancelled = !course.stops.isEmpty
  past : ∀ stop ∈ course.stops,
    stop.begun ≤ (task.rows finished).length ∧ stop.decided ≤ finished.length
  results : finished.map StepResult.outcome = course.outcomes finished.length
  live : ∀ count < (task.rows finished).length, course.halts count = false
  launched : task.stage ≠ .launching → course.launchFailure? = none
  awaits : task.Awaits course finished.length

/-- A bound for the turns in which a task still has to proceed. -/
def turnsLeft (task : RunTask) : Nat :=
  match task.stage with
  | .launching => 4 * task.steps.length + 3
  | .ready rest => 4 * rest.length + 2
  | .acting _ _ rest => 4 * rest.length + 5
  | .photographing _ _ rest => 4 * rest.length + 4
  | .storing _ _ _ rest => 4 * rest.length + 3
  | .closing _ => 1
  | .ended _ | .panicked => 0

variable {task : RunTask} {session : Session} {stops : List Stop} {finished : List StepResult}
variable {tables : Tables} {cancelled : Bool}

section Facts

theorem Trail.length_le (trail : task.Trail finished) :
    (task.rows finished).length ≤ task.steps.length := by
  have lengths := congrArg List.length trail.places
  simp only [List.length_map, List.length_take] at lengths
  omega

/-- No step is over while the browser is being launched. -/
theorem Trail.finished_of_launching (trail : task.Trail finished)
    (stage : task.stage = .launching) : finished = [] := by
  have left := congrArg List.length (trail.rest task.steps (by simp [rest?, stage]))
  have short := trail.length_le
  have same : task.rows finished = finished := by simp [rows, pending?, stage]
  rw [same, List.length_drop] at left
  rw [same] at short
  exact List.length_eq_zero_iff.1 (by omega)

/-- All steps are over when none is left. -/
theorem Trail.length_of_exhausted (trail : task.Trail finished) (stage : task.stage = .ready []) :
    finished.length = task.steps.length := by
  have left := congrArg List.length (trail.rest [] (by simp [rest?, stage]))
  have short := trail.length_le
  have same : task.rows finished = finished := by simp [rows, pending?, stage]
  rw [same, List.length_drop, List.length_nil] at left
  rw [same] at short
  omega

/-- The pending result belongs to the first step that is not over. -/
theorem Trail.step_of_pending (trail : task.Trail finished) {result : StepResult}
    (pending : task.pending? = some result) :
    ∃ step, task.steps[finished.length]? = some step ∧ result.place = step.place := by
  have places := congrArg (·[finished.length]?) trail.places
  simp only [rows, pending, Option.toList_some, List.map_append, List.map_singleton,
    List.length_append, List.length_singleton, List.getElem?_map, List.getElem?_append,
    List.length_map, Nat.lt_irrefl, if_false, Nat.sub_self, List.getElem?_singleton, if_true,
    List.getElem?_take, Nat.lt_succ_self] at places
  obtain ⟨step, found, place⟩ := Option.map_eq_some_iff.1 places.symm
  exact ⟨step, found, place.symm⟩

theorem turnsLeft_pos (busy : task.isOver = false) : 0 < task.turnsLeft := by
  unfold isOver at busy
  unfold turnsLeft
  split at busy
  · cases busy
  · cases busy
  · split <;> simp_all

theorem rows_length_le (task : RunTask) (finished : List StepResult) :
    (task.rows finished).length ≤ finished.length + 1 := by
  rw [rows, List.length_append]
  cases task.pending? <;> simp

end Facts

section Steps

/-- A request to stop becomes part of the course. -/
theorem Follows.withStop {course : Course} (follows : task.Follows course finished cancelled) :
    task.Follows (course.withStop ⟨(task.rows finished).length, finished.length⟩) finished
      true where
  cancelled := by simp [Course.withStop]
  past := by
    intro stop among
    rcases List.mem_append.1 among with old | new
    · exact follows.past stop old
    · rw [List.mem_singleton.1 new]
      exact ⟨le_rfl, le_rfl⟩
  results := follows.results.trans
    (Course.outcomes_withStop ⟨_, finished.length⟩ le_rfl).symm
  live := by
    intro count early
    have short := rows_length_le task finished
    rw [Course.halts_withStop early (by simp only; omega)]
    exact follows.live count early
  launched := follows.launched
  awaits := by
    have awaits := follows.awaits
    unfold Awaits at awaits ⊢
    cases stage : task.stage with
    | ready rest =>
      simp only [stage] at awaits ⊢
      exact (Course.endedBy_withStop ⟨_, finished.length⟩ le_rfl).trans awaits
    | acting result action rest =>
      simp only [stage] at awaits ⊢
      exact awaits
    | photographing result failure rest =>
      simp only [stage] at awaits ⊢
      exact awaits
    | storing result failure picture rest =>
      simp only [stage] at awaits ⊢
      exact awaits
    | closing fault =>
      have same : task.rows finished = finished := by simp [rows, pending?, stage]
      simp [Course.halts, Course.stoppedBefore, Course.withStop, same]
    | launching => trivial
    | ended run => trivial
    | panicked => trivial

/-- The course foresees each silent pass from one stage to the next. -/
theorem Follows.passes (follows : task.Follows (task.course session stops) finished cancelled)
    (sound : task.Sound tables finished) {stage : Stage}
    (passes : task.Passes session cancelled stage) :
    Follows { task with stage } (task.course session stops) finished cancelled := by
  have rows := (sound.trail.passes passes).2
  refine
    { cancelled := follows.cancelled
      past := rows ▸ follows.past
      results := follows.results
      live := rows ▸ follows.live
      launched := ?_
      awaits := ?_ }
  · intro _
    cases passes with
    | launched before answer => simp [Course.launchFailure?, course, answer]
    | exhausted before => exact follows.launched (by simp [before])
    | stopped before stop => exact follows.launched (by simp [before])
    | acted before => exact follows.launched (by simp [before])
    | photographed before => exact follows.launched (by simp [before])
  · have awaits := follows.awaits
    cases passes with
    | launched before answer =>
      rw [sound.trail.finished_of_launching before]
      rfl
    | exhausted before =>
      have all := sound.trail.length_of_exhausted before
      simp [Awaits, Course.halts, course, all]
    | stopped before stop =>
      have among : task.rows finished = finished := by simp [RunTask.rows, pending?, before]
      have asked : stops ≠ [] := by
        have asked := follows.cancelled
        rw [stop] at asked
        simpa [course] using asked.symm
      obtain ⟨request, rest, rfl⟩ := List.exists_cons_of_ne_nil asked
      have early := (follows.past request (by simp [course])).1
      rw [among] at early
      simp [Awaits, Course.halts, Course.stoppedBefore, course, early]
    | acted before =>
      rename_i result action rest
      have pending : task.pending? = some result := by simp [pending?, before]
      obtain ⟨step, found, place⟩ := sound.trail.step_of_pending pending
      intro other present
      obtain rfl := Option.some.inj (found.symm.trans present)
      have read : step.action? = some action := by
        simp only [Awaits, before] at awaits
        exact awaits step found
      have order : result.order = step.order := (Prod.mk.inj place).2
      rw [order]
      exact Course.failure?_of_action (task.course session stops) read
    | photographed before =>
      simp only [Awaits, before] at awaits
      exact awaits

/-- The course foresees the step that begins next. -/
theorem Follows.begun (follows : task.Follows (task.course session stops) finished cancelled)
    (trail : task.Trail finished) {step : Step} {rest : List Step}
    (stage : task.stage = .ready (step :: rest)) (goes : cancelled = false) (result : StepResult) :
    Follows { task with stage := Engine.begunStage result step rest } (task.course session stops)
      finished cancelled := by
  obtain ⟨found, -⟩ := trail.step_of_ready stage
  have before : task.rows finished = finished := by simp [rows, pending?, stage]
  have unasked : stops = [] := by
    have asked := follows.cancelled
    rw [goes] at asked
    simpa [course] using asked.symm
  have after : (rows { task with stage := Engine.begunStage result step rest } finished).length =
      finished.length + 1 := by
    rw [rows, pending?_begun, List.length_append]
    rfl
  have awaits := follows.awaits
  simp only [Awaits, stage] at awaits
  refine
    { cancelled := follows.cancelled
      past := by simp [course, unasked]
      results := follows.results
      live := ?_
      launched := fun _ => follows.launched (by simp [stage])
      awaits := ?_ }
  · rw [after]
    intro count early
    rcases Nat.lt_succ_iff_lt_or_eq.1 early with earlier | rfl
    · exact follows.live count (by rw [before]; exact earlier)
    · have inside : finished.length < (task.course session stops).steps.length :=
        (List.getElem?_eq_some_iff.1 found).1
      have unstopped : (task.course session stops).stoppedBefore finished.length = false := by
        simp [Course.stoppedBefore, course, unasked]
      simp [Course.halts, awaits, unstopped, Nat.ne_of_lt inside]
  · unfold Awaits Engine.begunStage
    cases read : step.action? with
    | none =>
      intro other present
      obtain rfl := Option.some.inj (found.symm.trans present)
      simp [Course.failure?, read]
    | some action =>
      intro other present
      obtain rfl := Option.some.inj (found.symm.trans present)
      exact read

/-- The course foresees the outcome of the step that is over. -/
theorem Follows.outcome_eq (follows : task.Follows (task.course session stops) finished cancelled)
    (sound : task.Sound tables finished) {result outcome : StepResult}
    {failure path : Option String} {rest : List Step} (decides : task.Decides result failure rest)
    {now : Int} (made : outcome = Engine.decidedResult cancelled result failure path now) :
    ∃ step, task.steps[finished.length]? = some step ∧
      outcome.outcome = (task.course session stops).outcome finished.length step := by
  have pending := decides.pending?_eq
  obtain ⟨step, found, place⟩ := sound.trail.step_of_pending pending
  have order := sound.order_of_pending pending
  have awaits := follows.awaits
  have reason : failure = (task.course session stops).failure? step := by
    cases decides with
    | bare stage =>
      simp only [Awaits, stage] at awaits
      exact awaits step found
    | pictured stage =>
      simp only [Awaits, stage] at awaits
      exact awaits step found
  have stopped : (task.course session stops).stoppedWithin finished.length = cancelled := by
    rw [follows.cancelled, Bool.eq_iff_iff, Course.stoppedWithin, List.any_eq_true]
    constructor
    · rintro ⟨stop, among, -⟩
      simpa using List.ne_nil_of_mem among
    · intro asked
      obtain ⟨stop, among⟩ := List.exists_mem_of_ne_nil _ (by simpa using asked)
      exact ⟨stop, among, by simpa using (follows.past stop among).2⟩
  have status : Engine.stepStatus cancelled failure.isSome =
      (task.course session stops).status finished.length step := by
    simp only [Engine.stepStatus, Course.status, stopped, ← reason]
    cases failure <;> rfl
  refine ⟨step, found, ?_⟩
  rw [made]
  simp only [Engine.decidedResult, StepResult.outcome, Course.outcome, status, order, ← reason,
    (Prod.mk.inj place).1]

/-- The course foresees where a run goes after a step. -/
theorem Follows.decided (follows : task.Follows (task.course session stops) finished cancelled)
    (sound : task.Sound tables finished) {result outcome : StepResult}
    {failure path : Option String} {rest : List Step} (decides : task.Decides result failure rest)
    {now : Int} (made : outcome = Engine.decidedResult cancelled result failure path now) :
    Follows (Engine.afterStep outcome.status rest task) (task.course session stops)
      (finished ++ [outcome]) cancelled := by
  obtain ⟨step, found, foreseen⟩ := follows.outcome_eq sound decides made
  have before : (task.rows finished).length = finished.length + 1 := by
    simp [rows, decides.pending?_eq]
  have after : (rows (Engine.afterStep outcome.status rest task) (finished ++ [outcome])).length =
      finished.length + 1 := by
    simp [rows, pending?_afterStep]
  have length : (finished ++ [outcome]).length = finished.length + 1 := by simp
  have status : outcome.status = (task.course session stops).status finished.length step :=
    congrArg StepOutcome.status foreseen
  have last : (task.course session stops).endedBy (finished.length + 1) =
      task.options.isEndedBy outcome.status := by
    have same : (task.course session stops).steps[finished.length]? = some step := found
    simp only [Course.endedBy, same, Option.any_some, ← status]
    rfl
  refine
    { cancelled := follows.cancelled
      past := ?_
      results := ?_
      live := ?_
      launched := fun _ => follows.launched ?_
      awaits := ?_ }
  · rw [after, length]
    intro stop among
    obtain ⟨begun, decided⟩ := follows.past stop among
    exact ⟨before ▸ begun, Nat.le_succ_of_le decided⟩
  · rw [length, Course.outcomes_succ found, List.map_append, follows.results, ← foreseen]
    rfl
  · rw [after, ← before]
    exact follows.live
  · cases decides with
    | bare stage => simp [stage]
    | pictured stage => simp [stage]
  · rw [length]
    unfold Awaits Engine.afterStep Engine.stageAfter
    cases decision : outcome.status with
    | cancelled => simp [Course.halts, last, decision, RunOptions.isEndedBy]
    | passed => simp [last, decision, RunOptions.isEndedBy]
    | pending => simp [last, decision, RunOptions.isEndedBy]
    | failed =>
      cases goes : task.options.continueOnFailure with
      | true => simp [last, decision, goes, RunOptions.isEndedBy]
      | false => simp [Course.halts, last, decision, goes, RunOptions.isEndedBy]

/-- The course foresees the end of the run. -/
theorem Follows.ends (follows : task.Follows (task.course session stops) finished cancelled)
    (sound : task.Sound tables finished) {fatal : Option String} {failed : Bool}
    (ends : task.Ends session fatal failed) :
    (task.course session stops).launchFailure? = fatal ∧
      (task.course session stops).results = finished.map StepResult.outcome ∧
      Engine.finalStatus cancelled (fatal.isSome || failed) =
        (task.course session stops).runStatus := by
  have foreseen : (task.course session stops).launchFailure? = fatal ∧
      (task.course session stops).results = finished.map StepResult.outcome ∧
      failed = finished.any fun result => result.status = .failed := by
    cases ends with
    | @unlaunched error stage answer =>
      have launch : (task.course session stops).launchFailure? = some error.message := by
        simp only [Course.launchFailure?, course, answer]
      have none := sound.trail.finished_of_launching stage
      exact ⟨launch, by simp [Course.results, launch, none], by simp [none]⟩
    | closed stage =>
      have rows : task.rows finished = finished := by simp [RunTask.rows, pending?, stage]
      have launch := follows.launched (by simp [stage])
      have halts := follows.awaits
      have live := follows.live
      simp only [Awaits, stage] at halts
      rw [rows] at live
      refine ⟨launch, ?_, sound.trail.failed⟩
      simp [Course.results, launch, Course.reach_eq halts live, follows.results]
  obtain ⟨launch, results, rfl⟩ := foreseen
  refine ⟨launch, results, ?_⟩
  rw [Course.runStatus, launch, results, ← follows.cancelled, List.any_map]
  rfl

end Steps

section Turns

variable {stage : Stage} {step : Step} {rest : List Step}

theorem turnsLeft_passes (passes : task.Passes session cancelled stage) :
    turnsLeft { task with stage } < task.turnsLeft := by
  cases passes <;> simp_all [turnsLeft]

theorem turnsLeft_begun (before : task.stage = .ready (step :: rest)) (result : StepResult) :
    turnsLeft { task with stage := Engine.begunStage result step rest } < task.turnsLeft := by
  simp only [turnsLeft, before, Engine.begunStage, List.length_cons]
  cases step.action? <;> simp only <;> omega

theorem turnsLeft_afterStep {result : StepResult} {failure : Option String}
    (decides : task.Decides result failure rest) (status : StepStatus) :
    (Engine.afterStep status rest task).turnsLeft < task.turnsLeft := by
  have after : (Engine.afterStep status rest task).turnsLeft ≤ 4 * rest.length + 2 := by
    rcases Engine.stageAfter_cases task.options status rest with goes | stops
    · simp only [turnsLeft, Engine.afterStep, goes, le_refl]
    · simp only [turnsLeft, Engine.afterStep, stops]
      omega
  cases decides with
  | bare before =>
    simp only [turnsLeft, before] at after ⊢
    omega
  | pictured before =>
    simp only [turnsLeft, before] at after ⊢
    omega

end Turns

end RunTask

namespace System

/-- A run has ended as its course says, and so the store shows it. -/
structure Concludes (system : System) (number : Nat) (runId : String) (course : Course) : Prop where
  run : ∃ run, (system.engine.task? number).map RunTask.stage = some (.ended run) ∧
    system.engine.store.tables.run? runId = some run ∧ run.status = course.runStatus ∧
    run.error = course.launchFailure? ∧ run.endedAt.isSome = true
  results : (system.engine.store.tables.listResults runId).map StepResult.outcome = course.results
  ended : ∀ result ∈ system.engine.store.tables.listResults runId, result.endedAt.isSome = true

variable {system : System} {sessions : Nat → Session} {turn : Turn}
variable {number : Nat} {task : RunTask} {finished : List StepResult} {stops : List Stop}

/-- A run that follows its course ends as the course says. -/
theorem Running.concludes (running : system.Running number task finished)
    (consistent : system.Consistent)
    (follows : task.Follows (task.course (sessions number) stops) finished
      (system.engine.registry.cancelRequested task.active))
    {fatal : Option String} {failed : Bool} (ends : task.Ends (sessions number) fatal failed)
    (now : Int) :
    (system.change (·.ended number task fatal failed now)).Concludes number task.run.id
      (task.course (sessions number) stops) := by
  obtain ⟨launch, results, status⟩ := follows.ends running.sound ends
  obtain ⟨stored, -, stamped, shown⟩ := running.ended consistent ends now
  have error : (system.engine.endedRun task fatal failed now).error = fatal := by
    simp [Engine.endedRun, Store.moved, running.sound.unfailed]
  exact
    { run := by
        refine ⟨system.engine.endedRun task fatal failed now, ?_, stored, status, ?_, stamped⟩
        · exact congrArg (Option.map RunTask.stage) (running.found_updateTask _)
        · exact error.trans launch.symm
      results := by
        rw [results]
        exact congrArg _ shown
      ended := by
        intro result among
        exact (running.sound.trail.decided result (shown ▸ among)).2 }

section Requests

theorem stopsIn_of_proceed (runId : String) (own : turn.move = .proceed number) :
    system.stopsIn runId turn = [] := by
  simp only [stopsIn, own]

theorem stopsIn_of_unmoved (runId : String) (unmoved : system.Unmoved turn) :
    system.stopsIn runId turn = [] := by
  unfold stopsIn
  split
  · next id asked => simp [unmoved.cancel id asked]
  · rfl

/-- The run in progress has come as far as its task. -/
theorem Running.progress_eq (running : system.Running number task finished) :
    system.engine.progress task.run.id = ⟨(task.rows finished).length, finished.length⟩ := by
  have counted : (task.rows finished).countP (fun result => decide (result.status ≠ .pending)) =
      finished.length := by
    have all : finished.countP (fun result => decide (result.status ≠ .pending)) =
        finished.length := by
      rw [List.countP_eq_length]
      intro result among
      simpa using (running.sound.trail.decided result among).1
    have none : task.pending?.toList.countP (fun result => decide (result.status ≠ .pending)) =
        0 := by
      rw [List.countP_eq_zero]
      intro result among
      simp [(running.sound.trail.pending result (Option.mem_toList.1 among)).1]
    rw [RunTask.rows, List.countP_append, all, none, Nat.add_zero]
  rw [Engine.progress, running.listResults_eq, counted]

/-- The run in progress accepts a request to stop it. -/
theorem Running.stopsIn_of_cancel (running : system.Running number task finished)
    (asked : turn.move = .cancel task.run.id) :
    system.stopsIn task.run.id turn = [⟨(task.rows finished).length, finished.length⟩] := by
  have accepted := Registry.requestCancel_of_held task.run.id running.held
  rw [if_pos running.sound.runId] at accepted
  simp [stopsIn, asked, Engine.cancel, accepted, running.progress_eq]

end Requests

/-- The task of a run in progress has come so far as the course with its requests to stop says. -/
structure OnCourse (system : System) (sessions : Nat → Session) (number : Nat) (task : RunTask)
    (finished : List StepResult) (stops : List Stop) : Prop where
  running : system.Running number task finished
  follows : task.Follows (task.course (sessions number) stops) finished
    (system.engine.registry.cancelRequested task.active)

/--
A turn takes the run in progress along its course, or to the end that the course says.
A turn in which the task proceeds brings the end nearer.
-/
theorem OnCourse.step (onCourse : system.OnCourse sessions number task finished stops)
    (consistent : system.Consistent) (intact : turn.move ≠ .breakDown number) :
    (∃ next rows, (system.step sessions turn).OnCourse sessions number next rows
        (stops ++ system.stopsIn task.run.id turn) ∧
      next.run = task.run ∧ next.steps = task.steps ∧ next.options = task.options ∧
      next.turnsLeft + (if turn.proceeds number then 1 else 0) ≤ task.turnsLeft) ∨
    (system.step sessions turn).Concludes number task.run.id
      (task.course (sessions number) (stops ++ system.stopsIn task.run.id turn)) := by
  obtain ⟨running, follows⟩ := onCourse
  have transition := consistent.transition sessions turn
  generalize system.step sessions turn = later at transition ⊢
  cases transition with
  | aside unmoved beside =>
    have still : turn.proceeds number = false := by
      unfold Turn.proceeds
      split
      · next other own =>
        rw [decide_eq_false_iff_not]
        rintro rfl
        have ceased := unmoved.proceed other task own running.found
        simp [running.busy] at ceased
      · rfl
    have next := running.beside beside
    rw [stopsIn_of_unmoved _ unmoved, List.append_nil]
    obtain ⟨store, installs, artifacts, aside, rfl⟩ := beside
    exact .inl ⟨task, finished, ⟨next, follows⟩, rfl, rfl, rfl, by simp [still]⟩
  | claimed idle call ticket testCaseId owned numbered =>
    exact absurd idle.free (by simp [running.held])
  | dropped call starting settles => exact absurd starting.held (by simp [running.held])
  | started call starting settles => exact absurd starting.held (by simp [running.held])
  | stopped again asked =>
    obtain ⟨rfl, rfl, rfl⟩ := again.unique running
    have still : turn.proceeds number = false := by simp [Turn.proceeds, asked]
    rw [running.stopsIn_of_cancel asked]
    refine .inl ⟨task, finished, ⟨running.stopped _, ?_⟩, rfl, rfl, rfl, by simp [still]⟩
    simp only [change, Registry.cancelRequested, List.contains_cons, BEq.rfl, Bool.true_or]
    exact follows.withStop
  | passed again own passes =>
    obtain ⟨rfl, rfl, rfl⟩ := again.unique running
    have fewer := RunTask.turnsLeft_passes passes
    rw [stopsIn_of_proceed _ own, List.append_nil]
    exact .inl ⟨_, finished, ⟨running.passed passes, follows.passes running.sound passes⟩, rfl, rfl,
      rfl, by split <;> omega⟩
  | @begun _ _ _ again own step _ stage goes =>
    obtain ⟨rfl, rfl, rfl⟩ := again.unique running
    have fewer := RunTask.turnsLeft_begun stage (system.engine.begunResult task step turn.now)
    rw [stopsIn_of_proceed _ own, List.append_nil]
    exact .inl ⟨_, finished, ⟨running.begun stage turn.now,
      follows.begun running.sound.trail stage goes _⟩, rfl, rfl, rfl, by split <;> omega⟩
  | @decided _ _ _ again own _ outcome _ _ _ decides made artifacts store sound minted testCases
      runs results =>
    obtain ⟨rfl, rfl, rfl⟩ := again.unique running
    have fewer := RunTask.turnsLeft_afterStep decides outcome.status
    rw [stopsIn_of_proceed _ own, List.append_nil]
    exact .inl ⟨_, _, ⟨running.decided decides made artifacts testCases runs results,
      follows.decided running.sound decides made⟩, rfl, rfl, rfl, by split <;> omega⟩
  | ended again own ends =>
    obtain ⟨rfl, rfl, rfl⟩ := again.unique running
    rw [stopsIn_of_proceed _ own, List.append_nil]
    exact .inr (running.concludes consistent follows ends turn.now)
  | brokeDown again fault =>
    obtain ⟨rfl, rfl, rfl⟩ := again.unique running
    exact absurd fault intact

/-- A run that gets enough turns ends as its course says. -/
theorem OnCourse.concludes (onCourse : system.OnCourse sessions number task finished stops)
    (consistent : system.Consistent) {later : List Turn}
    (intact : ∀ turn ∈ later, turn.move ≠ .breakDown number)
    (enough : task.turnsLeft ≤ later.countP (Turn.proceeds number)) :
    ∃ soon rest, later = soon ++ rest ∧
      (system.after sessions soon).Concludes number task.run.id
        (task.course (sessions number) (stops ++ system.stops sessions task.run.id soon)) := by
  induction later generalizing system task finished stops with
  | nil =>
    have left := RunTask.turnsLeft_pos onCourse.running.busy
    simp only [List.countP_nil] at enough
    omega
  | cons turn later inductionHypothesis =>
    rcases onCourse.step consistent (intact turn (by simp)) with
      ⟨next, rows, ahead, run, steps, options, fewer⟩ | ends
    · have enough : next.turnsLeft ≤ later.countP (Turn.proceeds number) := by
        rw [List.countP_cons] at enough
        omega
      obtain ⟨soon, rest, split, ends⟩ := inductionHypothesis ahead (consistent.step sessions turn)
        (fun other among => intact other (by simp [among])) enough
      refine ⟨turn :: soon, rest, by rw [split, List.cons_append], ?_⟩
      rw [RunTask.course, run, steps, options, List.append_assoc] at ends
      exact ends
    · refine ⟨[turn], later, rfl, ?_⟩
      rw [System.stops, System.stops, List.append_nil]
      exact ends

section Start

variable {call : StartCall}

/-- A run is on its course when it starts. -/
theorem Starting.onCourse (starting : system.Starting call) (consistent : system.Consistent)
    (sessions : Nat → Session) (now : Int) :
    OnCourse ⟨system.engine.started call now, []⟩ sessions system.engine.tasks.length
      (system.engine.startedTask call now) [] [] where
  running := starting.started consistent.store now
  follows :=
    { cancelled := by
        have fresh : call.reservation.ticket ∉
            (system.engine.started call now).registry.cancelled := starting.sound.fresh
        simpa [RunTask.course, Registry.cancelRequested, Engine.startedTask, Registry.activate]
          using fresh
      past := by simp [RunTask.course]
      results := by simp [Course.outcomes]
      live := by simp [RunTask.rows, RunTask.pending?, Engine.startedTask]
      launched := fun busy => absurd rfl busy
      awaits := trivial }

/-- A start that waits keeps the slot until it is completed or dropped. -/
theorem Starting.after (starting : system.Starting call) (consistent : system.Consistent)
    {history : List Turn} (waits : ∀ turn ∈ history, turn.settles = false) :
    (system.after sessions history).Starting call := by
  induction history generalizing system with
  | nil => exact starting
  | cons turn history inductionHypothesis =>
    refine inductionHypothesis ?_ (consistent.step sessions turn) fun other among =>
      waits other (by simp [among])
    have transition := consistent.transition sessions turn
    have waits := waits turn (by simp)
    generalize system.step sessions turn = later at transition ⊢
    cases transition with
    | aside unmoved beside => exact starting.beside beside
    | claimed idle call ticket testCaseId owned numbered =>
      exact absurd idle.free (by simp [starting.held])
    | dropped call starting settles => simp [settles] at waits
    | started call starting settles => simp [settles] at waits
    | stopped running asked => exact absurd running.held (by simp [starting.held])
    | passed running own passes => exact absurd running.held (by simp [starting.held])
    | begun running own stage goes => exact absurd running.held (by simp [starting.held])
    | decided running own decides made artifacts store sound minted testCases runs results =>
      exact absurd running.held (by simp [starting.held])
    | ended running own ends => exact absurd running.held (by simp [starting.held])
    | brokeDown running fault => exact absurd running.held (by simp [starting.held])

end Start

/--
A run ends as its course says, for every test case, all options, every browser, every order of
turns and every moment of a request to stop.
It needs no more than four turns for each step and three for the browser.
-/
theorem concludes_after_start {store : Store} (sound : store.Sound) {artifacts : Artifacts}
    {policy options : RunOptions} {before between later : List Turn} {first ready begun : System}
    {testCaseId : String} {browser : Browser} {call : StartCall} {engine : Engine}
    {asked granted : Int}
    (reached : first = (opened store artifacts policy).after sessions before)
    (prepared : first.engine.prepare testCaseId browser options = .ok (call, engine))
    (waited : ready = first.after sessions (⟨asked, .begin testCaseId browser options⟩ :: between))
    (waits : ∀ turn ∈ between, turn.settles = false)
    (started : begun = ready.step sessions ⟨granted, .conclude 0 (.ok ())⟩)
    (intact : ∀ turn ∈ later, turn.move ≠ .breakDown ready.engine.tasks.length)
    (enough : 4 * (first.engine.store.tables.listSteps testCaseId).length + 3 ≤
      later.countP (Turn.proceeds ready.engine.tasks.length)) :
    ∃ task soon rest, begun.engine.task? ready.engine.tasks.length = some task ∧
      task.run.testCaseId = testCaseId ∧ later = soon ++ rest ∧
      (begun.after sessions soon).Concludes ready.engine.tasks.length task.run.id
        ⟨first.engine.store.tables.listSteps testCaseId, options,
          sessions ready.engine.tasks.length, begun.stops sessions task.run.id soon⟩ := by
  have consistent : first.Consistent :=
    reached ▸ (Consistent.opened sound _ _).after sessions before
  obtain ⟨-, found, steps, -, -, chosen, -⟩ := Engine.prepare_eq prepared
  obtain ⟨idle, ticket, owner, owned, numbered, same⟩ := consistent.claim prepared
  have claimed :
      (first.step sessions ⟨asked, .begin testCaseId browser options⟩).Starting call := by
    simp only [step, prepared, same]
    exact idle.claimed consistent.tickets ticket owner owned numbered
  have next := consistent.step sessions ⟨asked, .begin testCaseId browser options⟩
  have starting : ready.Starting call := waited ▸ claimed.after next waits
  have settled : ready.Consistent := waited ▸ next.after sessions between
  have named : call.testCase.id = testCaseId := by simpa using List.find?_some found
  have waiting : ready.waiting[0]? = some call := by simp [starting.waiting]
  rw [settled.step_conclude waiting granted] at started
  have onCourse := starting.onCourse settled sessions granted
  rw [← started] at onCourse
  have turns : (ready.engine.startedTask call granted).turnsLeft ≤
      later.countP (Turn.proceeds ready.engine.tasks.length) := by
    rw [← steps] at enough
    exact enough
  obtain ⟨soon, rest, split, ends⟩ := onCourse.concludes
    (started ▸ settled.started starting granted) intact turns
  refine ⟨_, soon, rest, onCourse.running.found, named, split, ?_⟩
  rw [← steps, ← chosen]
  exact ends

/-- The run of the sample ends as its course says. -/
theorem concludes_after_sampleStart :
    ∃ task soon rest, (sample sampleStart).engine.task? 0 = some task ∧
      task.run.testCaseId = Store.idOf 1 ∧ sampleTurns = soon ++ rest ∧
      ((sample sampleStart).after (fun _ => .prompt) soon).Concludes 0 task.run.id
        ⟨(sample sampleCreation).engine.store.tables.listSteps (Store.idOf 1), sampleOptions,
          .prompt, (sample sampleStart).stops (fun _ => .prompt) task.run.id soon⟩ := by
  have accepted : ((sample sampleCreation).engine.prepare (Store.idOf 1) .chromium
      sampleOptions).toBool = true := by decide +kernel
  have fresh : (sample sampleClaim).engine.tasks.length = 0 := by decide +kernel
  have short :
      ((sample sampleCreation).engine.store.tables.listSteps (Store.idOf 1)).length = 1 := by
    decide +kernel
  cases prepared : (sample sampleCreation).engine.prepare (Store.idOf 1) .chromium
      sampleOptions with
  | error fault => simp [prepared, Except.toBool] at accepted
  | ok claim =>
    have waited : sample sampleClaim = (sample sampleCreation).after (fun _ => .prompt)
        [⟨1, .begin (Store.idOf 1) .chromium sampleOptions⟩] := rfl
    have started : sample sampleStart =
        (sample sampleClaim).step (fun _ => .prompt) ⟨2, .conclude 0 (.ok ())⟩ := rfl
    have intact : ∀ turn ∈ sampleTurns,
        turn.move ≠ .breakDown (sample sampleClaim).engine.tasks.length := by
      simp [sampleTurns]
    have enough : 4 * ((sample sampleCreation).engine.store.tables.listSteps
        (Store.idOf 1)).length + 3 ≤
          sampleTurns.countP (Turn.proceeds (sample sampleClaim).engine.tasks.length) := by
      rw [fresh, short]
      decide
    have concludes :=
      concludes_after_start .empty rfl prepared waited (by simp) started intact enough
    rw [fresh] at concludes
    exact concludes

end System

end StepRunner
