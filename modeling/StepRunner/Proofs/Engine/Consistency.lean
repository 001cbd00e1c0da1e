import StepRunner.Proofs.Engine.Pieces
import StepRunner.Proofs.Engine.System
import StepRunner.Proofs.Registry

/-!
This file says what holds of the system between two turns.
The slot is empty, or one start that waits holds it, or one run in progress holds it.
-/

namespace StepRunner

/-- The id of a step and its number in the test case. -/
def Step.place (step : Step) : String × Nat := (step.id, step.order)

/-- The id and the number of the step that a result belongs to. -/
def StepResult.place (result : StepResult) : String × Nat := (result.stepId, result.order)

namespace RunTask

/-- The result of the step that a task is busy with. -/
def pending? (task : RunTask) : Option StepResult :=
  match task.stage with
  | .acting result _ _ | .photographing result _ _ | .storing result _ _ _ => some result
  | _ => none

/-- The steps that a task has not begun, while it may still begin them. -/
def rest? (task : RunTask) : Option (List Step) :=
  match task.stage with
  | .launching => some task.steps
  | .ready rest | .acting _ _ rest | .photographing _ _ rest | .storing _ _ _ rest => some rest
  | _ => none

/-- The step results of a task: those of the steps that are over, and the pending one. -/
def rows (task : RunTask) (finished : List StepResult) : List StepResult :=
  finished ++ task.pending?.toList

/-- The results of the steps that are over tell how far a task has come. -/
structure Trail (task : RunTask) (finished : List StepResult) : Prop where
  decided : ∀ row ∈ finished, row.status ≠ .pending ∧ row.endedAt.isSome = true
  pending : ∀ result ∈ task.pending?, result.status = .pending ∧ result.runId = task.run.id
  places : (task.rows finished).map StepResult.place =
    (task.steps.take (task.rows finished).length).map Step.place
  rest : ∀ rest ∈ task.rest?, rest = task.steps.drop (task.rows finished).length
  failed : task.anyFailed = finished.any fun row => row.status = .failed
  faultless : ∀ fault, task.stage ≠ .closing (some fault)

/-- The run of a task is stored as running, with its step results, below the rows it needs. -/
structure Sound (task : RunTask) (tables : Tables) (finished : List StepResult) : Prop where
  runId : task.active.context.runId = task.run.id
  testCaseId : task.active.context.testCaseId = task.run.testCaseId
  owned : tables.Owns task.active.context.projectId task.run.testCaseId
  stored : task.run ∈ tables.runs
  running : task.run.status = .running
  unended : task.run.endedAt = none
  unfailed : task.run.error = none
  numbered : task.steps.map Step.order = List.range' 1 task.steps.length
  trail : task.Trail finished
  results : tables.resultsOf task.run.id = task.rows finished

variable {task : RunTask} {tables : Tables} {finished : List StepResult}

/-- A pending result is that of the step that the task is busy with. -/
theorem Trail.pending_iff (trail : task.Trail finished) :
    (∃ result ∈ task.rows finished, result.status = .pending) ↔ task.pending?.isSome = true := by
  constructor
  · rintro ⟨result, among, pending⟩
    rcases List.mem_append.1 among with old | last
    · exact absurd pending (trail.decided result old).1
    · simp [Option.mem_toList.1 last]
  · intro busy
    obtain ⟨result, pending⟩ := Option.isSome_iff_exists.1 busy
    exact ⟨result, by simp [rows, pending], (trail.pending result pending).1⟩

/-- The step results of a run are numbered from one. -/
theorem Sound.orders (sound : task.Sound tables finished) :
    (task.rows finished).map StepResult.order = List.range' 1 (task.rows finished).length := by
  have places := sound.trail.places
  have short : (task.rows finished).length ≤ task.steps.length := by
    have lengths := congrArg List.length places
    simp only [List.length_map, List.length_take] at lengths
    omega
  have orders := congrArg (List.map Prod.snd) places
  simp only [List.map_map] at orders
  calc (task.rows finished).map StepResult.order
      = (task.steps.take (task.rows finished).length).map Step.order := orders
    _ = (task.steps.map Step.order).take (task.rows finished).length := List.map_take
    _ = List.range' 1 (task.rows finished).length := by
      rw [sound.numbered, List.take_range'_of_length_ge short]

/-- The pending result of a run has the number after those of the steps that are over. -/
theorem Sound.order_of_pending (sound : task.Sound tables finished) {result : StepResult}
    (pending : task.pending? = some result) : result.order = finished.length + 1 := by
  have orders := congrArg (·[finished.length]?) sound.orders
  simpa [rows, pending, Nat.add_comm] using orders

end RunTask

/-- A start holds a new ticket for a test case that exists. -/
structure StartCall.Sound (call : StartCall) (registry : Registry) (tables : Tables) : Prop where
  testCaseId : call.reservation.testCaseId = call.testCase.id
  owned : tables.Owns call.reservation.projectId call.testCase.id
  numbered : call.steps.map Step.order = List.range' 1 call.steps.length
  fresh : call.reservation.ticket ∉ registry.cancelled

/-- The ids of the runs of all tasks. -/
def Engine.runIds (engine : Engine) : List String := (engine.tasks.map RunTask.run).map Run.id

namespace System

/-- Nobody holds the slot. -/
structure Idle (system : System) : Prop where
  free : system.engine.registry.slot = .empty
  waiting : system.waiting = []
  ceased : ∀ other found, system.engine.task? other = some found → found.isOver = true

/-- A start holds the slot. -/
structure Starting (system : System) (call : StartCall) : Prop where
  held : system.engine.registry.slot = .reserved call.reservation.ticket
    call.reservation.projectId call.reservation.testCaseId
  waiting : system.waiting = [call]
  ceased : ∀ other found, system.engine.task? other = some found → found.isOver = true
  sound : call.Sound system.engine.registry system.engine.store.tables

/-- The run of a task holds the slot. -/
structure Running (system : System) (number : Nat) (task : RunTask) (finished : List StepResult) :
    Prop where
  held : system.engine.registry.slot = .active task.active.ticket task.active.context
  waiting : system.waiting = []
  found : system.engine.task? number = some task
  busy : task.isOver = false
  ceased : ∀ other found, system.engine.task? other = some found → other ≠ number →
    found.isOver = true
  sound : task.Sound system.engine.store.tables finished

/-- Who holds the slot. -/
inductive Phase (system : System) : Prop where
  | idle (idle : system.Idle)
  | starting (call : StartCall) (starting : system.Starting call)
  | running (number : Nat) (task : RunTask) (finished : List StepResult)
      (running : system.Running number task finished)

/-- The store is sound, no two tasks have one run, and at most one of all holds the slot. -/
structure Consistent (system : System) : Prop where
  reliable : system.engine.refusals = []
  store : system.engine.store.Sound
  tickets : system.engine.registry.Ordered
  distinct : system.engine.runIds.Nodup
  minted : ∀ id ∈ system.engine.runIds, ∃ number < system.engine.store.minted,
    id = Store.idOf number
  phase : system.Phase

variable {system : System}

/-- A new engine on a sound store is consistent. -/
theorem Consistent.opened {store : Store} (sound : store.Sound) (artifacts : Artifacts)
    (options : RunOptions) : (opened store artifacts options).Consistent where
  reliable := rfl
  store := sound
  tickets := ⟨by simp [System.opened, Slot.ticket?], by simp [System.opened]⟩
  distinct := .nil
  minted := by simp [System.opened, Engine.runIds]
  phase := .idle ⟨rfl, rfl, by simp [System.opened, Engine.task?]⟩

/-- A task that is not over holds the slot. -/
theorem Consistent.running_of_busy (consistent : system.Consistent) {number : Nat} {task : RunTask}
    (found : system.engine.task? number = some task) (busy : task.isOver = false) :
    ∃ finished, system.Running number task finished := by
  rcases consistent.phase with idle | ⟨call, starting⟩ | ⟨holder, other, finished, running⟩
  · exact absurd (idle.ceased number task found) (by simp [busy])
  · exact absurd (starting.ceased number task found) (by simp [busy])
  · by_cases same : number = holder
    · subst same
      obtain rfl := Option.some.inj (found.symm.trans running.found)
      exact ⟨finished, running⟩
    · exact absurd (running.ceased number task found same) (by simp [busy])

/-- Only one task holds the slot. -/
theorem Running.unique {number other : Nat} {task rival : RunTask}
    {finished ended : List StepResult} (running : system.Running number task finished)
    (again : system.Running other rival ended) :
    other = number ∧ rival = task ∧ ended = finished := by
  have same : other = number := by
    by_contra different
    exact absurd (running.ceased other rival again.found different) (by simp [again.busy])
  subst same
  obtain rfl := Option.some.inj (again.found.symm.trans running.found)
  refine ⟨rfl, rfl, ?_⟩
  have rows := again.sound.results.symm.trans running.sound.results
  exact List.append_cancel_right rows

end System

end StepRunner
