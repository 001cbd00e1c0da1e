import StepRunner.Proofs.Engine.Coherence
import StepRunner.Proofs.Store.Recovery

/-!
This file lets processes serve one store, one after the other.
A process may die between any two writes, and a recovery may be cut off between its two halves.
-/

namespace StepRunner

/-- What may happen to a store and to the process that serves it. -/
inductive Occurrence where
  | turn (sessions : Nat → Session) (turn : Turn)
  /-- The disk will refuse some of the coming writes. -/
  | disk (refusals : List Bool)
  /-- The process dies between two turns, and another one opens the store. -/
  | restart (artifacts : Artifacts) (options : RunOptions)
  /-- The process dies within a turn, after some of its writes, and another one opens the store. -/
  | crash (sessions : Nat → Session) (turn : Turn) (writes : Nat) (artifacts : Artifacts)
      (options : RunOptions)
  | recovery (now : Int)
  /-- A recovery is cut off after its first half. -/
  | halfRecovery (now : Int)

/-- A recovery cut off after its first half keeps an engine coherent. -/
theorem Coherent.recoverResults {store : Store} {tasks : List RunTask}
    (coherent : Coherent store tasks) (now : Int) :
    Coherent (store.recoverResults now) tasks where
  faithful := coherent.faithful.recoverResults now
  apart := coherent.apart
  tracks task present := by
    have tracks := coherent.tracks task present
    refine ⟨tracks.numbered, tracks.minted, fun stored rest left => ?_⟩
    have orders : ((store.recoverResults now).tables.resultsOf task.run.id).map StepResult.order =
        (store.tables.resultsOf task.run.id).map StepResult.order :=
      Store.Operation.orders_map (Store.results_recoverResults store now)
        (fun result => (Store.settles_settled now result).runId)
        fun result => (Store.settles_settled now result).order
    have lengths := congrArg List.length orders
    rw [List.length_map, List.length_map] at lengths
    rw [lengths]
    exact tracks.rest stored rest left

namespace System

variable {system : System}

/-- The disk lets a number of writes through and then refuses the others of a turn. -/
def refuseAfter (system : System) (writes : Nat) : System :=
  -- No turn makes more than three writes.
  system.change fun engine =>
    { engine with refusals := List.replicate writes false ++ List.replicate 3 true }

/--
The system after an occurrence.
The writes that a process does not live to make are like writes that the disk refuses.
-/
def occur (system : System) : Occurrence → System
  | .turn sessions turn => system.step sessions turn
  | .disk refusals => system.change fun engine => { engine with refusals }
  | .restart artifacts options => opened system.engine.store artifacts options
  | .crash sessions turn writes artifacts options =>
    opened ((system.refuseAfter writes).step sessions turn).engine.store artifacts options
  | .recovery now =>
    system.change fun engine => { engine with store := (engine.store.recover now).2 }
  | .halfRecovery now =>
    system.change fun engine => { engine with store := engine.store.recoverResults now }

/-- The system after all that happened in some lifetimes. -/
def lived (system : System) (history : List Occurrence) : System :=
  history.foldl occur system

/-- The engine is coherent, and the starts that wait have read numbered steps. -/
structure Tracked (system : System) : Prop where
  coherent : Coherent system.engine.store system.engine.tasks
  numbered : ∀ call ∈ system.waiting, call.steps.map Step.order = List.range' 1 call.steps.length

namespace Tracked

theorem opened {store : Store} (faithful : store.Faithful) (artifacts : Artifacts)
    (options : RunOptions) : (opened store artifacts options).Tracked where
  coherent := ⟨faithful, .nil, by simp [System.opened]⟩
  numbered := by simp [System.opened]

theorem change (tracked : system.Tracked) {engine : Engine}
    (coherent : Coherent engine.store engine.tasks) : (system.change fun _ => engine).Tracked where
  coherent := coherent
  numbered := tracked.numbered

/-- A change of the store that leaves the tasks alone. -/
theorem rests (tracked : system.Tracked) {engine : Engine} (rests : system.engine.Rests engine)
    (coherent : Coherent engine.store system.engine.tasks) :
    (system.change fun _ => engine).Tracked :=
  tracked.change (rests.tasks ▸ coherent)

/-- A start that is let in has read the steps as the store numbers them. -/
theorem begun (tracked : system.Tracked) {testCaseId : String} {browser : Browser}
    {options : RunOptions} {call : StartCall} {engine : Engine}
    (prepared : system.engine.prepare testCaseId browser options = .ok (call, engine)) :
    Tracked ⟨engine, system.waiting ++ [call]⟩ := by
  obtain ⟨-, -, steps, -, -, -, registry, -, rfl⟩ := Engine.prepare_eq prepared
  refine ⟨tracked.coherent, fun other waits => ?_⟩
  rcases List.mem_append.1 waits with old | added
  · exact tracked.numbered other old
  · rw [List.mem_singleton.1 added, steps]
    exact tracked.coherent.faithful.sound.numbered testCaseId

/-- Every turn keeps the system tracked, whatever the disk refuses. -/
theorem step (tracked : system.Tracked) (sessions : Nat → Session) (turn : Turn) :
    (system.step sessions turn).Tracked := by
  have coherent := tracked.coherent
  have others {index : Nat} : ∀ call ∈ system.waiting.eraseIdx index,
      call.steps.map Step.order = List.range' 1 call.steps.length :=
    fun call waits => tracked.numbered call (List.mem_of_mem_eraseIdx waits)
  obtain ⟨now, move⟩ := turn
  cases move with
  | begin testCaseId browser options =>
    simp only [System.step]
    cases prepared : system.engine.prepare testCaseId browser options with
    | error error => exact tracked
    | ok result => exact tracked.begun prepared
  | conclude index installed =>
    simp only [System.step]
    split
    · next call waits =>
      have numbered := tracked.numbered call (List.mem_of_getElem? waits)
      exact ⟨coherent.conclude numbered installed, others⟩
    · exact tracked
  | abandon index =>
    simp only [System.step]
    split
    · exact ⟨coherent, others⟩
    · exact tracked
  | proceed number => exact tracked.change (coherent.proceed (sessions number) number now)
  | breakDown number => exact tracked.change (coherent.brokeDown number)
  | cancel runId => exact tracked.change coherent
  | createProject name =>
    exact tracked.rests (.createProject system.engine now name)
      (coherent.write (.createProject now name) rfl trivial fun _ _ => trivial)
  | createTestCase projectId title lines =>
    exact tracked.rests (.createTestCase system.engine now projectId title lines)
      (coherent.createTestCase now projectId title lines)
  | updateSteps testCaseId lines =>
    exact tracked.rests (.updateSteps system.engine now testCaseId lines)
      (coherent.updateSteps now testCaseId lines)
  | deleteProject id =>
    exact tracked.rests (.delete (.deleteProject id) rfl _ _ _)
      (coherent.delete (.deleteProject id) rfl trivial (fun _ _ => trivial) _ _ _)
  | deleteTestCase id =>
    exact tracked.rests (.delete (.deleteTestCase id) rfl _ _ _)
      (coherent.delete (.deleteTestCase id) rfl trivial (fun _ _ => trivial) _ _ _)
  | read path variant => exact tracked.change coherent
  | install change => exact tracked.change coherent

theorem occur (tracked : system.Tracked) (occurrence : Occurrence) :
    (system.occur occurrence).Tracked := by
  cases occurrence with
  | turn sessions turn => exact tracked.step sessions turn
  | disk refusals => exact tracked.change tracked.coherent
  | restart artifacts options => exact .opened tracked.coherent.faithful artifacts options
  | crash sessions turn writes artifacts options =>
    have dying : (system.refuseAfter writes).Tracked := tracked.change tracked.coherent
    exact .opened (dying.step sessions turn).coherent.faithful artifacts options
  | recovery now =>
    exact tracked.change (tracked.coherent.perform (.recover now) trivial fun _ _ => trivial)
  | halfRecovery now => exact tracked.change (tracked.coherent.recoverResults now)

theorem lived (tracked : system.Tracked) (history : List Occurrence) :
    (system.lived history).Tracked := by
  induction history generalizing system with
  | nil => exact tracked
  | cons occurrence history inductionHypothesis =>
    exact inductionHypothesis (tracked.occur occurrence)

end Tracked

/-- A recovery settles the store whenever and however often the processes on it have died. -/
theorem recovered_lived (artifacts : Artifacts) (options : RunOptions)
    (history : List Occurrence) (halves : List Int) (now : Int) :
    let store := ((opened {} artifacts options).lived history).engine.store
    let halved := halves.foldl Store.recoverResults store
    Store.Recovered store (halved.recover now).1 (halved.recover now).2 := by
  have tracked := (Tracked.opened Store.faithful_empty artifacts options).lived history
  exact tracked.coherent.faithful.recovered halves now

-- A process dies after it has inserted a run, and another one after it has inserted a result.
example :
    let crash (turn : Turn) := Occurrence.crash (fun _ => .prompt) turn 1 default sampleOptions
    let after (turns : List Turn) (last : Turn) : Store :=
      ((opened {} default sampleOptions).lived
        (turns.map (.turn fun _ => .prompt) ++ [crash last])).engine.store
    let first := after sampleClaim ⟨2, .conclude 0 (.ok ())⟩
    let second := after (sampleStart ++ [⟨3, .proceed 0⟩]) ⟨3, .proceed 0⟩
    first.tables.runs.map Run.status = [.queued] ∧
      second.tables.runs.map Run.status = [.running] ∧
      second.tables.results.map StepResult.status = [.pending] ∧
      (first.recover 5).1 = 1 ∧ (second.recover 5).1 = 1 := by
  decide +kernel

end System

end StepRunner
