import Mathlib.Data.List.Perm.Basic
import StepRunner.Proofs.Engine.Frames
import StepRunner.Proofs.Guards

/-!
This file lets a system meet trouble: the disk refuses writes, and others change the store past
the engine.
The slot serves the one start or run that is alive all the same, and the tables stay sound.
-/

namespace StepRunner

open Rehearsal (Guard)

/-- What may happen to a system. -/
inductive Incident where
  | turn (turn : Turn)
  /-- Somebody changes the store past the engine. -/
  | store (operation : Store.Operation)
  /-- The disk will refuse some of the coming writes. -/
  | disk (refusals : List Bool)

/-- A start that waits is completed or dropped. -/
def Incident.settles : Incident → Bool
  | .turn taken => taken.settles
  | .store _ | .disk _ => false

theorem perm_cons_eraseIdx {Entry : Type} {entries : List Entry} {index : Nat} {entry : Entry}
    (found : entries[index]? = some entry) :
    entries.Perm (entry :: entries.eraseIdx index) := by
  obtain ⟨inside, rfl⟩ := List.getElem?_eq_some_iff.1 found
  exact (List.getElem_cons_eraseIdx_perm inside).symm

namespace RunTask

/-- The guards of the tasks that are not over. -/
def guards (tasks : List RunTask) : List Guard :=
  (tasks.filter fun task => !task.isOver).map fun task => .active task.active

theorem guards_append (first second : List RunTask) :
    guards (first ++ second) = guards first ++ guards second := by
  simp [guards]

theorem guards_perm {tasks others : List RunTask} (same : tasks.Perm others) :
    (guards tasks).Perm (guards others) :=
  (same.filter _).map _

theorem guards_cons (task : RunTask) (tasks : List RunTask) :
    guards (task :: tasks) =
      if task.isOver then guards tasks else .active task.active :: guards tasks := by
  cases ended : task.isOver <;> simp [guards, ended]

end RunTask

namespace System

variable {sessions : Nat → Session} {system : System}

/-- The guards that are alive: those of the starts that wait, and those of the tasks. -/
def guards (system : System) : List Guard :=
  system.waiting.map (fun call => .reserved call.reservation) ++
    RunTask.guards system.engine.tasks

/-- The system after an incident. -/
def meet (sessions : Nat → Session) (system : System) : Incident → System
  | .turn turn => system.step sessions turn
  | .store operation =>
    system.change fun engine => { engine with store := engine.store.perform operation }
  | .disk refusals => system.change fun engine => { engine with refusals }

/-- The system after a sequence of incidents. -/
def through (sessions : Nat → Session) (system : System) (incidents : List Incident) : System :=
  incidents.foldl (meet sessions) system

/-- What holds of a system whatever it meets. -/
structure Orderly (system : System) : Prop where
  tables : system.engine.store.tables.Sound
  serves : system.engine.registry.Serves system.guards

theorem Orderly.opened {store : Store} (sound : store.tables.Sound) (artifacts : Artifacts)
    (options : RunOptions) : (opened store artifacts options).Orderly where
  tables := sound
  serves := .nobody rfl

namespace Orderly

theorem rests (orderly : system.Orderly) {engine : Engine} (rests : system.engine.Rests engine) :
    (system.change fun _ => engine).Orderly where
  tables := rests.sound orderly.tables
  serves := by
    have serves := orderly.serves
    simp only [guards, change] at serves ⊢
    rw [rests.registry, rests.tasks]
    exact serves

theorem advances (orderly : system.Orderly) {engine : Engine} {number : Nat} {task : RunTask}
    (found : system.engine.task? number = some task) (busy : task.isOver = false)
    (advances : system.engine.Advances number task engine) :
    (system.change fun _ => engine).Orderly where
  tables := advances.sound orderly.tables
  serves := by
    obtain ⟨change, tasks, active, registry⟩ := advances.moved
    -- Serves does not depend on an order of the guards, so the guard of the task may come first.
    let others := RunTask.guards (system.engine.tasks.eraseIdx number)
    have before : (RunTask.guards system.engine.tasks).Perm (.active task.active :: others) := by
      have split := RunTask.guards_perm (perm_cons_eraseIdx found)
      rwa [RunTask.guards_cons, busy] at split
    have changed : (system.engine.tasks.modify number change)[number]? = some (change task) := by
      rw [List.getElem?_modify_eq, show system.engine.tasks[number]? = some task from found]
      rfl
    have after := RunTask.guards_perm (perm_cons_eraseIdx changed)
    rw [List.eraseIdx_modify_of_eq, RunTask.guards_cons, active] at after
    refine orderly.serves.shift ?_
    simp only [guards, System.change, tasks, registry]
    cases ended : (change task).isOver with
    | true =>
      rw [ended] at after
      refine .finished ?_
      exact ((before.trans (after.symm.cons _)).append_left _).trans List.perm_middle
    | false =>
      rw [ended] at after
      exact .aside rfl ((after.trans before.symm).append_left _)

/-- A change of the registry that keeps the slot and concerns no task or start. -/
theorem slot_kept (orderly : system.Orderly) {registry : Registry}
    (kept : registry.slot = system.engine.registry.slot) :
    (system.change fun engine => { engine with registry }).Orderly where
  tables := orderly.tables
  serves := orderly.serves.shift (.aside kept (.refl _))

section Starts

variable {index : Nat} {call : StartCall}

/-- A start that waits has a guard, and the others have theirs. -/
theorem guards_perm (waits : system.waiting[index]? = some call) :
    system.guards.Perm
      (.reserved call.reservation :: guards ⟨system.engine, system.waiting.eraseIdx index⟩) :=
  ((perm_cons_eraseIdx waits).map _).append_right _

/-- A start that is given up without a run gives up the slot. -/
theorem released (orderly : system.Orderly) (waits : system.waiting[index]? = some call)
    {engine : Engine} (rests : system.engine.Rests engine) :
    Orderly ⟨engine.abandon call, system.waiting.eraseIdx index⟩ where
  tables := rests.sound orderly.tables
  serves := by
    refine orderly.serves.shift ?_
    simp only [Engine.abandon, rests.registry]
    have mine := guards_perm waits
    simp only [guards] at mine ⊢
    rw [rests.tasks]
    exact .released mine

/-- A start that has stored its run hands the slot over to the task of the run. -/
theorem spawned (orderly : system.Orderly) (waits : system.waiting[index]? = some call)
    {engine : Engine} (rests : system.engine.Rests engine) (run : Run) :
    Orderly ⟨(engine.spawn call run).2, system.waiting.eraseIdx index⟩ where
  tables := rests.sound orderly.tables
  serves := by
    refine orderly.serves.shift ?_
    have mine := guards_perm waits
    simp only [Engine.spawn, Engine.emit, rests.registry]
    refine .activated run.id mine ?_
    simp only [guards, RunTask.guards_append, rests.tasks, ← List.append_assoc]
    exact List.perm_append_singleton _ _

theorem concluded (orderly : system.Orderly) (waits : system.waiting[index]? = some call)
    (installed : Except String Unit) (now : Int) :
    Orderly ⟨(system.engine.conclude call installed now).2, system.waiting.eraseIdx index⟩ := by
  have rests := Engine.Rests.storeRun system.engine call now
  unfold Engine.conclude
  split
  · exact orderly.released waits .refl
  · split
    · next outcome => exact orderly.released waits (rests.of_eq outcome)
    · next outcome => exact orderly.spawned waits (rests.of_eq outcome) _

/-- A start that is let in claims the slot. -/
theorem begun (orderly : system.Orderly) {testCaseId : String} {browser : Browser}
    {options : RunOptions} {call : StartCall} {engine : Engine}
    (prepared : system.engine.prepare testCaseId browser options = .ok (call, engine)) :
    Orderly ⟨engine, system.waiting ++ [call]⟩ := by
  obtain ⟨-, -, -, -, -, -, registry, reserved, rfl⟩ := Engine.prepare_eq prepared
  refine ⟨orderly.tables, orderly.serves.shift (.reserved reserved ?_)⟩
  simp only [guards, List.map_append, List.append_assoc]
  exact List.perm_middle

end Starts

/-- Every turn leaves the slot to the one start or run that is alive. -/
theorem step (orderly : system.Orderly) (sessions : Nat → Session) (turn : Turn) :
    (system.step sessions turn).Orderly := by
  obtain ⟨now, move⟩ := turn
  cases move with
  | begin testCaseId browser options =>
    simp only [System.step]
    cases prepared : system.engine.prepare testCaseId browser options with
    | error error => exact orderly
    | ok result => exact orderly.begun prepared
  | conclude index installed =>
    simp only [System.step]
    split
    · next call waits => exact orderly.concluded waits installed now
    · exact orderly
  | abandon index =>
    simp only [System.step]
    split
    · next call waits => exact orderly.released waits .refl
    · exact orderly
  | proceed number =>
    cases found : system.engine.task? number with
    | none => simpa [System.step, change, Engine.proceed, found] using orderly
    | some task =>
      cases busy : task.isOver with
      | false =>
        exact orderly.advances found busy
          (.proceed system.engine found busy (sessions number) now)
      | true =>
        have idle : system.engine.proceed (sessions number) number now = system.engine := by
          unfold RunTask.isOver at busy
          simp only [Engine.proceed, found]
          split at busy <;> simp_all
        simpa [System.step, change, idle] using orderly
  | breakDown number =>
    simp only [System.step, change, Engine.brokeDown]
    cases found : system.engine.task? number with
    | none => exact orderly
    | some task =>
      simp only
      cases busy : task.isOver with
      | true => exact orderly
      | false =>
        refine orderly.advances found busy ⟨⟨fun task => { task with stage := .panicked }, ?_⟩, id⟩
        exact ⟨rfl, rfl, rfl⟩
  | cancel runId => exact orderly.slot_kept (system.engine.registry.requestCancel_slot runId)
  | createProject name => exact orderly.rests (.createProject system.engine now name)
  | createTestCase projectId title lines =>
    exact orderly.rests (.createTestCase system.engine now projectId title lines)
  | updateSteps testCaseId lines =>
    exact orderly.rests (.updateSteps system.engine now testCaseId lines)
  | deleteProject id => exact orderly.rests (.delete (.deleteProject id) rfl _ _ _)
  | deleteTestCase id => exact orderly.rests (.delete (.deleteTestCase id) rfl _ _ _)
  | read path variant => exact orderly.rests ⟨rfl, rfl, id⟩
  | install change => exact orderly.rests ⟨rfl, rfl, id⟩

theorem meet (orderly : system.Orderly) (sessions : Nat → Session) (incident : Incident) :
    (system.meet sessions incident).Orderly := by
  cases incident with
  | turn turn => exact orderly.step sessions turn
  | store operation =>
    exact orderly.rests ⟨rfl, rfl, fun sound => Store.tables_perform sound operation⟩
  | disk refusals => exact orderly.rests ⟨rfl, rfl, id⟩

theorem through (orderly : system.Orderly) (sessions : Nat → Session)
    (incidents : List Incident) : (system.through sessions incidents).Orderly := by
  induction incidents generalizing system with
  | nil => exact orderly
  | cons incident incidents inductionHypothesis =>
    exact inductionHypothesis (orderly.meet sessions incident)

end Orderly

end System

end StepRunner
