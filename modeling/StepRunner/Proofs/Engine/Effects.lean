import StepRunner.Proofs.Engine.Verdicts

/-!
This file says once what an incident may do to a system, and derives what it does to the slot, to
the tasks and to the states of runs.
-/

namespace StepRunner

open Rehearsal (Guard)

namespace Registry

/-- What the calls other than a request to stop make of the registry. -/
inductive Goes (registry : Registry) : Registry → Prop where
  | kept : Goes registry registry
  | reserved {reservation : Reservation} {after : Registry} {projectId testCaseId : String}
      (claimed : registry.reserve projectId testCaseId = .ok (reservation, after)) :
      Goes registry after
  | activated {reservation : Reservation} (runId : String)
      (held : registry.slot = (Guard.reserved reservation).slot) :
      Goes registry (registry.activate reservation runId).2
  | released (reservation : Reservation) : Goes registry (registry.release reservation)
  | finished (active : ActiveRun) : Goes registry (registry.finish active)

/-- The tickets are in order, and no start holds the ticket of a run that was asked to stop. -/
structure Fresh (registry : Registry) : Prop where
  ordered : registry.Ordered
  unasked : ∀ ticket projectId testCaseId, registry.slot = .reserved ticket projectId testCaseId →
    ticket ∉ registry.cancelled

variable {registry after : Registry}

theorem release_cases (registry : Registry) (reservation : Reservation) :
    registry.release reservation = registry ∨ registry.release reservation = registry.freed := by
  unfold release
  split
  · split
    · exact .inr rfl
    · exact .inl rfl
  · exact .inl rfl

theorem finish_cases (registry : Registry) (active : ActiveRun) :
    registry.finish active = registry ∨ registry.finish active = registry.freed := by
  unfold finish
  split
  · split
    · exact .inr rfl
    · exact .inl rfl
  · exact .inl rfl

/-- Only a request to stop changes who was asked to stop. -/
theorem Goes.cancelled (goes : registry.Goes after) : after.cancelled = registry.cancelled := by
  cases goes with
  | kept => rfl
  | reserved claimed =>
    obtain ⟨-, -, rfl⟩ := reserve_eq_ok_iff.1 claimed
    rfl
  | activated => rfl
  | released reservation =>
    rcases registry.release_cases reservation with same | same
    · rw [same]
    · rw [same]
      rfl
  | finished active =>
    rcases registry.finish_cases active with same | same
    · rw [same]
    · rw [same]
      rfl

namespace Fresh

theorem freed (fresh : registry.Fresh) : registry.freed.Fresh where
  ordered := fresh.ordered.freed
  unasked := nofun

theorem goes (fresh : registry.Fresh) (goes : registry.Goes after) : after.Fresh := by
  cases goes with
  | kept => exact fresh
  | reserved claimed =>
    obtain ⟨-, -, rfl⟩ := reserve_eq_ok_iff.1 claimed
    refine ⟨fresh.ordered.reserved _ _, ?_⟩
    rintro ticket projectId testCaseId ⟨⟩ asked
    exact Nat.lt_irrefl _ (fresh.ordered.cancelled _ asked)
  | @activated reservation runId held =>
    have holder : registry.slot.ticket? = some reservation.ticket := by
      rw [held]
      rfl
    exact ⟨fresh.ordered.activated holder _, nofun⟩
  | released reservation =>
    rcases registry.release_cases reservation with same | same
    · rwa [same]
    · rw [same]
      exact fresh.freed
  | finished active =>
    rcases registry.finish_cases active with same | same
    · rwa [same]
    · rw [same]
      exact fresh.freed

/-- A request to stop concerns the run in progress, and no start. -/
theorem requestCancel (fresh : registry.Fresh) (runId : String) :
    (registry.requestCancel runId).2.Fresh := by
  cases slot : registry.slot with
  | empty =>
    rw [requestCancel_of_inactive runId (by simp [slot])]
    exact fresh
  | reserved ticket projectId testCaseId =>
    rw [requestCancel_of_inactive runId (by simp [slot])]
    exact fresh
  | active ticket context =>
    rw [requestCancel_of_held runId slot]
    split
    · refine ⟨fresh.ordered.stopped (by rw [slot]; rfl), ?_⟩
      intro other projectId testCaseId held
      cases slot.symm.trans held
    · exact fresh

end Fresh

end Registry

/-- Others than the engine end runs only as failed. -/
def Incident.IsPlain : Incident → Prop
  | .store operation => operation.IsPlain
  | .turn _ | .disk _ => True

namespace System

variable {sessions : Nat → Session} {system later : System} {number : Nat} {task : RunTask}
  {incident : Incident}

/-- What an incident makes of a system. -/
inductive Effect (sessions : Nat → Session) (system : System) : Incident → System → Prop where
  /-- The slot and the tasks stay as they are. -/
  | rests {incident : Incident} {engine : Engine} (rests : system.engine.Rests engine)
      (follows : incident.IsPlain → system.engine.Follows engine)
      (deaf : ∀ now runId, incident ≠ .turn ⟨now, .cancel runId⟩) :
      Effect sessions system incident ⟨engine, system.waiting⟩
  | claimed {now : Int} {testCaseId projectId ownedId : String} {browser : Browser}
      {options : RunOptions} {call : StartCall} {registry : Registry}
      (reserved : system.engine.registry.reserve projectId ownedId =
        .ok (call.reservation, registry)) :
      Effect sessions system (.turn ⟨now, .begin testCaseId browser options⟩)
        ⟨{ system.engine with registry }, system.waiting ++ [call]⟩
  | concluded {now : Int} {index : Nat} {call : StartCall} (installed : Except String Unit)
      (waits : system.waiting[index]? = some call) :
      Effect sessions system (.turn ⟨now, .conclude index installed⟩)
        ⟨(system.engine.conclude call installed now).2, system.waiting.eraseIdx index⟩
  | abandoned {now : Int} {index : Nat} {call : StartCall}
      (waits : system.waiting[index]? = some call) :
      Effect sessions system (.turn ⟨now, .abandon index⟩)
        ⟨system.engine.abandon call, system.waiting.eraseIdx index⟩
  | proceeded {now : Int} {number : Nat} {task : RunTask}
      (found : system.engine.task? number = some task) (busy : task.isOver = false) :
      Effect sessions system (.turn ⟨now, .proceed number⟩)
        (system.change (·.proceed (sessions number) number now))
  | brokeDown {now : Int} {number : Nat} {task : RunTask}
      (found : system.engine.task? number = some task) (busy : task.isOver = false) :
      Effect sessions system (.turn ⟨now, .breakDown number⟩)
        (system.change fun engine =>
          { engine with registry := engine.registry.finish task.active }.setStage number .panicked)
  | asked (now : Int) (runId : String) :
      Effect sessions system (.turn ⟨now, .cancel runId⟩)
        (system.change fun engine => (engine.cancel runId).2)

/-- Every incident has one of these effects. -/
theorem effect_meet (sessions : Nat → Session) (system : System) (incident : Incident) :
    Effect sessions system incident (system.meet sessions incident) := by
  have still {incident : Incident} (deaf : ∀ now runId, incident ≠ .turn ⟨now, .cancel runId⟩) :
      Effect sessions system incident system :=
    .rests .refl (fun _ => .refl) deaf
  cases incident with
  | store operation =>
    have follows (plain : operation.IsPlain) := Store.follows_perform system.engine.store plain
    simp only [meet, change]
    exact .rests ⟨rfl, rfl, fun sound => Store.tables_perform sound operation⟩ follows (by simp)
  | disk refusals =>
    simp only [meet, change]
    exact .rests ⟨rfl, rfl, id⟩ (fun _ => .refl) (by simp)
  | turn turn =>
    obtain ⟨now, move⟩ := turn
    cases move with
    | begin testCaseId browser options =>
      simp only [meet, step]
      split
      · next prepared =>
        obtain ⟨-, -, -, -, -, -, registry, reserved, rfl⟩ := Engine.prepare_eq prepared
        exact .claimed reserved
      · exact still (by simp)
    | conclude index installed =>
      simp only [meet, step]
      split
      · next waits => exact .concluded installed waits
      · exact still (by simp)
    | abandon index =>
      simp only [meet, step]
      split
      · next waits => exact .abandoned waits
      · exact still (by simp)
    | proceed number =>
      cases found : system.engine.task? number with
      | none =>
        simp only [meet, step, change, Engine.proceed, found]
        exact still (by simp)
      | some task =>
        cases busy : task.isOver with
        | false => exact .proceeded found busy
        | true =>
          have ceased : ∀ rival, system.engine.task? number = some rival → rival.isOver = true := by
            intro rival present
            obtain rfl := Option.some.inj (found.symm.trans present)
            exact busy
          simp only [meet, step, change, Engine.proceed_of_over ceased]
          exact still (by simp)
    | breakDown number =>
      simp only [meet, step, change, Engine.brokeDown]
      split
      · exact still (by simp)
      · next task found =>
        split
        · exact still (by simp)
        · next busy => exact .brokeDown found (by simpa using busy)
    | cancel runId => exact .asked now runId
    | read path variant =>
      simp only [meet, step, change]
      exact .rests ⟨rfl, rfl, id⟩ (fun _ => .refl) (by simp)
    | install change =>
      simp only [meet, step, System.change]
      exact .rests ⟨rfl, rfl, id⟩ (fun _ => .refl) (by simp)
    | createProject name =>
      exact .rests (.createProject _ now name) (fun _ => .createProject _ now name) (by simp)
    | createTestCase projectId title lines =>
      exact .rests (.createTestCase _ now projectId title lines)
        (fun _ => .createTestCase _ now projectId title lines) (by simp)
    | updateSteps testCaseId lines =>
      exact .rests (.updateSteps _ now testCaseId lines)
        (fun _ => .updateSteps _ now testCaseId lines) (by simp)
    | deleteProject id =>
      exact .rests (.delete (.deleteProject id) rfl _ _ _)
        (fun _ => .delete (.deleteProject id) trivial rfl _ _ _) (by simp)
    | deleteTestCase id =>
      exact .rests (.delete (.deleteTestCase id) rfl _ _ _)
        (fun _ => .delete (.deleteTestCase id) trivial rfl _ _ _) (by simp)

namespace Orderly

variable (orderly : system.Orderly)

include orderly

/-- A task that is not over holds the slot. -/
theorem held (found : system.engine.task? number = some task) (busy : task.isOver = false) :
    system.engine.registry.slot = .active task.active.ticket task.active.context := by
  refine (orderly.serves.held_iff (.active task.active)).2 ?_
  refine List.mem_append_right _ (List.mem_map.2 ⟨task, ?_, rfl⟩)
  exact List.mem_filter.2 ⟨List.mem_of_getElem? found, by simp [busy]⟩

/-- A start that waits holds the slot. -/
theorem reserved {index : Nat} {call : StartCall} (waits : system.waiting[index]? = some call) :
    system.engine.registry.slot = (Guard.reserved call.reservation).slot := by
  refine (orderly.serves.held_iff _).2 (List.mem_append_left _ ?_)
  exact List.mem_map.2 ⟨call, List.mem_of_getElem? waits, rfl⟩

/-- A start that is completed hands the slot on or gives it up. -/
theorem goes_conclude {index : Nat} {call : StartCall}
    (waits : system.waiting[index]? = some call) (installed : Except String Unit) (now : Int) :
    system.engine.registry.Goes (system.engine.conclude call installed now).2.registry := by
  have rests := Engine.Rests.storeRun system.engine call now
  unfold Engine.conclude
  split
  · exact .released call.reservation
  · split
    · next outcome =>
      simp only [Engine.abandon, (rests.of_eq outcome).registry]
      exact .released call.reservation
    · next run _ outcome =>
      simp only [Engine.spawn, Engine.emit, (rests.of_eq outcome).registry]
      exact .activated run.id (orderly.reserved waits)

/-- An incident other than a request to stop makes one of the other calls of the registry. -/
theorem goes (effect : Effect sessions system incident later)
    (deaf : ∀ now runId, incident ≠ .turn ⟨now, .cancel runId⟩) :
    system.engine.registry.Goes later.engine.registry := by
  cases effect with
  | rests rests =>
    simp only [rests.registry]
    exact .kept
  | claimed reserved => exact .reserved reserved
  | concluded installed waits => exact orderly.goes_conclude waits installed _
  | abandoned waits => exact .released _
  | @proceeded now number task found busy =>
    obtain ⟨change, -, -, registry⟩ :=
      (Engine.Advances.proceed system.engine found busy (sessions number) now).moved
    simp only [System.change, registry]
    split
    · exact .finished task.active
    · exact .kept
  | brokeDown => exact .finished _
  | asked now runId => exact absurd rfl (deaf now runId)

/-- The tickets stay fresh whatever a system meets. -/
theorem fresh_meet (fresh : system.engine.registry.Fresh) (sessions : Nat → Session)
    (incident : Incident) : (system.meet sessions incident).engine.registry.Fresh := by
  by_cases asks : ∃ now runId, incident = .turn ⟨now, .cancel runId⟩
  · obtain ⟨now, runId, rfl⟩ := asks
    exact fresh.requestCancel runId
  · have deaf : ∀ now runId, incident ≠ .turn ⟨now, .cancel runId⟩ :=
      fun now runId same => asks ⟨now, runId, same⟩
    exact fresh.goes (orderly.goes (effect_meet sessions system incident) deaf)

end Orderly

section Tasks

/-- A task proceeds or breaks down by its own turns only, and not at all once it is over. -/
theorem Effect.task?_eq (effect : Effect sessions system incident later)
    (found : system.engine.task? number = some task)
    (apart : task.isOver = true ∨ ∀ now, incident ≠ .turn ⟨now, .proceed number⟩ ∧
      incident ≠ .turn ⟨now, .breakDown number⟩) : later.engine.task? number = some task := by
  cases effect with
  | rests rests =>
    rw [Engine.task?, rests.tasks]
    exact found
  | claimed => exact found
  | concluded installed waits => exact task?_conclude found _ installed _
  | abandoned => exact found
  | @proceeded now rival mover moves busy =>
    obtain ⟨change, tasks, -⟩ :=
      (Engine.Advances.proceed system.engine moves busy (sessions rival) now).moved
    refine (task?_of_modify tasks ?_).trans found
    rintro rfl
    obtain rfl := Option.some.inj (found.symm.trans moves)
    rcases apart with ended | unmoved
    · simp [busy] at ended
    · exact (unmoved now).1 rfl
  | @brokeDown now rival mover moves busy =>
    refine (task?_of_modify rfl ?_).trans found
    rintro rfl
    obtain rfl := Option.some.inj (found.symm.trans moves)
    rcases apart with ended | unmoved
    · simp [busy] at ended
    · exact (unmoved now).2 rfl
  | asked => exact found

/-- A task that is new was created by a start, which has handed the slot over to it. -/
theorem Orderly.task?_created (orderly : system.Orderly)
    (effect : Effect sessions system incident later)
    (missing : system.engine.task? number = none) (found : later.engine.task? number = some task) :
    task.stage = .launching ∧ task.active.context.runId = task.run.id ∧
      ∃ projectId testCaseId,
        system.engine.registry.slot = .reserved task.active.ticket projectId testCaseId := by
  have absent {engine : Engine} (tasks : engine.tasks = system.engine.tasks)
      (found : engine.task? number = some task) : False := by
    rw [Engine.task?, tasks] at found
    cases missing.symm.trans found
  have modified {engine : Engine} {other : Nat} {change : RunTask → RunTask}
      (tasks : engine.tasks = system.engine.tasks.modify other change)
      (found : engine.task? number = some task) : False := by
    rw [Engine.task?, tasks, List.getElem?_modify,
      show system.engine.tasks[number]? = none from missing] at found
    cases found
  cases effect with
  | rests rests => exact (absent rests.tasks found).elim
  | claimed => exact (absent rfl found).elim
  | @concluded now index call installed waits =>
    have rests := Engine.Rests.storeRun system.engine call now
    unfold Engine.conclude at found
    split at found
    · exact (absent rfl found).elim
    · split at found
      · next outcome => exact (absent (rests.of_eq outcome).tasks found).elim
      · next run engine outcome =>
        simp only [Engine.spawn, Engine.emit, Engine.task?, List.getElem?_append] at found
        split at found
        · exact (absent (rests.of_eq outcome).tasks found).elim
        · rw [List.getElem?_singleton] at found
          split at found
          · obtain rfl := Option.some.inj found
            exact ⟨rfl, rfl, _, _, orderly.reserved waits⟩
          · cases found
  | abandoned => exact (absent rfl found).elim
  | proceeded moves busy =>
    obtain ⟨change, tasks, -⟩ := (Engine.Advances.proceed system.engine moves busy _ _).moved
    exact (modified tasks found).elim
  | brokeDown => exact (modified rfl found).elim
  | asked => exact (absent rfl found).elim

end Tasks

section Rows

/-- A plain incident adds only plain states of runs, or a task proceeds that is not over. -/
theorem Effect.follows_or_proceeds (effect : Effect sessions system incident later)
    (plain : incident.IsPlain) :
    system.engine.Follows later.engine ∨ ∃ now number task,
      system.engine.task? number = some task ∧ task.isOver = false ∧
        later.engine = system.engine.proceed (sessions number) number now := by
  cases effect with
  | rests _ follows => exact .inl (follows plain)
  | claimed => exact .inl .refl
  | concluded installed => exact .inl (.conclude system.engine _ installed _)
  | abandoned => exact .inl .refl
  | proceeded found busy => exact .inr ⟨_, _, _, found, busy, rfl⟩
  | brokeDown => exact .inl .refl
  | asked => exact .inl .refl

end Rows

end System

end StepRunner
