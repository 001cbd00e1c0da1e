import StepRunner.Engine.Catalog
import StepRunner.Proofs.Engine.Preservation
import StepRunner.Proofs.Store.Operations

/-!
This file says what the pieces of a run leave alone, whatever the disk refuses and whatever the
store holds.
-/

namespace StepRunner

/-- The slot and the tasks are as before, and sound tables stay sound. -/
structure Engine.Rests (before after : Engine) : Prop where
  registry : after.registry = before.registry
  tasks : after.tasks = before.tasks
  sound : before.store.tables.Sound → after.store.tables.Sound

/-- A task that is not over goes on in the slot, or it ends and gives the slot up. -/
structure Engine.Advances (before : Engine) (number : Nat) (task : RunTask) (after : Engine) :
    Prop where
  moved : ∃ change : RunTask → RunTask, after.tasks = before.tasks.modify number change ∧
    (change task).active = task.active ∧
    after.registry =
      if (change task).isOver then before.registry.finish task.active else before.registry
  sound : before.store.tables.Sound → after.store.tables.Sound

namespace Engine

variable {engine before middle after : Engine}

section Writes

variable {α : Type} {change : Store → Except StoreError (α × Store)}

/-- A write that the disk refuses changes nothing. -/
theorem write_of_faulty (faulty : engine.refusals.headD false = true) :
    engine.write change =
      (.error (.database .disk), { engine with refusals := engine.refusals.tail }) := by
  simp only [write, faulty, if_true]

/-- A write that the disk lets through is a call of the store. -/
theorem write_of_healthy (healthy : engine.refusals.headD false = false) :
    engine.write change =
      ((change engine.store).map Prod.fst,
        { engine with
          store := engine.store.accepting ((change engine.store).map Prod.snd)
          refusals := engine.refusals.tail }) := by
  simp only [write, healthy, Bool.false_eq_true, if_false]
  cases change engine.store <;> rfl

/-- A call that the store accepts, too, replaces the store. -/
theorem write_of_healthy_of_accepted (healthy : engine.refusals.headD false = false) {value : α}
    {store : Store} (accepted : change engine.store = .ok (value, store)) :
    engine.write change = (.ok value, { engine with store, refusals := engine.refusals.tail }) := by
  rw [write_of_healthy healthy, accepted]
  rfl

/-- A write is refused, or it is a call that the store accepts. -/
theorem write_cases (engine : Engine) (change : Store → Except StoreError (α × Store)) :
    (∃ error, engine.write change =
        (.error error, { engine with refusals := engine.refusals.tail })) ∨
      ∃ value store, engine.refusals.headD false = false ∧
        change engine.store = .ok (value, store) ∧
        engine.write change =
          (.ok value, { engine with store, refusals := engine.refusals.tail }) := by
  cases condition : engine.refusals.headD false with
  | true => exact .inl ⟨_, write_of_faulty condition⟩
  | false =>
    cases outcome : change engine.store with
    | error error =>
      refine .inl ⟨error, (write_of_healthy condition).trans ?_⟩
      simp [outcome, Except.map, Store.accepting]
    | ok result =>
      exact .inr ⟨result.1, result.2, rfl, rfl, write_of_healthy_of_accepted condition outcome⟩

theorem writeOnly_cases (engine : Engine) (change : Store → Except StoreError Store) :
    (∃ error, engine.writeOnly change =
        (.error error, { engine with refusals := engine.refusals.tail })) ∨
      ∃ store, engine.refusals.headD false = false ∧ change engine.store = .ok store ∧
        engine.writeOnly change =
          (.ok (), { engine with store, refusals := engine.refusals.tail }) := by
  rcases engine.write_cases fun store => (change store).map fun store => ((), store) with
    refused | ⟨_, store, healthy, accepted, written⟩
  · exact .inl refused
  · cases outcome : change engine.store with
    | error error =>
      rw [outcome] at accepted
      cases accepted
    | ok changed =>
      rw [outcome] at accepted
      obtain ⟨-, rfl⟩ := Prod.mk.inj (Except.ok.inj accepted)
      exact .inr ⟨changed, healthy, rfl, written⟩

namespace Rests

theorem refl : engine.Rests engine := ⟨rfl, rfl, id⟩

theorem trans (first : before.Rests middle) (second : middle.Rests after) : before.Rests after where
  registry := second.registry.trans first.registry
  tasks := second.tasks.trans first.tasks
  sound := second.sound ∘ first.sound

/-- The engine that comes with an answer is the one after the call. -/
theorem of_eq {Answer : Type} {outcome : Answer × Engine} {answer : Answer}
    (rests : before.Rests outcome.2) (same : outcome = (answer, after)) : before.Rests after := by
  rw [same] at rests
  exact rests

/-- A write that does what a call of the store does leaves runs alone. -/
theorem write (operation : Store.Operation)
    (accords : engine.store.accepting ((change engine.store).map Prod.snd) =
      engine.store.perform operation) : engine.Rests (engine.write change).2 := by
  cases condition : engine.refusals.headD false with
  | true =>
    rw [write_of_faulty condition]
    exact ⟨rfl, rfl, id⟩
  | false =>
    rw [write_of_healthy condition, accords]
    exact ⟨rfl, rfl, fun sound => Store.tables_perform sound operation⟩

theorem writeOnly {change : Store → Except StoreError Store} (operation : Store.Operation)
    (accords : engine.store.accepting (change engine.store) = engine.store.perform operation) :
    engine.Rests (engine.writeOnly change).2 := by
  refine write operation ?_
  rw [← accords]
  cases change engine.store <;> rfl

theorem writeAlways {change : Store → α × Store} (operation : Store.Operation)
    (accords : (change engine.store).2 = engine.store.perform operation) :
    engine.Rests (engine.writeAlways change).2 :=
  write operation accords

theorem mint (engine : Engine) : engine.Rests engine.mint.2 := ⟨rfl, rfl, id⟩

theorem emit (engine : Engine) (event : RunEvent) : engine.Rests (engine.emit event) :=
  ⟨rfl, rfl, id⟩

theorem createProject (engine : Engine) (now : Int) (name : String) :
    engine.Rests (engine.createProject now name).2 :=
  write (.createProject now name) rfl

theorem createTestCase (engine : Engine) (now : Int) (projectId title : String)
    (lines : List String) : engine.Rests (engine.createTestCase now projectId title lines).2 := by
  unfold Engine.createTestCase
  split
  · exact refl
  · next drafts _ => exact write (.createTestCase now projectId title drafts) rfl

theorem updateSteps (engine : Engine) (now : Int) (testCaseId : String) (lines : List String) :
    engine.Rests (engine.updateSteps now testCaseId lines).2 := by
  unfold Engine.updateSteps
  split
  · exact refl
  · next drafts _ => exact write (.replaceSteps now testCaseId drafts) rfl

/-- A deletion leaves the slot and the tasks alone, whether it is allowed or not. -/
theorem delete (operation : Store.Operation) {remove : Store → Bool × Store}
    (accords : (remove engine.store).2 = engine.store.perform operation)
    (check : Except EngineError Unit) (missing : EngineError) (runIds : List String) :
    engine.Rests (engine.delete check missing runIds remove).2 := by
  unfold Engine.delete
  have rests : engine.Rests (engine.writeAlways remove).2 := writeAlways operation accords
  split
  · exact refl
  · split
    · next outcome => exact rests.of_eq outcome
    · next outcome => exact rests.of_eq outcome
    · next outcome =>
      have rests := rests.of_eq outcome
      exact ⟨rests.registry, rests.tasks, rests.sound⟩

/-- A start that stores its run leaves the slot and the tasks alone, even if it fails. -/
theorem storeRun (engine : Engine) (call : StartCall) (now : Int) :
    engine.Rests (engine.storeRun call now).2 := by
  unfold Engine.storeRun
  simp only
  have inserts : engine.Rests
      (engine.mint.2.writeOnly (·.insertRun (queuedRun engine.mint.1 call now))).2 :=
    (mint engine).trans (writeOnly (.insertRun (queuedRun engine.mint.1 call now)) rfl)
  split
  · next outcome => exact inserts.of_eq outcome
  · next middle outcome =>
    have inserts := inserts.of_eq outcome
    have moves : middle.Rests (middle.write (·.moveRun now engine.mint.1 .running none)).2 :=
      write (.moveRun now engine.mint.1 .running none) rfl
    split
    · next outcome =>
      have moves := inserts.trans (moves.of_eq outcome)
      exact moves.trans (writeAlways (.deleteQueuedRun engine.mint.1) rfl)
    · next outcome => exact inserts.trans (moves.of_eq outcome)

end Rests

end Writes

section Tasks

variable {number : Nat} {task : RunTask}

namespace Advances

theorem after_rests (rests : before.Rests middle) (advances : middle.Advances number task after) :
    before.Advances number task after where
  moved := by
    rw [← rests.registry, ← rests.tasks]
    exact advances.moved
  sound := advances.sound ∘ rests.sound

/-- A change that keeps the guard of a task and does not end it lets it go on. -/
theorem updateTask (engine : Engine) {change : RunTask → RunTask}
    (active : (change task).active = task.active) (busy : (change task).isOver = false) :
    engine.Advances number task (engine.updateTask number change) where
  moved := ⟨change, rfl, active, by rw [busy]; rfl⟩
  sound := id

theorem setStage (engine : Engine) {stage : Stage}
    (busy : RunTask.isOver { task with stage } = false) :
    engine.Advances number task (engine.setStage number stage) :=
  updateTask engine rfl busy

/-- A run that is finalized gives the slot up, even if its end cannot be stored. -/
theorem finalize (engine : Engine) (fatal : Option String) (failed : Bool) (now : Int) :
    engine.Advances number task (engine.finalize number task fatal failed now) := by
  unfold Engine.finalize
  have rests {status : RunStatus} :
      engine.Rests (engine.write (·.moveRun now task.run.id status fatal)).2 :=
    .write (.moveRun now task.run.id status fatal) rfl
  -- The slot goes with the guard, whatever has become of the write.
  refine after_rests rests ⟨⟨fun task => { task with stage := .ended _ }, rfl, rfl, rfl⟩, id⟩

theorem beginStep (engine : Engine) (step : Step) (rest : List Step) (now : Int) :
    engine.Advances number task (engine.beginStep number task step rest now) := by
  refine after_rests (.mint engine) ?_
  unfold Engine.beginStep
  simp only
  have rests {result : StepResult} :
      engine.mint.2.Rests (engine.mint.2.writeOnly (·.insertResult result)).2 :=
    .writeOnly (.insertResult result) rfl
  split
  · next outcome =>
    have rests := rests.of_eq outcome
    exact after_rests rests (setStage _ rfl)
  · next outcome =>
    have rests := rests.of_eq outcome
    have told := rests.trans (.emit _ (.stepStarted task.run.id step.id step.order))
    refine after_rests told ?_
    split
    · exact setStage _ rfl
    · exact setStage _ rfl

theorem endStep (engine : Engine) (result : StepResult) (failure path : Option String)
    (rest : List Step) (now : Int) :
    engine.Advances number task (engine.endStep number task result failure path rest now) := by
  unfold Engine.endStep
  simp only
  have rests {outcome : StepResult} :
      engine.Rests (engine.writeOnly (·.finishResult outcome)).2 :=
    .writeOnly (.finishResult outcome) rfl
  split
  · next outcome =>
    have rests := rests.of_eq outcome
    exact after_rests rests (setStage _ rfl)
  · next outcome =>
    have rests := rests.of_eq outcome
    refine after_rests (rests.trans (.emit _ _)) (updateTask _ rfl ?_)
    rcases stageAfter_cases task.options
      (stepStatus (engine.registry.cancelRequested task.active) failure.isSome) rest with
      goes | stops
    · simp only [RunTask.isOver, goes]
    · simp only [RunTask.isOver, stops]

/-- A task that is not over goes on or ends, whatever its browser does. -/
theorem proceed (engine : Engine) (found : engine.task? number = some task)
    (busy : task.isOver = false) (session : Session) (now : Int) :
    engine.Advances number task (engine.proceed session number now) := by
  simp only [Engine.proceed, found]
  cases stage : task.stage with
  | launching =>
    simp only [launched, found, stage]
    split
    · exact finalize engine _ _ now
    · exact setStage engine rfl
  | ready rest =>
    simp only [advance, found, stage]
    cases rest with
    | nil => exact setStage engine rfl
    | cons step rest =>
      simp only
      split
      · exact setStage engine rfl
      · exact beginStep engine step rest now
  | acting result action rest =>
    simp only [acted, found, stage]
    exact setStage engine rfl
  | photographing result failure rest =>
    simp only [photographed, found, stage]
    split
    · exact setStage engine rfl
    · exact endStep engine _ _ _ _ now
  | storing result failure picture rest =>
    simp only [stored, found, stage]
    have rests (artifacts : Artifacts) : engine.Rests { engine with artifacts } := ⟨rfl, rfl, id⟩
    exact after_rests (rests _) (endStep _ _ _ _ _ now)
  | closing fault =>
    simp only [closed, found, stage]
    cases fault with
    | none => exact finalize engine _ _ now
    | some fault =>
      have rests : engine.Rests (engine.writeAlways (·.failPending now task.run.id fault)).2 :=
        .writeAlways (.failPending now task.run.id fault) rfl
      exact after_rests rests (finalize _ _ _ now)
  | ended run => simp [RunTask.isOver, stage] at busy
  | panicked => simp [RunTask.isOver, stage] at busy

end Advances

end Tasks

end Engine

end StepRunner
