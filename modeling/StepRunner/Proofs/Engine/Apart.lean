import StepRunner.Proofs.Engine.Frames
import StepRunner.Proofs.Store.Apart

/-!
This file looks at the engine apart from the script of one test case.
A piece of a run or of an operation that does not write this script does the same whether or not
the script is left out.
-/

namespace StepRunner

/-- An event and what is seen with it, apart from the script of a test case. -/
def Announcement.apart (announcement : Announcement) (id : String) : Announcement :=
  { announcement with tables := announcement.tables.apart id }

namespace Engine

/-- The engine apart from the script of a test case. -/
def apart (engine : Engine) (id : String) : Engine :=
  { engine with
    store := engine.store.apart id
    announcements := engine.announcements.map (·.apart id) }

/-- What a piece of work gives, with the script of a test case left out of the engine. -/
def leave {α : Type} (testCaseId : String) (outcome : α × Engine) : α × Engine :=
  (outcome.1, outcome.2.apart testCaseId)

section Writes

variable {α : Type} (engine : Engine) {testCaseId : String}

theorem apart_emit (testCaseId : String) (event : RunEvent) :
    (engine.emit event).apart testCaseId = (engine.apart testCaseId).emit event := by
  simp only [emit, apart, List.map_append, List.map_singleton]
  rfl

/-- A write commutes with leaving out the script if the call on the store does. -/
theorem apart_write (change : Store → Except StoreError (α × Store))
    (blind : Store.leave testCaseId (change engine.store) =
      change (engine.store.apart testCaseId)) :
    leave testCaseId (engine.write change) = (engine.apart testCaseId).write change := by
  have refusals : (engine.apart testCaseId).refusals = engine.refusals := rfl
  have store : (engine.apart testCaseId).store = engine.store.apart testCaseId := rfl
  simp only [write, refusals, store, ← blind]
  split
  · rfl
  · cases change engine.store <;> rfl

theorem apart_writeOnly (change : Store → Except StoreError Store)
    (blind : (change engine.store).map (·.apart testCaseId) =
      change (engine.store.apart testCaseId)) :
    leave testCaseId (engine.writeOnly change) = (engine.apart testCaseId).writeOnly change := by
  refine apart_write engine _ ?_
  rw [← blind]
  cases change engine.store <;> rfl

theorem apart_writeAlways (change : Store → α × Store)
    (blind : Prod.map (fun value => value) (·.apart testCaseId) (change engine.store) =
      change (engine.store.apart testCaseId)) :
    leave testCaseId (engine.writeAlways change) =
      (engine.apart testCaseId).writeAlways change := by
  refine apart_write engine _ ?_
  rw [← blind]
  rfl

end Writes

section Fields

/-! Leaving out a script concerns the store and the sight of it only. -/

variable (engine : Engine) (testCaseId : String)

@[simp] theorem apart_registry : (engine.apart testCaseId).registry = engine.registry := rfl

@[simp] theorem apart_artifacts : (engine.apart testCaseId).artifacts = engine.artifacts := rfl

@[simp] theorem task?_apart (number : Nat) :
    (engine.apart testCaseId).task? number = engine.task? number := rfl

theorem apart_setStage (number : Nat) (stage : Stage) :
    (engine.setStage number stage).apart testCaseId =
      (engine.apart testCaseId).setStage number stage := rfl

theorem apart_mint : leave testCaseId engine.mint = (engine.apart testCaseId).mint := rfl

end Fields

section Runs

variable (engine : Engine) (testCaseId : String) (number : Nat) (task : RunTask)

theorem apart_finalize (fatal : Option String) (failed : Bool) (now : Int) :
    (engine.finalize number task fatal failed now).apart testCaseId =
      (engine.apart testCaseId).finalize number task fatal failed now := by
  have moved (status : RunStatus) := apart_write engine (·.moveRun now task.run.id status fatal)
    (engine.store.apart_moveRun testCaseId now task.run.id status fatal)
  simp only [finalize, apart_registry, ← moved, leave]
  rw [apart_setStage, apart_emit]
  rfl

theorem apart_beginStep (step : Step) (rest : List Step) (now : Int) :
    (engine.beginStep number task step rest now).apart testCaseId =
      (engine.apart testCaseId).beginStep number task step rest now := by
  have inserted := apart_writeOnly engine.mint.2
    (·.insertResult (pendingResult engine.mint.1 task.run step now))
    (engine.mint.2.store.apart_insertResult testCaseId _)
  simp only [beginStep, ← apart_mint, leave]
  rw [← inserted]
  rcases engine.mint.2.writeOnly _ with ⟨_ | _, after⟩
  · rfl
  · simp only [leave, ← apart_emit]
    cases step.action? <;> rfl

/-- The end of a step is a write, and then an event unless the write is refused. -/
theorem endStep_eq_match (result : StepResult) (failure path : Option String) (rest : List Step)
    (now : Int) :
    engine.endStep number task result failure path rest now =
      let outcome :=
        decidedResult (engine.registry.cancelRequested task.active) result failure path now
      match engine.writeOnly (·.finishResult outcome) with
      | (.error error, engine) =>
        engine.setStage number (.closing (some (EngineError.ofStore error).message))
      | (.ok _, engine) =>
        let told :=
          engine.emit (.stepFinished task.run.id result.stepId result.order outcome.status)
        told.updateTask number (afterStep outcome.status rest) := rfl

theorem apart_endStep (result : StepResult) (failure path : Option String) (rest : List Step)
    (now : Int) :
    (engine.endStep number task result failure path rest now).apart testCaseId =
      (engine.apart testCaseId).endStep number task result failure path rest now := by
  have finished (outcome : StepResult) := apart_writeOnly engine (·.finishResult outcome)
    (engine.store.apart_finishResult testCaseId outcome)
  simp only [endStep_eq_match, apart_registry, ← finished]
  rcases engine.writeOnly _ with ⟨_ | _, after⟩
  · rfl
  · simp only [leave, ← apart_emit]
    rfl

/-- Every stage of a run does the same without the script. -/
theorem apart_proceed (session : Session) (now : Int) :
    (engine.proceed session number now).apart testCaseId =
      (engine.apart testCaseId).proceed session number now := by
  simp only [proceed, task?_apart]
  cases found : engine.task? number with
  | none => rfl
  | some task =>
    simp only
    cases stage : task.stage with
    | launching =>
      simp only [launched, task?_apart, found, stage]
      split
      · exact apart_finalize ..
      · rfl
    | ready rest =>
      simp only [advance, task?_apart, found, stage]
      cases rest with
      | nil => rfl
      | cons step rest =>
        change _ = if engine.registry.cancelRequested task.active then _ else _
        simp only
        split
        · rfl
        · exact apart_beginStep ..
    | acting result action rest =>
      simp only [acted, task?_apart, found, stage]
      rfl
    | photographing result failure rest =>
      simp only [photographed, task?_apart, found, stage]
      split
      · rfl
      · exact apart_endStep ..
    | storing result failure picture rest =>
      simp only [stored, task?_apart, found, stage, apart_artifacts]
      exact apart_endStep { engine with artifacts := _ } testCaseId number task ..
    | closing fault =>
      simp only [closed, task?_apart, found, stage]
      cases fault with
      | none => exact apart_finalize ..
      | some fault =>
        have failed := apart_writeAlways engine (·.failPending now task.run.id fault)
          (engine.store.apart_failPending testCaseId now task.run.id fault)
        simp only [← failed]
        exact apart_finalize ..
    | ended run => rfl
    | panicked => rfl

theorem apart_brokeDown :
    (engine.brokeDown number).apart testCaseId = (engine.apart testCaseId).brokeDown number := by
  simp only [brokeDown, task?_apart]
  split
  · rfl
  · split <;> rfl

end Runs

section Starts

variable (engine : Engine) (testCaseId : String) (call : StartCall)

theorem apart_spawn (run : Run) :
    leave testCaseId (engine.spawn call run) = (engine.apart testCaseId).spawn call run := by
  let active := engine.registry.activate call.reservation run.id
  have told := apart_emit { engine with registry := active.2 } testCaseId
    (.runStarted run.id call.testCase.id call.browser)
  let task : RunTask := ⟨run, call.steps, call.options, active.1, false, .launching⟩
  exact congrArg
    (fun told : Engine => (engine.tasks.length, { told with tasks := engine.tasks ++ [task] })) told

theorem apart_storeRun (now : Int) :
    leave testCaseId (engine.storeRun call now) = (engine.apart testCaseId).storeRun call now := by
  have inserted := apart_writeOnly engine.mint.2
    (·.insertRun (queuedRun engine.mint.1 call now))
    (engine.mint.2.store.apart_insertRun testCaseId _)
  simp only [storeRun, ← apart_mint, leave]
  rw [← inserted]
  rcases engine.mint.2.writeOnly _ with ⟨_ | _, middle⟩
  · rfl
  · have moved := apart_write middle (·.moveRun now engine.mint.1 .running none)
      (middle.store.apart_moveRun testCaseId now engine.mint.1 .running none)
    simp only [leave] at moved ⊢
    simp only [← moved]
    rcases middle.write _ with ⟨_ | _, last⟩
    · have removed := apart_writeAlways last (·.deleteQueuedRun engine.mint.1)
        (last.store.apart_deleteQueuedRun testCaseId engine.mint.1)
      simp only [← removed, leave]
    · rfl

theorem apart_conclude (installed : Except String Unit) (now : Int) :
    leave testCaseId (engine.conclude call installed now) =
      (engine.apart testCaseId).conclude call installed now := by
  simp only [conclude]
  split
  · rfl
  · simp only [← apart_storeRun]
    rcases engine.storeRun call now with ⟨_ | run, after⟩
    · rfl
    · simp only [leave, ← apart_spawn]

/-- While the slot is taken, a start fails whatever the scripts are. -/
theorem prepare_of_held (held : engine.registry.slot ≠ .empty) (id : String) (browser : Browser)
    (options : RunOptions) :
    ∃ error, engine.prepare id browser options = .error error := by
  cases prepared : engine.prepare id browser options with
  | error error => exact ⟨error, rfl⟩
  | ok result =>
    obtain ⟨-, -, -, -, -, -, registry, reserved, -⟩ := prepare_eq prepared
    exact absurd (Registry.reserve_eq_ok_iff.1 reserved).1 held

end Starts

section Catalogue

variable (engine : Engine) {testCaseId : String}

theorem apart_createProject (testCaseId : String) (now : Int) (name : String) :
    leave testCaseId (engine.createProject now name) =
      (engine.apart testCaseId).createProject now name := by
  have created := apart_write engine (·.createProject now name)
    (engine.store.apart_createProject testCaseId now name)
  simp only [createProject, answered, ← created, leave]

theorem apart_createTestCase (sound : engine.store.Sound)
    (known : (engine.store.tables.testCase? testCaseId).isNone = false) (now : Int)
    (projectId title : String) (lines : List String) :
    leave testCaseId (engine.createTestCase now projectId title lines) =
      (engine.apart testCaseId).createTestCase now projectId title lines := by
  simp only [createTestCase]
  split
  · rfl
  · next drafts _ =>
    have created := apart_write engine (·.createTestCase now projectId title drafts)
      (sound.apart_createTestCase known now projectId title drafts)
    simp only [answered, ← created, leave]

theorem apart_updateSteps (sound : engine.store.Sound) {id : String} (different : id ≠ testCaseId)
    (now : Int) (lines : List String) :
    leave testCaseId (engine.updateSteps now id lines) =
      (engine.apart testCaseId).updateSteps now id lines := by
  simp only [updateSteps]
  split
  · rfl
  · next drafts _ =>
    have replaced := apart_write engine (·.replaceSteps now id drafts)
      (sound.apart_replaceSteps different now drafts)
    simp only [answered, ← replaced, leave]

/-- The number of ids that the steps of a script with some lines get. -/
def newIds (lines : List String) : Nat := ((StepDraft.ofLines lines).toOption.getD []).length

/-- The engine after some ids were handed out that nobody uses. -/
def skipping (engine : Engine) (count : Nat) : Engine :=
  { engine with store := ⟨engine.store.tables, engine.store.minted + count⟩ }

/-- A script that is replaced leaves everything else as it was, but for the ids of the new steps. -/
theorem apart_updateSteps_own {engine : Engine} (reliable : engine.refusals = [])
    (sound : engine.store.Sound) {id : String}
    (owned : (engine.store.tables.testCase? id).isNone = false) (now : Int)
    (lines : List String) :
    (engine.updateSteps now id lines).2.apart id =
      (engine.apart id).skipping (newIds lines) := by
  simp only [updateSteps, newIds]
  cases StepDraft.ofLines lines with
  | error complaint => rfl
  | ok drafts =>
    obtain ⟨steps, after, replaced, left⟩ := sound.apart_replaceSteps_own owned now drafts
    have written : engine.write (·.replaceSteps now id drafts) =
        (.ok steps, { engine with store := after }) := write_of_accepted reliable replaced
    simp only [answered, written, apart, left]
    rfl

theorem apart_delete (guarded : Except EngineError Unit) (missing : EngineError)
    (runIds : List String) (remove : Store → Bool × Store)
    (blind : Prod.map (fun found => found) (·.apart testCaseId) (remove engine.store) =
      remove (engine.store.apart testCaseId)) :
    leave testCaseId (engine.delete guarded missing runIds remove) =
      (engine.apart testCaseId).delete guarded missing runIds remove := by
  have removed := apart_writeAlways engine remove blind
  simp only [delete, ← removed]
  rcases guarded with _ | _
  · rfl
  · rcases engine.writeAlways remove with ⟨_ | _ | _, after⟩ <;> rfl

theorem apart_deleteProject (testCaseId id : String) :
    leave testCaseId (engine.deleteProject id) =
      (engine.apart testCaseId).deleteProject id := by
  have removed := apart_delete engine (engine.registry.checkProject id) (.notFound .project id)
    (engine.store.tables.runIdsOfProject id) (·.deleteProject id)
    (engine.store.apart_deleteProject testCaseId id)
  have chosen : (engine.apart testCaseId).store.tables.runIdsOfProject id =
      engine.store.tables.runIdsOfProject id :=
    Store.runIdsOfProject_cleared ..
  simp only [deleteProject, chosen]
  exact removed

theorem apart_deleteTestCase (testCaseId id : String) :
    leave testCaseId (engine.deleteTestCase id) =
      (engine.apart testCaseId).deleteTestCase id :=
  apart_delete engine _ _ _ _ (engine.store.apart_deleteTestCase testCaseId id)

end Catalogue

section Records

/-! A run records what becomes of it, and it changes no project, no test case and no step. -/

variable (engine : Engine)

theorem catalogue_write {α : Type} (change : Store → Except StoreError (α × Store))
    (operation : Store.Operation) (records : operation.records = true)
    (accords : engine.store.accepting ((change engine.store).map Prod.snd) =
      engine.store.perform operation) :
    (engine.write change).2.store.tables.catalogue = engine.store.tables.catalogue := by
  cases condition : engine.refusals.headD false with
  | true => rw [write_of_faulty condition]
  | false =>
    rw [write_of_healthy condition, accords]
    exact Store.catalogue_perform records

theorem store_write {α : Type} (reliable : engine.refusals = [])
    (change : Store → Except StoreError (α × Store)) :
    (engine.write change).2.store =
      engine.store.accepting ((change engine.store).map Prod.snd) := by
  rw [write_of_healthy (by simp [reliable])]

/-- A deletion removes rows unless its guard forbids it. -/
theorem store_delete (reliable : engine.refusals = []) (guarded : Except EngineError Unit)
    (missing : EngineError) (runIds : List String) (remove : Store → Bool × Store) :
    (engine.delete guarded missing runIds remove).2.store = engine.store ∨
      (engine.delete guarded missing runIds remove).2.store = (remove engine.store).2 := by
  cases guarded with
  | error error => exact .inl rfl
  | ok allowed =>
    have removed := store_write engine reliable fun store => .ok (remove store)
    simp only [delete, writeAlways]
    generalize engine.write _ = outcome at removed ⊢
    obtain ⟨_ | _ | _, after⟩ := outcome <;> exact .inr removed

theorem catalogue_writeOnly (change : Store → Except StoreError Store)
    (operation : Store.Operation) (records : operation.records = true)
    (accords : engine.store.accepting (change engine.store) = engine.store.perform operation) :
    (engine.writeOnly change).2.store.tables.catalogue = engine.store.tables.catalogue := by
  refine catalogue_write engine _ operation records ?_
  rw [← accords]
  cases change engine.store <;> rfl

theorem catalogue_finalize (number : Nat) (task : RunTask) (fatal : Option String) (failed : Bool)
    (now : Int) :
    (engine.finalize number task fatal failed now).store.tables.catalogue =
      engine.store.tables.catalogue := by
  let status := finalStatus (engine.registry.cancelRequested task.active) (fatal.isSome || failed)
  exact catalogue_write engine (·.moveRun now task.run.id status fatal)
    (.moveRun now task.run.id status fatal) rfl rfl

theorem catalogue_beginStep (number : Nat) (task : RunTask) (step : Step) (rest : List Step)
    (now : Int) :
    (engine.beginStep number task step rest now).store.tables.catalogue =
      engine.store.tables.catalogue := by
  have inserted := catalogue_writeOnly engine.mint.2
    (·.insertResult (pendingResult engine.mint.1 task.run step now))
    (.insertResult (pendingResult engine.mint.1 task.run step now)) rfl rfl
  simp only [beginStep]
  generalize engine.mint.2.writeOnly _ = outcome at inserted ⊢
  obtain ⟨_ | _, after⟩ := outcome
  · exact inserted
  · cases step.action? <;> exact inserted

theorem catalogue_endStep (number : Nat) (task : RunTask) (result : StepResult)
    (failure path : Option String) (rest : List Step) (now : Int) :
    (engine.endStep number task result failure path rest now).store.tables.catalogue =
      engine.store.tables.catalogue := by
  have finished (outcome : StepResult) := catalogue_writeOnly engine (·.finishResult outcome)
    (.finishResult outcome) rfl rfl
  simp only [endStep_eq_match]
  specialize finished
    (decidedResult (engine.registry.cancelRequested task.active) result failure path now)
  generalize engine.writeOnly _ = written at finished ⊢
  obtain ⟨_ | _, after⟩ := written <;> exact finished

theorem catalogue_proceed (session : Session) (number : Nat) (now : Int) :
    (engine.proceed session number now).store.tables.catalogue =
      engine.store.tables.catalogue := by
  simp only [proceed]
  cases found : engine.task? number with
  | none => rfl
  | some task =>
    simp only
    cases stage : task.stage with
    | launching =>
      simp only [launched, found, stage]
      split
      · exact catalogue_finalize ..
      · rfl
    | ready rest =>
      simp only [advance, found, stage]
      cases rest with
      | nil => rfl
      | cons step rest =>
        simp only
        split
        · rfl
        · exact catalogue_beginStep ..
    | acting result action rest =>
      simp only [acted, found, stage]
      rfl
    | photographing result failure rest =>
      simp only [photographed, found, stage]
      split
      · rfl
      · exact catalogue_endStep ..
    | storing result failure picture rest =>
      simp only [stored, found, stage]
      exact catalogue_endStep ..
    | closing fault =>
      simp only [closed, found, stage]
      cases fault with
      | none => exact catalogue_finalize ..
      | some fault =>
        have failed := catalogue_write engine
          (fun store => .ok (store.failPending now task.run.id fault))
          (.failPending now task.run.id fault) rfl rfl
        exact (catalogue_finalize ..).trans failed
    | ended run => rfl
    | panicked => rfl

theorem catalogue_storeRun (call : StartCall) (now : Int) :
    (engine.storeRun call now).2.store.tables.catalogue = engine.store.tables.catalogue := by
  have inserted := catalogue_writeOnly engine.mint.2
    (·.insertRun (queuedRun engine.mint.1 call now))
    (.insertRun (queuedRun engine.mint.1 call now)) rfl rfl
  simp only [storeRun]
  generalize engine.mint.2.writeOnly _ = outcome at inserted ⊢
  obtain ⟨_ | _, middle⟩ := outcome
  · exact inserted
  · have moved := catalogue_write middle (·.moveRun now engine.mint.1 .running none)
      (.moveRun now engine.mint.1 .running none) rfl rfl
    simp only
    generalize middle.write _ = answer at moved ⊢
    obtain ⟨_ | _, last⟩ := answer
    · have removed := catalogue_write last (fun store => .ok (store.deleteQueuedRun engine.mint.1))
        (.deleteQueuedRun engine.mint.1) rfl rfl
      exact removed.trans (moved.trans inserted)
    · exact moved.trans inserted

theorem catalogue_conclude (call : StartCall) (installed : Except String Unit) (now : Int) :
    (engine.conclude call installed now).2.store.tables.catalogue =
      engine.store.tables.catalogue := by
  have stored := catalogue_storeRun engine call now
  simp only [conclude]
  split
  · rfl
  · generalize engine.storeRun call now = outcome at stored ⊢
    obtain ⟨_ | run, after⟩ := outcome <;> exact stored

theorem catalogue_brokeDown (number : Nat) :
    (engine.brokeDown number).store.tables.catalogue = engine.store.tables.catalogue := by
  simp only [brokeDown]
  split
  · rfl
  · split <;> rfl

end Records

end Engine

end StepRunner
