import StepRunner.Proofs.Artifacts.Containment
import StepRunner.Proofs.Engine.Starts
import StepRunner.Proofs.Store.Cascades

/-!
This file says what an operation of the engine leaves behind when it fails.
Nobody sees a change of the tables, the screenshots, the events or the tasks then.
-/

namespace StepRunner

open Rehearsal (Guard)

namespace Engine

/-- The tables, the screenshots, the events and the tasks are as before. -/
structure Spares (before after : Engine) : Prop where
  tables : after.store.tables = before.store.tables
  artifacts : after.artifacts = before.artifacts
  announcements : after.announcements = before.announcements
  tasks : after.tasks = before.tasks

/-- All is as before but for the run of a start, which is queued and was not there before. -/
structure Strands (call : StartCall) (before after : Engine) : Prop where
  row : ∃ run : Run, run.status = .queued ∧ run.endedAt = none ∧
    run.testCaseId = call.testCase.id ∧ run.id ∉ before.store.tables.runs.map Run.id ∧
    after.store.tables = { before.store.tables with runs := before.store.tables.runs ++ [run] }
  artifacts : after.artifacts = before.artifacts
  announcements : after.announcements = before.announcements
  tasks : after.tasks = before.tasks

/-- The slot and the tasks are as before, and a write at most uses refusals of the disk up. -/
structure Settles (before after : Engine) : Prop where
  slot : after.registry.slot = before.registry.slot
  tasks : after.tasks = before.tasks
  sound : before.store.tables.Sound → after.store.tables.Sound
  refusals : after.refusals <:+ before.refusals

/-- An operation settles, and when it fails it spares all that others see. -/
structure Discreet {Answer : Type} (before : Engine)
    (outcome : Except EngineError Answer × Engine) : Prop where
  settles : before.Settles outcome.2
  spares : ∀ error, outcome.1 = .error error → before.Spares outcome.2

variable {engine before after : Engine}

theorem Spares.refl : engine.Spares engine := ⟨rfl, rfl, rfl, rfl⟩

/-- What adds a run is seen. -/
theorem Strands.not_spares {call : StartCall} (strands : Strands call before after) :
    ¬before.Spares after := by
  intro spares
  obtain ⟨run, -, -, -, -, added⟩ := strands.row
  have runs := congrArg Tables.runs (added.symm.trans spares.tables)
  simp at runs

theorem Settles.refl : engine.Settles engine := ⟨rfl, rfl, id, List.suffix_refl _⟩

/-- What leaves runs alone settles. -/
theorem Rests.settles (rests : before.Rests after) (refusals : after.refusals <:+ before.refusals) :
    before.Settles after where
  slot := congrArg Registry.slot rests.registry
  tasks := rests.tasks
  sound := rests.sound
  refusals := refusals

section Writes

variable {α : Type}

/-- A write uses up at most the next refusal of the disk. -/
theorem refusals_write (engine : Engine) (change : Store → Except StoreError (α × Store)) :
    (engine.write change).2.refusals <:+ engine.refusals := by
  rcases engine.write_cases change with ⟨error, same⟩ | ⟨value, store, -, -, same⟩
  all_goals
    rw [same]
    exact List.tail_suffix _

theorem refusals_of_written {change : Store → Except StoreError (α × Store)}
    {answer : Except StoreError α} (written : engine.write change = (answer, after)) :
    after.refusals <:+ engine.refusals := by
  have used := refusals_write engine change
  rwa [written] at used

/-- A write that fails changes nothing but the refusals to come. -/
theorem spares_write {change : Store → Except StoreError (α × Store)} {error : StoreError}
    (failed : (engine.write change).1 = .error error) :
    engine.Spares (engine.write change).2 := by
  rcases engine.write_cases change with ⟨fault, refused⟩ | ⟨value, store, -, -, written⟩
  · rw [refused]
    exact ⟨rfl, rfl, rfl, rfl⟩
  · rw [written] at failed
    cases failed

/-- A write of the engine is discreet if it leaves runs alone. -/
theorem discreet_answered {change : Store → Except StoreError (α × Store)}
    (rests : engine.Rests (engine.write change).2) :
    engine.Discreet (answered (engine.write change)) where
  settles := rests.settles (refusals_write engine change)
  spares := by
    intro error failed
    simp only [answered] at failed ⊢
    cases outcome : (engine.write change).1 with
    | error fault => exact spares_write outcome
    | ok value =>
      rw [outcome] at failed
      cases failed

end Writes

section Catalogue

theorem discreet_of_error {Answer : Type} {error : EngineError} :
    engine.Discreet ((.error error : Except EngineError Answer), engine) :=
  ⟨.refl, fun _ _ => .refl⟩

theorem discreet_createProject (engine : Engine) (now : Int) (name : String) :
    engine.Discreet (engine.createProject now name) :=
  discreet_answered (.createProject engine now name)

theorem discreet_createTestCase (engine : Engine) (now : Int) (projectId title : String)
    (lines : List String) : engine.Discreet (engine.createTestCase now projectId title lines) := by
  have rests := Rests.createTestCase engine now projectId title lines
  unfold Engine.createTestCase at rests ⊢
  split
  · exact discreet_of_error
  · next read =>
    rw [read] at rests
    exact discreet_answered rests

theorem discreet_updateSteps (engine : Engine) (now : Int) (testCaseId : String)
    (lines : List String) : engine.Discreet (engine.updateSteps now testCaseId lines) := by
  have rests := Rests.updateSteps engine now testCaseId lines
  unfold Engine.updateSteps at rests ⊢
  split
  · exact discreet_of_error
  · next read =>
    rw [read] at rests
    exact discreet_answered rests

/-- A test case whose steps were updated is there. -/
theorem testCase_of_updated {now : Int} {testCaseId : String} {lines : List String}
    {steps : List Step} (updated : engine.updateSteps now testCaseId lines = (.ok steps, after)) :
    ∃ testCase, after.testCase testCaseId = .ok testCase := by
  unfold Engine.updateSteps at updated
  split at updated
  · cases updated
  · next drafts _ =>
    rcases engine.write_cases (·.replaceSteps now testCaseId drafts) with
      ⟨error, refused⟩ | ⟨rows, store, -, replaced, written⟩
    · rw [refused] at updated
      cases updated
    · rw [written] at updated
      obtain ⟨named, -⟩ := Store.replaceSteps_eq replaced
      obtain ⟨testCase, present, same⟩ := List.mem_map.1 named
      have owned : engine.store.tables.Owns testCase.projectId testCaseId :=
        ⟨testCase, present, same, rfl⟩
      obtain ⟨kept, still, named, -⟩ := (Store.replaceSteps_spares replaced).owns owned
      have found : (store.tables.testCase? testCaseId).isSome = true := by
        simp only [Tables.testCase?, List.find?_isSome]
        exact ⟨kept, still, by simpa using named⟩
      obtain ⟨row, row?⟩ := Option.isSome_iff_exists.1 found
      obtain ⟨-, rfl⟩ := Prod.mk.inj updated
      exact ⟨row, by simp [Engine.testCase, row?]⟩

/-- A deletion is discreet if its change of the tables tells whether it has changed them. -/
theorem discreet_delete (operation : Store.Operation) {remove : Store → Bool × Store}
    (accords : (remove engine.store).2 = engine.store.perform operation)
    (absent : (remove engine.store).1 = false →
      (remove engine.store).2.tables = engine.store.tables)
    (check : Except EngineError Unit) (missing : EngineError) (runIds : List String) :
    engine.Discreet (engine.delete check missing runIds remove) := by
  have rests := Rests.delete operation accords check missing runIds
  have written := engine.write_cases fun store => .ok (remove store)
  refine ⟨rests.settles ?_, ?_⟩
  · unfold Engine.delete
    split
    · exact List.suffix_refl _
    · split
      all_goals
        next outcome =>
        have used := refusals_of_written outcome
        exact used
  · intro error failed
    unfold Engine.delete at failed ⊢
    split
    · exact .refl
    · rcases written with ⟨fault, refused⟩ | ⟨value, store, -, accepted, outcome⟩
      · simp only [writeAlways, refused]
        exact ⟨rfl, rfl, rfl, rfl⟩
      · have same : remove engine.store = (value, store) := Except.ok.inj accepted
        rw [same] at absent
        simp only [writeAlways, outcome] at failed ⊢
        cases value with
        | false => exact ⟨absent rfl, rfl, rfl, rfl⟩
        | true => cases failed

theorem discreet_deleteProject (sound : engine.store.tables.Sound) (id : String) :
    engine.Discreet (engine.deleteProject id) :=
  discreet_delete (.deleteProject id) rfl (sound.cascades_removeProject id).absent _ _ _

theorem discreet_deleteTestCase (sound : engine.store.tables.Sound) (id : String) :
    engine.Discreet (engine.deleteTestCase id) :=
  discreet_delete (.deleteTestCase id) rfl (sound.cascades_removeTestCase id).absent _ _ _

end Catalogue

section Tasks

/--
A start that fails gives the slot back, and nobody sees that it was there.
Only if the disk refuses its cleanup, its run is left behind.
-/
theorem conclude_cases_of_error {call : StartCall} {now : Int}
    (sound : engine.store.tables.Sound)
    (held : engine.registry.slot = (Guard.reserved call.reservation).slot)
    {installed : Except String Unit} {error : EngineError}
    (failed : (engine.conclude call installed now).1 = .error error) :
    (engine.conclude call installed now).2.registry.slot = .empty ∧
      (engine.Spares (engine.conclude call installed now).2 ∨
        installed = .ok () ∧ engine.RefusesCleanup call now ∧
          engine.Strands call (engine.conclude call installed now).2) := by
  have released : (engine.registry.release call.reservation).slot = .empty :=
    congrArg Registry.slot (Registry.release_of_held held)
  cases installed with
  | error reason => exact ⟨released, .inl ⟨rfl, rfl, rfl, rfl⟩⟩
  | ok _ =>
    by_cases refuses : engine.RefusesCleanup call now
    · obtain ⟨fault, store, refusals, outcome, new, added⟩ := storeRun_of_refusesCleanup refuses
      have concluded : engine.conclude call (.ok ()) now =
          (.error fault, { engine with store, refusals }.abandon call) := by
        simp only [conclude, outcome]
      rw [concluded]
      exact ⟨released, .inr ⟨rfl, refuses, ⟨_, rfl, rfl, rfl, new, added⟩, rfl, rfl, rfl⟩⟩
    · rcases storeRun_cases sound refuses with
        ⟨fault, store, refusals, outcome, restored⟩ | ⟨store, refusals, outcome, -, -⟩
      · simp only [conclude, outcome]
        exact ⟨released, .inl ⟨restored, rfl, rfl, rfl⟩⟩
      · simp only [conclude, outcome] at failed
        cases failed

/-- A start uses up at most refusals of the disk. -/
theorem refusals_conclude (engine : Engine) (call : StartCall) (installed : Except String Unit)
    (now : Int) : (engine.conclude call installed now).2.refusals <:+ engine.refusals := by
  have stores : (engine.storeRun call now).2.refusals <:+ engine.refusals := by
    unfold storeRun
    simp only
    split
    · next inserted =>
      have first := refusals_of_written inserted
      exact first
    · next inserted =>
      have first := refusals_of_written inserted
      split
      · next left moved =>
        have second := refusals_of_written moved
        have third := refusals_write left fun store => .ok (store.deleteQueuedRun engine.mint.1)
        exact (third.trans second).trans first
      · next moved =>
        have second := refusals_of_written moved
        exact second.trans first
  unfold conclude
  split
  · exact List.suffix_refl _
  · split
    all_goals
      next stored =>
      rw [stored] at stores
      exact stores

theorem refusals_finalize (engine : Engine) (number : Nat) (task : RunTask)
    (fatal : Option String) (failed : Bool) (now : Int) :
    (engine.finalize number task fatal failed now).refusals <:+ engine.refusals := by
  have used := refusals_write engine (·.moveRun now task.run.id
    (finalStatus (engine.registry.cancelRequested task.active) (fatal.isSome || failed)) fatal)
  exact used

theorem refusals_beginStep (engine : Engine) (number : Nat) (task : RunTask) (step : Step)
    (rest : List Step) (now : Int) :
    (engine.beginStep number task step rest now).refusals <:+ engine.refusals := by
  unfold beginStep
  simp only
  split
  · next inserted =>
    have used := refusals_of_written inserted
    exact used
  · next inserted =>
    have used := refusals_of_written inserted
    split <;> exact used

theorem refusals_endStep (engine : Engine) (number : Nat) (task : RunTask) (result : StepResult)
    (failure path : Option String) (rest : List Step) (now : Int) :
    (engine.endStep number task result failure path rest now).refusals <:+ engine.refusals := by
  unfold endStep
  simp only
  split
  all_goals
    next finished =>
    have used := refusals_of_written finished
    exact used

/-- A task uses up at most refusals of the disk. -/
theorem refusals_proceed (engine : Engine) (session : Session) (number : Nat) (now : Int) :
    (engine.proceed session number now).refusals <:+ engine.refusals := by
  unfold proceed
  split
  · exact List.suffix_refl _
  · next task found =>
    cases stage : task.stage with
    | launching =>
      simp only [launched, found, stage]
      split
      · exact refusals_finalize ..
      · exact List.suffix_refl _
    | ready rest =>
      simp only [advance, found, stage]
      cases rest with
      | nil => exact List.suffix_refl _
      | cons step rest =>
        simp only
        split
        · exact List.suffix_refl _
        · exact refusals_beginStep ..
    | acting result action rest =>
      simp only [acted, found, stage]
      exact List.suffix_refl _
    | photographing result failure rest =>
      simp only [photographed, found, stage]
      split
      · exact List.suffix_refl _
      · exact refusals_endStep ..
    | storing result failure picture rest =>
      simp only [stored, found, stage]
      exact refusals_endStep ..
    | closing fault =>
      simp only [closed, found, stage]
      cases fault with
      | none => exact refusals_finalize ..
      | some fault =>
        have first := refusals_write engine fun store =>
          .ok (store.failPending now task.run.id fault)
        exact (refusals_finalize ..).trans first
    | ended run => exact List.suffix_refl _
    | panicked => exact List.suffix_refl _

theorem refusals_brokeDown (engine : Engine) (number : Nat) :
    (engine.brokeDown number).refusals = engine.refusals := by
  unfold brokeDown
  split
  · rfl
  · split <;> rfl

end Tasks

end Engine

/-- What settles leaves the slot to the one start or run that is alive. -/
theorem System.Orderly.settled {system : System} {after : Engine} (orderly : system.Orderly)
    (settles : system.engine.Settles after) : Orderly ⟨after, system.waiting⟩ :=
  (orderly.slot_kept settles.slot).rests ⟨rfl, settles.tasks, settles.sound⟩

end StepRunner
