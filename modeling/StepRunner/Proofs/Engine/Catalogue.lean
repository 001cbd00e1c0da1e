import StepRunner.Proofs.Engine.Pieces

/-!
This file shows that the operations on projects and test cases happen aside of the start or the run
that holds the slot.
-/

namespace StepRunner

/-- A change of the store that adds and alters no run, and spares the runs of the slot's holder. -/
structure Store.Aside (registry : Registry) (before after : Store) : Prop where
  sound : after.Sound
  minted : before.minted ≤ after.minted
  runs : after.tables.runs ⊆ before.tables.runs
  spared : ∀ projectId testCaseId, registry.holdsProject projectId = true →
    registry.holdsTestCase testCaseId = true → before.tables.Owns projectId testCaseId →
    before.tables.Spares after.tables projectId testCaseId

namespace Store.Aside

variable {registry : Registry} {before after : Store}

theorem refl (sound : before.Sound) : Aside registry before before where
  sound := sound
  minted := le_rfl
  runs := List.Subset.refl _
  spared := fun _ _ _ _ _ => .refl

/-- A change that spares every test case happens aside. -/
theorem of_spares (sound : after.Sound) (minted : before.minted ≤ after.minted)
    (spares : ∀ projectId testCaseId, before.tables.Spares after.tables projectId testCaseId) :
    Aside registry before after where
  sound := sound
  minted := minted
  runs := (spares "" "").runs_subset
  spared := fun projectId testCaseId _ _ _ => spares projectId testCaseId

theorem createProject (sound : before.Sound) {now : Int} {name : String} {project : Project}
    (created : before.createProject now name = .ok (project, after)) :
    Aside registry before after := by
  refine .of_spares (sound.createProject created) ?_ fun _ _ => createProject_spares created
  obtain ⟨-, -, rfl⟩ := createProject_eq created
  exact Nat.le_succ _

theorem createTestCase (sound : before.Sound) {now : Int} {projectId title : String}
    {drafts : List StepDraft} {made : TestCase × List Step}
    (created : before.createTestCase now projectId title drafts = .ok (made, after)) :
    Aside registry before after := by
  refine .of_spares (sound.createTestCase created) ?_ fun _ _ => createTestCase_spares created
  obtain ⟨testCase, steps⟩ := made
  obtain ⟨-, tables, -, inserted⟩ := createTestCase_eq created
  have minted := (insertSteps_eq inserted).2.2
  simp only at minted
  omega

theorem replaceSteps (sound : before.Sound) {now : Int} {id : String} {drafts : List StepDraft}
    {steps : List Step} (replaced : before.replaceSteps now id drafts = .ok (steps, after)) :
    Aside registry before after := by
  refine .of_spares (sound.replaceSteps replaced) ?_ fun _ _ => replaceSteps_spares replaced
  obtain ⟨-, inserted⟩ := replaceSteps_eq replaced
  have minted := (insertSteps_eq inserted).2.2
  simp only [withTables] at minted
  omega

/-- A project that the slot does not belong to is deleted aside. -/
theorem deleteProject (sound : before.Sound) {id : String}
    (free : registry.holdsProject id = false) :
    Aside registry before (before.deleteProject id).2 where
  sound := sound.deleteProject id
  minted := le_rfl
  runs := List.filter_sublist.subset
  spared := by
    intro projectId testCaseId held _ owned
    refine .removeProject sound.tables.keyed owned ?_
    rintro rfl
    simp [held] at free

/-- A test case that the slot does not belong to is deleted aside. -/
theorem deleteTestCase (sound : before.Sound) {id : String}
    (free : registry.holdsTestCase id = false) :
    Aside registry before (before.deleteTestCase id).2 where
  sound := sound.deleteTestCase id
  minted := le_rfl
  runs := List.filter_sublist.subset
  spared := by
    intro projectId testCaseId _ held _
    refine .removeTestCases sound.tables.keyed ?_
    rintro testCase - rfl
    rw [decide_eq_false_iff_not]
    rintro rfl
    simp [held] at free

end Store.Aside

namespace Engine

/-- The engine changes aside of the start or the run that holds the slot. -/
def Beside (before after : Engine) : Prop :=
  ∃ store installs artifacts, Store.Aside before.registry before.store store ∧
    after = { before with store, installs, artifacts }

variable {engine : Engine}

theorem Beside.refl (sound : engine.store.Sound) : engine.Beside engine :=
  ⟨engine.store, engine.installs, engine.artifacts, .refl sound, rfl⟩

theorem Beside.write {α : Type} (reliable : engine.refusals = []) (sound : engine.store.Sound)
    {change : Store → Except StoreError (α × Store)}
    (aside : ∀ value store, change engine.store = .ok (value, store) →
      Store.Aside engine.registry engine.store store) :
    engine.Beside (engine.write change).2 := by
  cases outcome : change engine.store with
  | error error =>
    rw [write_of_refused reliable outcome]
    exact .refl sound
  | ok result =>
    obtain ⟨value, store⟩ := result
    rw [write_of_accepted reliable outcome]
    exact ⟨store, engine.installs, engine.artifacts, aside value store outcome, rfl⟩

theorem Beside.createProject (reliable : engine.refusals = []) (sound : engine.store.Sound)
    (now : Int) (name : String) : engine.Beside (engine.createProject now name).2 :=
  .write reliable sound fun _ _ created => .createProject sound created

theorem Beside.createTestCase (reliable : engine.refusals = []) (sound : engine.store.Sound)
    (now : Int) (projectId title : String) (lines : List String) :
    engine.Beside (engine.createTestCase now projectId title lines).2 := by
  unfold Engine.createTestCase
  split
  · exact .refl sound
  · exact .write reliable sound fun _ _ created => .createTestCase sound created

theorem Beside.updateSteps (reliable : engine.refusals = []) (sound : engine.store.Sound)
    (now : Int) (testCaseId : String) (lines : List String) :
    engine.Beside (engine.updateSteps now testCaseId lines).2 := by
  unfold Engine.updateSteps
  split
  · exact .refl sound
  · exact .write reliable sound fun _ _ replaced => .replaceSteps sound replaced

/-- A deletion that its guard allows happens aside, and so does one that the guard forbids. -/
theorem Beside.delete (reliable : engine.refusals = []) (sound : engine.store.Sound)
    {guarded : Except EngineError Unit} {missing : EngineError} {runIds : List String}
    {remove : Store → Bool × Store}
    (aside : guarded = .ok () →
      Store.Aside engine.registry engine.store (remove engine.store).2) :
    engine.Beside (engine.delete guarded missing runIds remove).2 := by
  cases allowed : guarded with
  | error error => exact .refl sound
  | ok _ =>
    have removes : engine.write (fun store => .ok (remove store)) =
        (.ok (remove engine.store).1, { engine with store := (remove engine.store).2 }) :=
      write_of_accepted reliable rfl
    simp only [Engine.delete, writeAlways, removes]
    cases (remove engine.store).1 with
    | false => exact ⟨_, engine.installs, engine.artifacts, aside allowed, rfl⟩
    | true => exact ⟨_, engine.installs, _, aside allowed, rfl⟩

theorem Beside.deleteProject (reliable : engine.refusals = []) (sound : engine.store.Sound)
    (id : String) : engine.Beside (engine.deleteProject id).2 :=
  .delete reliable sound fun allowed =>
    .deleteProject sound (Registry.checkProject_eq_ok_iff.1 allowed)

theorem Beside.deleteTestCase (reliable : engine.refusals = []) (sound : engine.store.Sound)
    (id : String) : engine.Beside (engine.deleteTestCase id).2 :=
  .delete reliable sound fun allowed =>
    .deleteTestCase sound (Registry.checkTestCase_eq_ok_iff.1 allowed)

end Engine

end StepRunner
