import StepRunner.Proofs.Store.Apart
import StepRunner.Proofs.Store.Results
import StepRunner.Proofs.Store.Runs
import StepRunner.Proofs.Store.Scripts

/-!
This file tells where the rows after a call of the store come from.
A run and a step result come from an insertion and keep what they are about, and the steps of a test
case come from the script that was written last, with ids that nobody had before.
-/

namespace StepRunner

/-- What a step result is about: the run, the step and the number of the step. -/
def StepResult.subject (result : StepResult) : String × String × Nat :=
  (result.runId, result.stepId, result.order)

namespace Store

/-- A run or a step result that a call inserts has an id that was handed out. -/
def Operation.Handed (minted : Nat) : Operation → Prop
  | .insertRun run => ∃ number < minted, run.id = idOf number
  | .insertResult result => ∃ number < minted, result.id = idOf number
  | _ => True

variable {store : Store} {operation : Operation}

section Soundness

/-- A call that takes only ids that were handed out leaves the coming ids new. -/
theorem Sound.perform (sound : store.Sound) (handed : operation.Handed store.minted) :
    (store.perform operation).Sound := by
  cases operation with
  | mint => exact ⟨sound.tables, fun number later => sound.fresh number (Nat.le_of_succ_le later)⟩
  | createProject now name =>
    exact accepting_map_induction Sound sound fun _ _ created => sound.createProject created
  | createTestCase now projectId title drafts =>
    exact accepting_map_induction Sound sound fun _ _ created => sound.createTestCase created
  | replaceSteps now testCaseId drafts =>
    exact accepting_map_induction Sound sound fun _ _ replaced => sound.replaceSteps replaced
  | deleteProject id => exact sound.deleteProject id
  | deleteTestCase id => exact sound.deleteTestCase id
  | insertRun run =>
    refine accepting_induction Sound sound fun after inserted => ?_
    obtain ⟨new, owned, rfl⟩ := insertRun_eq inserted
    refine ⟨sound.tables.withRun new owned, sound.fresh_of le_rfl fun id present => ?_⟩
    by_cases same : id = run.id
    · exact .inr (same ▸ handed)
    · refine .inl ?_
      simp only [withTables, Tables.ids, List.map_append, List.mem_append] at present ⊢
      simpa [same] using present
  | moveRun now id next error =>
    refine accepting_map_induction Sound sound fun run after moves => ?_
    obtain ⟨row, -, -, -, rfl⟩ := moveRun_eq moves
    exact sound.writeMove run
  | deleteQueuedRun id =>
    refine ⟨tables_perform sound.tables (.deleteQueuedRun id), ?_⟩
    refine sound.fresh_of le_rfl fun other present =>
      .inl (Tables.ids_subset ?_ ?_ ?_ ?_ ?_ present)
    · exact List.Subset.refl _
    · exact List.Subset.refl _
    · exact List.Subset.refl _
    · exact List.map_subset _ List.filter_sublist.subset
    · exact List.map_subset _
        (List.Subset.trans List.filter_sublist.subset List.filter_sublist.subset)
  | recover now =>
    have failed : (store.recoverResults now).Sound :=
      sound.updateResults _ (fun _ => rfl) fun _ => rfl
    refine failed.mapRuns (fun run => ?_) fun run => ?_
    · split <;> rfl
    · split <;> rfl
  | insertResult result =>
    refine accepting_induction Sound sound fun after inserted => ?_
    obtain ⟨new, owned, rfl⟩ := insertResult_eq inserted
    refine ⟨sound.tables.withResult new owned, sound.fresh_of le_rfl fun id present => ?_⟩
    by_cases same : id = result.id
    · exact .inr (same ▸ handed)
    · refine .inl ?_
      simp only [withTables, Tables.ids, List.map_append, List.mem_append] at present ⊢
      simpa [same] using present
  | finishResult outcome =>
    refine accepting_induction Sound sound fun after finished => ?_
    rw [finishResult_eq finished]
    exact sound.updateResults _ (fun _ => rfl) fun _ => rfl
  | failPending now runId error => exact sound.updateResults _ (fun _ => rfl) fun _ => rfl

end Soundness

section Ids

/-- An id is not among those that are still to be handed out. -/
def Spent (store : Store) (id : String) : Prop :=
  ∀ number, store.minted ≤ number → id ≠ idOf number

theorem Sound.spent (sound : store.Sound) {id : String} (present : id ∈ store.tables.ids) :
    store.Spent id :=
  fun number coming same => sound.fresh number coming (same ▸ present)

theorem Sound.spent_testCase (sound : store.Sound) {id : String}
    (known : id ∈ store.tables.testCases.map TestCase.id) : store.Spent id := by
  refine sound.spent ?_
  simp only [Tables.ids, List.mem_append]
  exact .inl (.inl (.inl (.inr known)))

theorem Sound.spent_step (sound : store.Sound) {step : Step} (stored : step ∈ store.tables.steps) :
    store.Spent step.id := by
  refine sound.spent ?_
  simp only [Tables.ids, List.mem_append]
  exact .inl (.inl (.inr (List.mem_map_of_mem stored)))

theorem Sound.spent_run (sound : store.Sound) {id : String}
    (stored : id ∈ store.tables.runs.map Run.id) : store.Spent id := by
  refine sound.spent ?_
  simp only [Tables.ids, List.mem_append]
  exact .inl (.inr stored)

theorem Spent.later {after : Store} {id : String} (spent : store.Spent id)
    (later : store.minted ≤ after.minted) : after.Spent id :=
  fun number coming => spent number (later.trans coming)

end Ids

section Runs

/-- A run keeps its test case. -/
theorem Operation.Changes.testCaseId_eq {run row : Run} (changes : operation.Changes run row) :
    row.testCaseId = run.testCaseId := by
  cases changes <;> rfl

/-- A run stays until its test case goes, unless it is withdrawn while it is queued. -/
theorem stays_perform (sound : store.tables.Sound) {run : Run} (present : run ∈ store.tables.runs)
    (kept : operation ≠ .deleteQueuedRun run.id)
    (known : run.testCaseId ∈ (store.perform operation).tables.testCases.map TestCase.id) :
    ∃ row ∈ (store.perform operation).tables.runs,
      row.id = run.id ∧ row.testCaseId = run.testCaseId := by
  rcases (alters_perform sound operation).fate run present with
    ⟨row, among, changes⟩ | deletes | ⟨withdraws, -⟩
  · exact ⟨row, among, changes.id_eq, changes.testCaseId_eq⟩
  · obtain ⟨testCase, among, named⟩ := List.mem_map.1 known
    cases operation with
    | deleteTestCase id =>
      have other := (List.mem_filter.1 among).2
      have same : run.testCaseId = id := deletes
      simp [named, same] at other
    | deleteProject id =>
      obtain ⟨stored, other⟩ := List.mem_filter.1 among
      obtain ⟨owned, found, same, owner⟩ := deletes
      obtain rfl := Rows.eq_of_key_eq sound.keyed.testCases found stored (same.trans named.symm)
      simp [owner] at other
    | _ => cases deletes
  · exact absurd withdraws kept

end Runs

section Results

/-- What the step results are about. -/
def subjects (store : Store) : List (String × String × Nat) :=
  store.tables.results.map StepResult.subject

/-- Results that change at their places stay about the same. -/
theorem subjects_updateResults (store : Store) {test : StepResult → Bool}
    {change : StepResult → StepResult} (same : ∀ result, (change result).subject = result.subject) :
    (store.withTables (store.tables.updateResults test change)).subjects ⊆ store.subjects := by
  intro subject present
  obtain ⟨row, among, rfl⟩ := List.mem_map.1 present
  obtain ⟨result, old, rfl⟩ := List.mem_map.1 among
  have about : (if test result then change result else result).subject = result.subject := by
    split
    · exact same result
    · rfl
  rw [about]
  exact List.mem_map_of_mem old

theorem subjects_recoverResults (store : Store) (now : Int) :
    (store.recoverResults now).subjects ⊆ store.subjects :=
  subjects_updateResults store fun _ => rfl

/-- Only an insertion adds a step result, and no call changes what one is about. -/
theorem subjects_perform (operation : Operation)
    (other : ∀ result, operation ≠ .insertResult result) :
    (store.perform operation).subjects ⊆ store.subjects := by
  have still : store.subjects ⊆ store.subjects := List.Subset.refl _
  cases operation with
  | mint => exact still
  | createProject now name =>
    refine accepting_map_induction (·.subjects ⊆ store.subjects) still
      fun project after created => ?_
    obtain ⟨-, -, rfl⟩ := createProject_eq created
    exact still
  | createTestCase now projectId title drafts =>
    refine accepting_map_induction (·.subjects ⊆ store.subjects) still fun made after created => ?_
    rw [subjects, (results_createTestCase created).1]
    exact still
  | replaceSteps now testCaseId drafts =>
    refine accepting_map_induction (·.subjects ⊆ store.subjects) still
      fun steps after replaced => ?_
    rw [subjects, (results_replaceSteps replaced).1]
    exact still
  | deleteProject id => exact List.map_subset _ List.filter_sublist.subset
  | deleteTestCase id => exact List.map_subset _ List.filter_sublist.subset
  | insertRun run =>
    refine accepting_induction (·.subjects ⊆ store.subjects) still fun after inserted => ?_
    obtain ⟨-, -, rfl⟩ := insertRun_eq inserted
    exact still
  | moveRun now id next error =>
    refine accepting_map_induction (·.subjects ⊆ store.subjects) still fun run after moves => ?_
    obtain ⟨row, -, -, -, rfl⟩ := moveRun_eq moves
    exact still
  | deleteQueuedRun id =>
    exact List.map_subset _
      (List.Subset.trans List.filter_sublist.subset List.filter_sublist.subset)
  | recover now => exact subjects_recoverResults store now
  | insertResult result => exact absurd rfl (other result)
  | finishResult outcome =>
    refine accepting_induction (·.subjects ⊆ store.subjects) still fun after finished => ?_
    rw [finishResult_eq finished]
    exact subjects_updateResults store fun _ => rfl
  | failPending now runId error =>
    exact subjects_updateResults store fun _ => rfl

/-- A step result is inserted for a run that is stored. -/
theorem subjects_insertResult (store : Store) (result : StepResult) :
    ∀ subject ∈ (store.perform (.insertResult result)).subjects, subject ∈ store.subjects ∨
      subject = result.subject ∧ result.runId ∈ store.tables.runs.map Run.id := by
  refine accepting_induction (fun after => ∀ subject ∈ after.subjects, subject ∈ store.subjects ∨
    subject = result.subject ∧ result.runId ∈ store.tables.runs.map Run.id) (fun _ => .inl)
    fun after inserted subject present => ?_
  obtain ⟨-, ⟨run, owned, same⟩, rfl⟩ := insertResult_eq inserted
  rw [subjects, withTables, List.map_append, List.mem_append] at present
  rcases present with old | new
  · exact .inl old
  · exact .inr ⟨List.mem_singleton.1 new, List.mem_map.2 ⟨run, owned, same⟩⟩

end Results

section Steps

/-- The creation of a test case writes its script. -/
theorem script?_createTestCase_eq_some {now : Int} {projectId title id : String}
    {drafts script : List StepDraft} :
    (Operation.createTestCase now projectId title drafts).script? store id = some script ↔
      ∃ testCase steps after,
        store.createTestCase now projectId title drafts = .ok ((testCase, steps), after) ∧
          testCase.id = id ∧ drafts = script := by
  rw [Operation.script?]
  cases created : store.createTestCase now projectId title drafts with
  | error fault => simp
  | ok made =>
    obtain ⟨⟨testCase, steps⟩, after⟩ := made
    simp

/-- A replacement writes the script of its test case. -/
theorem script?_replaceSteps_eq_some {now : Int} {testCaseId id : String}
    {drafts script : List StepDraft} :
    (Operation.replaceSteps now testCaseId drafts).script? store id = some script ↔
      ∃ steps after, store.replaceSteps now testCaseId drafts = .ok (steps, after) ∧
        testCaseId = id ∧ drafts = script := by
  rw [Operation.script?]
  cases replaced : store.replaceSteps now testCaseId drafts with
  | error fault => simp
  | ok made =>
    obtain ⟨steps, after⟩ := made
    simp

/-- A test case that no call has written for keeps its steps. -/
theorem listSteps_perform (sound : store.tables.Sound) (operation : Operation)
    {testCase : TestCase} (present : testCase ∈ (store.perform operation).tables.testCases)
    (unwritten : operation.script? store testCase.id = none) :
    (store.perform operation).tables.listSteps testCase.id =
      store.tables.listSteps testCase.id := by
  by_cases records : operation.records = true
  · have steps : (store.perform operation).tables.catalogue = store.tables.catalogue :=
      catalogue_perform records
    have same := congrArg Tables.steps steps
    simp only [Tables.catalogue] at same
    simp only [Tables.listSteps, same]
  cases operation with
  | mint => rfl
  | createProject now name =>
    refine accepting_map_induction (·.tables.listSteps _ = _) rfl fun project after created => ?_
    obtain ⟨-, -, rfl⟩ := createProject_eq created
    rfl
  | createTestCase now projectId title drafts =>
    cases created : store.createTestCase now projectId title drafts with
    | error fault =>
      rw [perform, created]
      rfl
    | ok made =>
      simp only [Operation.script?, created] at unwritten
      have other : testCase.id ≠ made.1.1.id := fun same => by simp [same] at unwritten
      rw [perform, created]
      exact (listSteps_createTestCase sound created testCase.id).trans (if_neg other)
  | replaceSteps now testCaseId drafts =>
    cases replaced : store.replaceSteps now testCaseId drafts with
    | error fault =>
      rw [perform, replaced]
      rfl
    | ok made =>
      simp only [Operation.script?, replaced] at unwritten
      have other : testCase.id ≠ testCaseId := fun same => by simp [same] at unwritten
      rw [perform, replaced]
      exact (listSteps_replaceSteps sound replaced testCase.id).trans (if_neg other)
  | deleteProject id => exact listSteps_removeTestCases sound.keyed _ present
  | deleteTestCase id => exact listSteps_removeTestCases sound.keyed _ present
  | _ => exact absurd rfl records

/-- A test case was there before the call, or it has the id that was handed out for it. -/
theorem known_perform (sound : store.tables.Sound) (operation : Operation) {id : String}
    (known : id ∈ (store.perform operation).tables.testCases.map TestCase.id) :
    id ∈ store.tables.testCases.map TestCase.id ∨ id = idOf store.minted := by
  obtain ⟨testCase, present, rfl⟩ := List.mem_map.1 known
  cases written : operation.script? store testCase.id with
  | none => exact .inl ((writes_perform sound operation).origin testCase present written)
  | some drafts =>
    cases operation with
    | createTestCase now projectId title drafts =>
      obtain ⟨made, steps, after, created, same, -⟩ := script?_createTestCase_eq_some.1 written
      exact .inr (same ▸ (createTestCase_eq created).1)
    | replaceSteps now testCaseId drafts =>
      obtain ⟨steps, after, replaced, rfl, -⟩ := script?_replaceSteps_eq_some.1 written
      exact .inl (replaceSteps_eq replaced).1
    | _ => cases written

/-- The steps that are drafted for a script have ids that were still to be handed out. -/
theorem draftSteps_unspent {id : String} {drafts : List StepDraft} {step : Step}
    (drafted : step ∈ store.draftSteps id drafts) : ¬store.Spent step.id := by
  simp only [draftSteps, List.mem_map] at drafted
  obtain ⟨⟨draft, index⟩, -, rfl⟩ := drafted
  exact fun spent => spent (store.minted + index) (Nat.le_add_right _ _) rfl

/-- A script that is written is drafted with ids that were still to be handed out. -/
theorem drafted_perform (sound : store.tables.Sound) {id : String} {drafts : List StepDraft}
    (written : operation.script? store id = some drafts) :
    ∃ middle : Store, store.minted ≤ middle.minted ∧
      (store.perform operation).tables.listSteps id = middle.draftSteps id drafts := by
  cases operation with
  | createTestCase now projectId title drafts =>
    obtain ⟨testCase, steps, after, created, rfl, rfl⟩ := script?_createTestCase_eq_some.1 written
    obtain ⟨-, tables, -, inserted⟩ := createTestCase_eq created
    refine ⟨⟨tables, store.minted + 1⟩, Nat.le_succ _, ?_⟩
    rw [← (insertSteps_eq inserted).1, perform, created]
    exact (listSteps_createTestCase sound created testCase.id).trans (if_pos rfl)
  | replaceSteps now testCaseId drafts =>
    obtain ⟨steps, after, replaced, rfl, rfl⟩ := script?_replaceSteps_eq_some.1 written
    have drafted : steps = store.draftSteps testCaseId drafts :=
      (insertSteps_eq (replaceSteps_eq replaced).2).1
    refine ⟨store, le_rfl, ?_⟩
    rw [← drafted, perform, replaced]
    exact (listSteps_replaceSteps sound replaced testCaseId).trans (if_pos rfl)
  | _ => cases written

end Steps

end Store

end StepRunner
