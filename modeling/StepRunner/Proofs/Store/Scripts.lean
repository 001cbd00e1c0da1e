import StepRunner.Proofs.Store.Operations

/-!
This file follows the script of a test case through a sequence of calls.
The stored script is always the one that was written last.
-/

namespace StepRunner

/-- The content of a stored step. -/
def Step.draft (step : Step) : StepDraft := ⟨step.rawText, step.storedAction⟩

/-- The content of the steps of a test case in their order. -/
def Tables.script (tables : Tables) (testCaseId : String) : List StepDraft :=
  (tables.listSteps testCaseId).map Step.draft

namespace Store

/-- The script that a call writes for a test case, if the call succeeds in it. -/
def Operation.script? (store : Store) (id : String) : Operation → Option (List StepDraft)
  | .createTestCase now projectId title drafts =>
    match store.createTestCase now projectId title drafts with
    | .ok ((testCase, _), _) => if testCase.id = id then some drafts else none
    | .error _ => none
  | .replaceSteps now testCaseId drafts =>
    match store.replaceSteps now testCaseId drafts with
    | .ok _ => if testCaseId = id then some drafts else none
    | .error _ => none
  | _ => none

/-- The last script that a sequence of calls has written for a test case. -/
def lastScript? (store : Store) (id : String) : List Operation → Option (List StepDraft)
  | [] => none
  | operation :: later =>
    (lastScript? (store.perform operation) id later).or (operation.script? store id)

/-- What a sequence of calls that writes some scripts makes of the scripts of the test cases. -/
structure Writes (script? : String → Option (List StepDraft)) (before after : Tables) : Prop where
  /-- A test case that no call has written for was there before. -/
  origin : ∀ testCase ∈ after.testCases, script? testCase.id = none →
    testCase.id ∈ before.testCases.map TestCase.id
  content : ∀ testCase ∈ after.testCases,
    after.script testCase.id = (script? testCase.id).getD (before.script testCase.id)

variable {store after : Store} {tables : Tables}

section Calls

/-- A call that leaves the test cases and the steps alone writes nothing. -/
theorem Writes.of_same {before : Tables}
    (testCases : tables.testCases.map TestCase.id ⊆ before.testCases.map TestCase.id)
    (steps : tables.steps = before.steps) : Writes (fun _ => none) before tables where
  origin testCase present _ := testCases (List.mem_map_of_mem present)
  content testCase _ := by simp only [Tables.script, Tables.listSteps, steps, Option.getD_none]

theorem draftSteps_drafts (store : Store) (id : String) (drafts : List StepDraft) :
    (store.draftSteps id drafts).map Step.draft = drafts := by
  simp only [draftSteps, List.map_map]
  have contents : drafts.zipIdx.map Prod.fst = drafts := List.zipIdx_map_fst _ _
  conv_rhs => rw [← contents]
  rfl

/-- The steps that are added to a test case without steps are all that it has. -/
theorem listSteps_insertSteps {id : String} {drafts : List StepDraft} {steps : List Step}
    (bare : ∀ step ∈ store.tables.steps, step.testCaseId ≠ id)
    (inserted : store.insertSteps id drafts = .ok (steps, after)) (other : String) :
    after.tables.listSteps other = if other = id then steps else store.tables.listSteps other := by
  obtain ⟨rfl, added, -⟩ := insertSteps_eq inserted
  have own (step : Step) (drafted : step ∈ store.draftSteps id drafts) : step.testCaseId = id :=
    (draftSteps_own drafted).1
  rw [(addSteps_eq added).1]
  split
  · next same =>
    rw [same]
    exact Tables.listSteps_append_own bare own (draftSteps_orders id drafts)
  · next different => exact Tables.listSteps_append_other own different

/-- A test case that is created has the steps that come with it, and the others keep theirs. -/
theorem listSteps_createTestCase (sound : store.tables.Sound) {now : Int} {projectId title : String}
    {drafts : List StepDraft} {testCase : TestCase} {steps : List Step}
    (created : store.createTestCase now projectId title drafts = .ok ((testCase, steps), after))
    (other : String) : after.tables.listSteps other =
      if other = testCase.id then steps else store.tables.listSteps other := by
  obtain ⟨-, tables, added, inserted⟩ := createTestCase_eq created
  obtain ⟨new, -, rfl⟩ := Tables.addTestCase_eq added
  exact listSteps_insertSteps (by exact sound.bare_of_new new) inserted other

/-- A test case whose steps are replaced has the new ones, and the others keep theirs. -/
theorem listSteps_replaceSteps (sound : store.tables.Sound) {now : Int} {testCaseId : String}
    {drafts : List StepDraft} {steps : List Step}
    (replaced : store.replaceSteps now testCaseId drafts = .ok (steps, after)) (other : String) :
    after.tables.listSteps other =
      if other = testCaseId then steps else store.tables.listSteps other := by
  obtain ⟨-, -, bare, -⟩ := replaceSteps_ready sound replaced
  rw [listSteps_insertSteps bare (replaceSteps_eq replaced).2]
  split
  · rfl
  · next different =>
    have cleared := Tables.listSteps_filter store.tables (fun id => decide (id ≠ testCaseId)) other
    rw [if_pos (by simpa using different)] at cleared
    exact cleared

theorem writes_createTestCase (sound : store.tables.Sound) {now : Int} {projectId title : String}
    {drafts : List StepDraft} {testCase : TestCase} {steps : List Step}
    (created : store.createTestCase now projectId title drafts = .ok ((testCase, steps), after)) :
    Writes (fun id => if testCase.id = id then some drafts else none) store.tables
      after.tables := by
  obtain ⟨-, tables, added, inserted⟩ := createTestCase_eq created
  obtain ⟨-, -, rfl⟩ := Tables.addTestCase_eq added
  obtain ⟨drafted, stored, -⟩ := insertSteps_eq inserted
  have testCases : after.tables.testCases = store.tables.testCases ++ [testCase] := by
    rw [(addSteps_eq stored).1]
  constructor
  · intro other present unwritten
    rw [testCases] at present
    rcases List.mem_append.1 present with old | added
    · exact List.mem_map_of_mem old
    · simp [List.mem_singleton.1 added] at unwritten
  · intro other _
    rw [Tables.script, listSteps_createTestCase sound created]
    by_cases same : other.id = testCase.id
    · rw [if_pos same, if_pos same.symm, drafted]
      exact draftSteps_drafts _ _ drafts
    · rw [if_neg same, if_neg (Ne.symm same)]
      rfl

theorem writes_replaceSteps {now : Int} {testCaseId : String} {drafts : List StepDraft}
    {steps : List Step} (sound : store.tables.Sound)
    (replaced : store.replaceSteps now testCaseId drafts = .ok (steps, after)) :
    Writes (fun id => if testCaseId = id then some drafts else none)
      store.tables after.tables := by
  obtain ⟨-, -, -, kept⟩ := replaceSteps_ready sound replaced
  obtain ⟨drafted, stored, -⟩ := insertSteps_eq (replaceSteps_eq replaced).2
  have ids : after.tables.testCases.map TestCase.id =
      store.tables.testCases.map TestCase.id := by
    rw [(addSteps_eq stored).1]
    exact kept
  constructor
  · intro other present _
    exact ids ▸ List.mem_map_of_mem present
  · intro other _
    rw [Tables.script, listSteps_replaceSteps sound replaced]
    by_cases same : other.id = testCaseId
    · rw [if_pos same, if_pos same.symm, drafted]
      exact draftSteps_drafts _ _ drafts
    · rw [if_neg same, if_neg (Ne.symm same)]
      rfl

/-- The removal of test cases leaves the steps of the others alone. -/
theorem listSteps_removeTestCases (keyed : tables.Keyed) (test : TestCase → Bool)
    {testCase : TestCase} (present : testCase ∈ (tables.removeTestCases test).testCases) :
    (tables.removeTestCases test).listSteps testCase.id = tables.listSteps testCase.id := by
  obtain ⟨among, kept⟩ := List.mem_filter.1 present
  have stays : testCase.id ∉ (tables.testCases.filter test).map TestCase.id := by
    intro removed
    obtain ⟨other, chosen, same⟩ := List.mem_map.1 removed
    obtain ⟨present, tested⟩ := List.mem_filter.1 chosen
    obtain rfl := Rows.eq_of_key_eq keyed.testCases present among same
    simp [tested] at kept
  have listed := Tables.listSteps_filter tables
    (fun id => !((tables.testCases.filter test).map TestCase.id).contains id) testCase.id
  rw [if_pos (by simpa using stays)] at listed
  exact listed

/-- The removal of test cases leaves the scripts of the others alone. -/
theorem writes_removeTestCases (keyed : store.tables.Keyed) (test : TestCase → Bool) :
    Writes (fun _ => none) store.tables (store.tables.removeTestCases test) := by
  constructor
  · intro testCase present _
    exact List.mem_map_of_mem (List.mem_filter.1 present).1
  · intro testCase present
    exact congrArg (List.map Step.draft) (listSteps_removeTestCases keyed test present)

/-- A refused call writes nothing. -/
theorem Writes.refl (store : Store) : Writes (fun _ => none) store.tables store.tables :=
  .of_same (List.Subset.refl _) rfl

/-- Every call writes the script that it is given, or none. -/
theorem writes_perform (sound : store.tables.Sound) (operation : Operation) :
    Writes (operation.script? store) store.tables (store.perform operation).tables := by
  cases operation with
  | createTestCase now projectId title drafts =>
    cases created : store.createTestCase now projectId title drafts with
    | error fault =>
      simp only [Store.perform, Operation.script?, created]
      exact .refl store
    | ok made =>
      simp only [Store.perform, Operation.script?, created]
      exact writes_createTestCase sound created
  | replaceSteps now testCaseId drafts =>
    cases replaced : store.replaceSteps now testCaseId drafts with
    | error fault =>
      simp only [Store.perform, Operation.script?, replaced]
      exact .refl store
    | ok made =>
      simp only [Store.perform, Operation.script?, replaced]
      exact writes_replaceSteps sound replaced
  | deleteProject id =>
    have removed := writes_removeTestCases sound.keyed fun testCase =>
      decide (testCase.projectId = id)
    exact ⟨removed.origin, removed.content⟩
  | deleteTestCase id => exact writes_removeTestCases sound.keyed _
  | createProject now name =>
    refine accepting_map_induction (Writes _ store.tables ·.tables) (.refl store)
      fun project after created => ?_
    obtain ⟨-, -, rfl⟩ := createProject_eq created
    exact .of_same (List.Subset.refl _) rfl
  | insertRun run =>
    refine accepting_induction (Writes _ store.tables ·.tables) (.refl store)
      fun after inserted => ?_
    obtain ⟨-, -, rfl⟩ := insertRun_eq inserted
    exact .of_same (List.Subset.refl _) rfl
  | moveRun now id next error =>
    refine accepting_map_induction (Writes _ store.tables ·.tables) (.refl store)
      fun run after moves => ?_
    obtain ⟨row, -, -, -, rfl⟩ := moveRun_eq moves
    exact .of_same (List.Subset.refl _) rfl
  | insertResult result =>
    refine accepting_induction (Writes _ store.tables ·.tables) (.refl store)
      fun after inserted => ?_
    obtain ⟨-, -, rfl⟩ := insertResult_eq inserted
    exact .of_same (List.Subset.refl _) rfl
  | finishResult outcome =>
    refine accepting_induction (Writes _ store.tables ·.tables) (.refl store)
      fun after finished => ?_
    rw [finishResult_eq finished]
    exact .of_same (List.Subset.refl _) rfl
  | mint => exact .of_same (List.Subset.refl _) rfl
  | deleteQueuedRun id => exact .of_same (List.Subset.refl _) rfl
  | recover now => exact .of_same (List.Subset.refl _) rfl
  | failPending now runId error => exact .of_same (List.Subset.refl _) rfl

end Calls

/-- What is written later counts. -/
theorem Writes.trans {before middle after : Tables}
    {first second : String → Option (List StepDraft)} (earlier : Writes first before middle)
    (later : Writes second middle after) :
    Writes (fun id => (second id).or (first id)) before after where
  origin testCase present unwritten := by
    obtain ⟨afterwards, before⟩ := Option.or_eq_none_iff.1 unwritten
    obtain ⟨old, among, same⟩ := List.mem_map.1 (later.origin testCase present afterwards)
    exact same ▸ earlier.origin old among (same ▸ before)
  content testCase present := by
    rw [later.content testCase present]
    cases written : second testCase.id with
    | some script => rfl
    | none =>
      obtain ⟨old, among, same⟩ := List.mem_map.1 (later.origin testCase present written)
      simpa [same] using earlier.content old among

/-- A sequence of calls leaves each test case with the last script that was written for it. -/
theorem writes_performAll (sound : store.tables.Sound) (operations : List Operation) :
    Writes (fun id => lastScript? store id operations) store.tables
      (store.performAll operations).tables := by
  induction operations generalizing store with
  | nil => exact .refl store
  | cons operation operations inductionHypothesis =>
    have first := writes_perform sound operation
    have others := inductionHypothesis (tables_perform sound operation)
    exact first.trans others

end Store

end StepRunner
