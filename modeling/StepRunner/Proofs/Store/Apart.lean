import StepRunner.Proofs.Store.Operations

/-!
This file looks at the store apart from the script of one test case.
A call that does not write this script does the same whether or not the script is left out.
-/

namespace StepRunner

/-- A test case with the instant of its last change, if it has an id. -/
def TestCase.stamped (testCase : TestCase) (id : String) (now : Int) : TestCase :=
  if testCase.id = id then { testCase with updatedAt := now } else testCase

@[simp] theorem TestCase.stamped_id (testCase : TestCase) (id : String) (now : Int) :
    (testCase.stamped id now).id = testCase.id := by
  unfold stamped
  split <;> rfl

@[simp] theorem TestCase.stamped_projectId (testCase : TestCase) (id : String) (now : Int) :
    (testCase.stamped id now).projectId = testCase.projectId := by
  unfold stamped
  split <;> rfl

theorem TestCase.stamped_stamped (testCase : TestCase) (id : String) (now later : Int) :
    (testCase.stamped id now).stamped id later = testCase.stamped id later := by
  by_cases own : testCase.id = id <;> simp [stamped, own]

theorem TestCase.stamped_comm (testCase : TestCase) {id other : String} (different : other ≠ id)
    (now then_ : Int) :
    (testCase.stamped other now).stamped id then_ =
      (testCase.stamped id then_).stamped other now := by
  by_cases own : testCase.id = id
  · simp [stamped, own, Ne.symm different]
  · by_cases others : testCase.id = other <;> simp [stamped, own, others, different]

/-- The rows without the steps of a test case, which was last changed at an instant. -/
def Tables.cleared (tables : Tables) (id : String) (now : Int) : Tables :=
  { tables with
    testCases := tables.testCases.map (·.stamped id now)
    steps := tables.steps.filter fun step => step.testCaseId ≠ id }

/-- The rows apart from the steps of a test case and the instant of its last change. -/
def Tables.apart (tables : Tables) (id : String) : Tables := tables.cleared id 0

/-- The store apart from the steps of a test case and the instant of its last change. -/
def Store.apart (store : Store) (id : String) : Store :=
  store.withTables (store.tables.apart id)

/-- The projects, the test cases and the steps, as if there had never been a run. -/
def Tables.catalogue (tables : Tables) : Tables := { tables with runs := [], results := [] }

/-- The store with its projects, test cases and steps, as if there had never been a run. -/
def Store.catalogue (store : Store) : Store := store.withTables store.tables.catalogue

namespace Store

variable {store after : Store} {testCaseId : String}

/-- What a call gives, with the script of a test case left out of the store. -/
def leave {α : Type} (testCaseId : String) (outcome : Except StoreError (α × Store)) :
    Except StoreError (α × Store) :=
  outcome.map (Prod.map id (·.apart testCaseId))

section Lookup

variable (tables : Tables) (id : String) (now : Int)

theorem testCase?_cleared (other : String) :
    (tables.cleared id now).testCase? other = (tables.testCase? other).map (·.stamped id now) := by
  simp only [Tables.testCase?, Tables.cleared, List.find?_map, Function.comp_def,
    TestCase.stamped_id]

@[simp] theorem isNone_testCase?_cleared (other : String) :
    ((tables.cleared id now).testCase? other).isNone = (tables.testCase? other).isNone := by
  rw [testCase?_cleared, Option.isNone_map]

@[simp] theorem isSome_testCase?_cleared (other : String) :
    ((tables.cleared id now).testCase? other).isSome = (tables.testCase? other).isSome := by
  rw [testCase?_cleared, Option.isSome_map]

/-- The runs of a project are the same whatever the scripts are. -/
theorem runIdsOfProject_cleared (projectId : String) :
    (tables.cleared id now).runIdsOfProject projectId = tables.runIdsOfProject projectId := by
  simp only [Tables.runIdsOfProject, Tables.cleared, List.any_map, Function.comp_def,
    TestCase.stamped_id, TestCase.stamped_projectId]

end Lookup

section Runs

/-! Calls on runs and step results look at test cases only to see whether they exist. -/

theorem apart_insertRun (store : Store) (testCaseId : String) (run : Run) :
    (store.insertRun run).map (·.apart testCaseId) = (store.apart testCaseId).insertRun run := by
  simp only [insertRun, change, Tables.addRun, apart, Tables.apart, withTables,
    isNone_testCase?_cleared]
  change _ = Except.map _ (if (store.tables.run? run.id).isSome then _ else _)
  split
  · rfl
  · split <;> rfl

theorem apart_moveRun (store : Store) (testCaseId : String) (now : Int) (id : String)
    (next : RunStatus) (error : Option String) :
    leave testCaseId (store.moveRun now id next error) =
      (store.apart testCaseId).moveRun now id next error := by
  have same : (store.apart testCaseId).tables.run? id = store.tables.run? id := rfl
  simp only [moveRun, checkMove, same]
  cases store.tables.run? id with
  | none => rfl
  | some run =>
    dsimp only
    split <;> rfl

theorem apart_deleteQueuedRun (store : Store) (testCaseId id : String) :
    Prod.map (fun x => x) (·.apart testCaseId) (store.deleteQueuedRun id) =
      (store.apart testCaseId).deleteQueuedRun id := rfl

theorem apart_insertResult (store : Store) (testCaseId : String) (result : StepResult) :
    (store.insertResult result).map (·.apart testCaseId) =
      (store.apart testCaseId).insertResult result := by
  simp only [insertResult, change, Tables.addResult, apart, withTables]
  change _ = Except.map _ (if (store.tables.result? result.id).isSome then _ else
    if (store.tables.run? result.runId).isNone then _ else _)
  split
  · rfl
  · split <;> rfl

theorem apart_finishResult (store : Store) (testCaseId : String) (outcome : StepResult) :
    (store.finishResult outcome).map (·.apart testCaseId) =
      (store.apart testCaseId).finishResult outcome := by
  simp only [finishResult]
  change _ = if store.tables.results.any (isPending outcome.id) then _ else _
  split <;> rfl

theorem apart_failPending (store : Store) (testCaseId : String) (now : Int)
    (runId error : String) :
    Prod.map (fun x => x) (·.apart testCaseId) (store.failPending now runId error) =
      (store.apart testCaseId).failPending now runId error := rfl

end Runs

section Projects

theorem apart_addProject (tables : Tables) (testCaseId : String) (project : Project) :
    (tables.addProject project).map (·.apart testCaseId) =
      (tables.apart testCaseId).addProject project := by
  simp only [Tables.addProject]
  change _ = if (tables.project? project.id).isSome then _ else _
  split <;> rfl

/-- A project is created whatever the test cases are. -/
theorem apart_createProject (store : Store) (testCaseId : String) (now : Int) (name : String) :
    leave testCaseId (store.createProject now name) =
      (store.apart testCaseId).createProject now name := by
  let project : Project := ⟨idOf store.minted, Text.trimmed name, now⟩
  have added := apart_addProject store.tables testCaseId project
  simp only [createProject]
  change _ = if (Text.trimmed name).isEmpty then _ else _
  split
  · rfl
  · simp only [mint, change]
    change leave testCaseId (Except.bind ((store.tables.addProject project).map _) _) =
      Except.bind (((store.tables.apart testCaseId).addProject project).map _) _
    rw [← added]
    cases store.tables.addProject project <;> rfl

end Projects

section Removal

/-- Rows that are chosen by their id and their project are chosen whatever the script is. -/
theorem apart_removeTestCases (tables : Tables) (id : String) (test : TestCase → Bool)
    (blind : ∀ testCase, test (testCase.stamped id 0) = test testCase) :
    (tables.removeTestCases test).apart id = (tables.apart id).removeTestCases test := by
  have chosen : ((tables.testCases.map (·.stamped id 0)).filter test).map TestCase.id =
      (tables.testCases.filter test).map TestCase.id := by
    simp only [List.filter_map, List.map_map, Function.comp_def, TestCase.stamped_id, blind]
  have left : (tables.testCases.map (·.stamped id 0)).filter (fun testCase => !test testCase) =
      (tables.testCases.filter fun testCase => !test testCase).map (·.stamped id 0) := by
    simp only [List.filter_map, Function.comp_def, blind]
  simp only [Tables.removeTestCases, Tables.apart, Tables.cleared, chosen, left,
    List.filter_filter, Bool.and_comm]
  rfl

theorem apart_deleteProject (store : Store) (testCaseId id : String) :
    Prod.map (fun x => x) (·.apart testCaseId) (store.deleteProject id) =
      (store.apart testCaseId).deleteProject id := by
  have removed := apart_removeTestCases store.tables testCaseId
    (fun testCase => decide (testCase.projectId = id)) fun testCase => by simp
  simp only [deleteProject, Tables.removeProject, apart, withTables, ← removed]
  rfl

theorem apart_deleteTestCase (store : Store) (testCaseId id : String) :
    Prod.map (fun x => x) (·.apart testCaseId) (store.deleteTestCase id) =
      (store.apart testCaseId).deleteTestCase id := by
  have removed := apart_removeTestCases store.tables testCaseId
    (fun testCase => decide (testCase.id = id)) fun testCase => by simp
  have found := isSome_testCase?_cleared store.tables testCaseId 0 id
  simp only [deleteTestCase, apart, withTables, ← removed]
  simp only [Tables.apart, found]
  rfl

end Removal

section Writing

/-- Steps with new ids are added to a test case that exists. -/
theorem addSteps_of_new {tables : Tables} {steps : List Step}
    (unique : ((tables.steps ++ steps).map Step.id).Nodup)
    (owned : ∀ step ∈ steps, (tables.testCase? step.testCaseId).isNone = false) :
    tables.addSteps steps = .ok { tables with steps := tables.steps ++ steps } := by
  induction steps generalizing tables with
  | nil => simp [Tables.addSteps, pure, Except.pure]
  | cons step steps inductionHypothesis =>
    have new : tables.steps.any (fun other => other.id = step.id) = false := by
      rw [List.map_append, List.map_cons, List.nodup_append] at unique
      rw [List.any_eq_false]
      intro other present same
      exact unique.2.2 other.id (List.mem_map_of_mem present) step.id List.mem_cons_self
        (of_decide_eq_true same)
    have added : tables.addStep step = .ok { tables with steps := tables.steps ++ [step] } := by
      simp only [Tables.addStep, new, owned step List.mem_cons_self, Bool.false_eq_true, if_false]
    have later := @inductionHypothesis { tables with steps := tables.steps ++ [step] }
      (by simpa using unique) fun other among => owned other (List.mem_cons_of_mem _ among)
    simp only [Tables.addSteps, List.foldlM_cons, added] at later ⊢
    simpa [bind, Except.bind] using later

/-- A script can be added to the steps of a test case. -/
structure Receives (store : Store) (id : String) : Prop where
  keyed : (store.tables.steps.map Step.id).Nodup
  fresh : ∀ number, store.minted ≤ number → idOf number ∉ store.tables.steps.map Step.id
  owned : (store.tables.testCase? id).isNone = false

variable {id : String}

theorem Sound.receives (sound : store.Sound) (owned : (store.tables.testCase? id).isNone = false) :
    store.Receives id where
  keyed := sound.tables.keyed.steps
  fresh number coming present := by
    refine sound.fresh number coming ?_
    simp only [Tables.ids, List.mem_append]
    exact .inl (.inl (.inr present))
  owned := owned

/-- Without the script of some test case, there is still room for that of another. -/
theorem Receives.cleared (receives : store.Receives id) (other : String) (now : Int) :
    (store.withTables (store.tables.cleared other now)).Receives id where
  keyed := Rows.nodup_filter receives.keyed _
  fresh number coming present :=
    receives.fresh number coming (List.map_subset Step.id List.filter_sublist.subset present)
  owned := (isNone_testCase?_cleared ..).trans receives.owned

/-- The script of a test case is added. -/
theorem Receives.insertSteps_eq (receives : store.Receives id) (drafts : List StepDraft) :
    store.insertSteps id drafts = .ok (store.draftSteps id drafts,
      ⟨{ store.tables with steps := store.tables.steps ++ store.draftSteps id drafts },
        store.minted + drafts.length⟩) := by
  have ids : (store.draftSteps id drafts).map Step.id =
      (List.range' 0 drafts.length).map fun index => idOf (store.minted + index) := by
    rw [draftSteps, List.map_map, ← List.zipIdx_map_snd 0 drafts, List.map_map]
    rfl
  have unique : ((store.tables.steps ++ store.draftSteps id drafts).map Step.id).Nodup := by
    rw [List.map_append, ids, List.nodup_append]
    have numbers : (List.range' 0 drafts.length).Nodup := List.nodup_range' 1
    refine ⟨receives.keyed, numbers.map fun first second same => ?_, ?_⟩
    · have equal := idOf_injective same
      omega
    · rintro old present _ drafted rfl
      obtain ⟨index, -, rfl⟩ := List.mem_map.1 drafted
      exact receives.fresh _ (Nat.le_add_right _ _) present
  have added := addSteps_of_new unique fun step drafted => by
    rw [(draftSteps_own drafted).1]
    exact receives.owned
  simp only [insertSteps, added]
  rfl

/-- The script of another test case is added whatever the script is. -/
theorem Receives.apart_insertSteps (receives : store.Receives id) (different : id ≠ testCaseId)
    (drafts : List StepDraft) :
    leave testCaseId (store.insertSteps id drafts) =
      (store.apart testCaseId).insertSteps id drafts := by
  have without : (store.apart testCaseId).Receives id := receives.cleared testCaseId 0
  have kept : (store.draftSteps id drafts).filter (fun step => step.testCaseId ≠ testCaseId) =
      store.draftSteps id drafts := by
    refine List.filter_eq_self.2 fun step drafted => ?_
    rw [(draftSteps_own drafted).1]
    simpa using different
  rw [receives.insertSteps_eq, without.insertSteps_eq]
  simp only [leave, Except.map, Prod.map, apart, withTables, Tables.apart, Tables.cleared,
    List.filter_append, kept]
  rfl

theorem cleared_apart (tables : Tables) {other : String} (different : other ≠ testCaseId)
    (now : Int) :
    (tables.cleared other now).apart testCaseId = (tables.apart testCaseId).cleared other now := by
  simp only [Tables.apart, Tables.cleared, List.map_map, Function.comp_def, List.filter_filter,
    Bool.and_comm, TestCase.stamped_comm _ different]

theorem replaceSteps_eq_ite (store : Store) (now : Int) (id : String) (drafts : List StepDraft) :
    store.replaceSteps now id drafts =
      if (store.tables.testCase? id).isNone then .error (.notFound .testCase id)
      else (store.withTables (store.tables.cleared id now)).insertSteps id drafts := rfl

/-- The script of another test case is replaced whatever the script is. -/
theorem Sound.apart_replaceSteps (sound : store.Sound) (different : id ≠ testCaseId) (now : Int)
    (drafts : List StepDraft) :
    leave testCaseId (store.replaceSteps now id drafts) =
      (store.apart testCaseId).replaceSteps now id drafts := by
  have looked := isNone_testCase?_cleared store.tables testCaseId 0 id
  rw [replaceSteps_eq_ite, replaceSteps_eq_ite]
  simp only [apart, withTables, Tables.apart, looked]
  cases missing : (store.tables.testCase? id).isNone with
  | true => rfl
  | false =>
    have receives := (sound.receives missing).cleared id now
    have added := receives.apart_insertSteps different drafts
    have swapped := cleared_apart store.tables different now
    simp only [apart, withTables] at added
    rw [swapped] at added
    exact added

/-- A script that is replaced leaves everything else as it was, but for the ids of the new steps. -/
theorem Sound.apart_replaceSteps_own (sound : store.Sound)
    (owned : (store.tables.testCase? id).isNone = false) (now : Int) (drafts : List StepDraft) :
    ∃ steps after, store.replaceSteps now id drafts = .ok (steps, after) ∧
      after.apart id = ⟨store.tables.apart id, store.minted + drafts.length⟩ := by
  let cleared : Store := store.withTables (store.tables.cleared id now)
  have receives : cleared.Receives id := (sound.receives owned).cleared id now
  refine ⟨_, _, (replaceSteps_eq_ite ..).trans ((if_neg (by simp [owned])).trans
    (receives.insertSteps_eq drafts)), ?_⟩
  have gone (base : Store) :
      (base.draftSteps id drafts).filter (fun step => step.testCaseId ≠ id) = [] := by
    refine List.filter_eq_nil_iff.2 fun step drafted => ?_
    simp [(draftSteps_own drafted).1]
  simp only [apart, withTables, Tables.apart, Tables.cleared, cleared, List.filter_append, gone,
    List.append_nil, List.filter_filter, Bool.and_self, List.map_map, Function.comp_def,
    TestCase.stamped_stamped]

/-- Another test case is added whatever the script is. -/
theorem apart_addTestCase (tables : Tables) {testCase : TestCase}
    (different : testCase.id ≠ testCaseId) :
    (tables.addTestCase testCase).map (·.apart testCaseId) =
      (tables.apart testCaseId).addTestCase testCase := by
  have looked := isSome_testCase?_cleared tables testCaseId 0 testCase.id
  have kept : testCase.stamped testCaseId 0 = testCase := if_neg different
  simp only [Tables.addTestCase, Tables.apart, looked]
  change _ = if _ then _ else if (tables.project? testCase.projectId).isNone then _ else _
  split
  · rfl
  · split
    · rfl
    · simp only [Except.map, Tables.cleared, List.map_append, List.map_singleton, kept]

/-- The next id is not that of a test case that exists. -/
theorem Sound.minted_ne (sound : store.Sound) (known : (store.tables.testCase? id).isNone = false) :
    idOf store.minted ≠ id := by
  rintro rfl
  refine sound.fresh store.minted le_rfl ?_
  simp only [Tables.ids, List.mem_append]
  exact .inl (.inl (.inl (.inr (Tables.testCase?_known_iff.1 known))))

/-- A test case is created whatever the script of another one is. -/
theorem Sound.apart_createTestCase (sound : store.Sound)
    (known : (store.tables.testCase? testCaseId).isNone = false) (now : Int)
    (projectId title : String) (drafts : List StepDraft) :
    leave testCaseId (store.createTestCase now projectId title drafts) =
      (store.apart testCaseId).createTestCase now projectId title drafts := by
  let testCase : TestCase := ⟨idOf store.minted, projectId, Text.trimmed title, now, now⟩
  have different : testCase.id ≠ testCaseId := sound.minted_ne known
  have added := apart_addTestCase store.tables different
  simp only [Store.createTestCase]
  change _ = (if (Text.trimmed title).isEmpty then _ else
    if (store.tables.project? projectId).isNone then _ else _)
  split
  · rfl
  · split
    · rfl
    · simp only [mint, change]
      change leave testCaseId (Except.bind ((store.tables.addTestCase testCase).map _) _) =
        Except.bind (((store.tables.apart testCaseId).addTestCase testCase).map _) _
      rw [← added]
      cases made : store.tables.addTestCase testCase with
      | error error => rfl
      | ok tables =>
        have receives : Receives ⟨tables, store.minted + 1⟩ testCase.id := by
          refine (sound.withTestCase rfl made).receives (Tables.testCase?_known_iff.2 ?_)
          obtain ⟨-, -, rfl⟩ := Tables.addTestCase_eq made
          simp
        have inserted := receives.apart_insertSteps different drafts
        let filled : Store := ⟨tables, store.minted + 1⟩
        let give (script : List Step × Store) :
            Except StoreError ((TestCase × List Step) × Store) :=
          .ok ((testCase, script.1), script.2)
        change leave testCaseId ((filled.insertSteps testCase.id drafts).bind give) =
          ((filled.apart testCaseId).insertSteps testCase.id drafts).bind give
        rw [← inserted]
        cases filled.insertSteps testCase.id drafts <;> rfl

end Writing

section Catalogue

theorem catalogue_addSteps (tables : Tables) (steps : List Step) :
    (tables.addSteps steps).map Tables.catalogue = tables.catalogue.addSteps steps := by
  induction steps generalizing tables with
  | nil => rfl
  | cons step steps inductionHypothesis =>
    have added : (tables.addStep step).map Tables.catalogue = tables.catalogue.addStep step := by
      simp only [Tables.addStep]
      change _ = if tables.steps.any (fun other => other.id = step.id) then _ else
        if (tables.testCase? step.testCaseId).isNone then _ else _
      split
      · rfl
      · split <;> rfl
    simp only [Tables.addSteps, List.foldlM_cons] at inductionHypothesis ⊢
    rw [← added]
    cases tables.addStep step with
    | error error => rfl
    | ok middle => exact inductionHypothesis middle

/-- A script is replaced whatever runs there are. -/
theorem catalogue_replaceSteps (store : Store) (now : Int) (id : String)
    (drafts : List StepDraft) :
    (store.replaceSteps now id drafts).map (Prod.map (fun steps => steps) catalogue) =
      store.catalogue.replaceSteps now id drafts := by
  rw [replaceSteps_eq_ite, replaceSteps_eq_ite]
  change _ = if (store.tables.testCase? id).isNone then _ else _
  split
  · rfl
  · let cleared : Store := store.withTables (store.tables.cleared id now)
    change (cleared.insertSteps id drafts).map _ = cleared.catalogue.insertSteps id drafts
    simp only [insertSteps]
    change Except.map _ (Except.bind (cleared.tables.addSteps (cleared.draftSteps id drafts)) _) =
      Except.bind (cleared.tables.catalogue.addSteps (cleared.draftSteps id drafts)) _
    rw [← catalogue_addSteps]
    cases cleared.tables.addSteps (cleared.draftSteps id drafts) <;> rfl

/-- A call on runs and step results. -/
def Operation.records : Operation → Bool
  | .insertRun _ | .moveRun _ _ _ _ | .deleteQueuedRun _ | .recover _ | .insertResult _
  | .finishResult _ | .failPending _ _ _ => true
  | _ => false

/-- A call on runs and step results changes no project, no test case and no step. -/
theorem catalogue_perform {operation : Operation} (records : operation.records = true) :
    (store.perform operation).tables.catalogue = store.tables.catalogue := by
  cases operation with
  | insertRun run =>
    refine accepting_induction (·.tables.catalogue = store.tables.catalogue) rfl
      fun after inserted => ?_
    obtain ⟨-, -, rfl⟩ := insertRun_eq inserted
    rfl
  | moveRun now id next error =>
    refine accepting_map_induction (·.tables.catalogue = store.tables.catalogue) rfl
      fun run after moves => ?_
    obtain ⟨row, -, -, -, rfl⟩ := moveRun_eq moves
    rfl
  | insertResult result =>
    refine accepting_induction (·.tables.catalogue = store.tables.catalogue) rfl
      fun after inserted => ?_
    obtain ⟨-, -, rfl⟩ := insertResult_eq inserted
    rfl
  | finishResult outcome =>
    refine accepting_induction (·.tables.catalogue = store.tables.catalogue) rfl
      fun after finished => ?_
    rw [finishResult_eq finished]
    rfl
  | deleteQueuedRun id => rfl
  | recover now => rfl
  | failPending now runId error => rfl
  | mint | createProject now name | createTestCase now projectId title drafts
  | replaceSteps now testCaseId drafts | deleteProject id | deleteTestCase id => cases records

end Catalogue

end Store

end StepRunner
