import StepRunner.Proofs.Store.Runs

/-!
This file shows that the operations on projects and test cases leave the runs of a test case alone
that they do not delete.
-/

namespace StepRunner.Tables

/-- A project has a test case. -/
def Owns (tables : Tables) (projectId testCaseId : String) : Prop :=
  ∃ testCase ∈ tables.testCases, testCase.id = testCaseId ∧ testCase.projectId = projectId

/-- A change of the tables adds and alters no run, and it leaves one test case with its runs. -/
structure Spares (before after : Tables) (projectId testCaseId : String) : Prop where
  runs_subset : after.runs ⊆ before.runs
  owns : before.Owns projectId testCaseId → after.Owns projectId testCaseId
  run_mem : ∀ run ∈ before.runs, run.testCaseId = testCaseId → run ∈ after.runs
  resultsOf : ∀ run ∈ before.runs, run.testCaseId = testCaseId →
    after.resultsOf run.id = before.resultsOf run.id

variable {before after : Tables} {projectId testCaseId : String}

theorem Spares.refl : before.Spares before projectId testCaseId :=
  ⟨List.Subset.refl _, id, fun _ present _ => present, fun _ _ _ => rfl⟩

/-- Changes elsewhere than in the runs and their step results spare a test case that stays. -/
theorem Spares.of_same_runs (runs : after.runs = before.runs)
    (results : after.results = before.results)
    (owns : before.Owns projectId testCaseId → after.Owns projectId testCaseId) :
    before.Spares after projectId testCaseId where
  runs_subset := runs ▸ List.Subset.refl _
  owns := owns
  run_mem := fun run present _ => runs ▸ present
  resultsOf := fun run _ _ => by simp only [Tables.resultsOf, results]

/-- The removal of other test cases spares a test case. -/
theorem Spares.removeTestCases (keyed : before.Keyed) {test : TestCase → Bool}
    (kept : ∀ testCase ∈ before.testCases, testCase.id = testCaseId → test testCase = false) :
    before.Spares (before.removeTestCases test) projectId testCaseId := by
  have left : ((before.testCases.filter test).map TestCase.id).contains testCaseId = false := by
    rw [Bool.eq_false_iff]
    intro removed
    obtain ⟨testCase, chosen, same⟩ := List.mem_map.1 (List.contains_iff_mem.1 removed)
    obtain ⟨present, tested⟩ := List.mem_filter.1 chosen
    rw [kept testCase present same] at tested
    cases tested
  refine ⟨List.filter_sublist.subset, ?_, ?_, ?_⟩
  · rintro ⟨testCase, present, same, owner⟩
    exact ⟨testCase, List.mem_filter.2 ⟨present, by simp [kept testCase present same]⟩, same, owner⟩
  · intro run present same
    exact List.mem_filter.2 ⟨present, by simp only [same, left, Bool.not_false]⟩
  · intro run present same
    simp only [Tables.removeTestCases, Tables.removeRuns, Tables.resultsOf, List.filter_filter]
    apply List.filter_congr
    intro result _
    by_cases own : result.runId = run.id
    · -- A removed run with the same id would be the run itself.
      have stays : ((before.runs.filter fun row =>
          ((before.testCases.filter test).map TestCase.id).contains row.testCaseId).map
            Run.id).contains run.id = false := by
        rw [Bool.eq_false_iff]
        intro removed
        obtain ⟨other, chosen, named⟩ := List.mem_map.1 (List.contains_iff_mem.1 removed)
        obtain ⟨among, tested⟩ := List.mem_filter.1 chosen
        obtain rfl := Rows.eq_of_key_eq keyed.runs among present named
        rw [same, left] at tested
        cases tested
      simp only [own, stays, Bool.not_false, Bool.and_true]
    · simp [own]

/-- The removal of another project spares a test case. -/
theorem Spares.removeProject (keyed : before.Keyed) (owned : before.Owns projectId testCaseId)
    {id : String} (other : projectId ≠ id) :
    before.Spares (before.removeProject id) projectId testCaseId := by
  have spared : before.Spares
      (before.removeTestCases fun testCase => decide (testCase.projectId = id)) projectId
      testCaseId := by
    apply Spares.removeTestCases keyed
    intro testCase present same
    obtain ⟨holder, held, named, owner⟩ := owned
    obtain rfl := Rows.eq_of_key_eq keyed.testCases present held (same.trans named.symm)
    simpa [owner] using other
  exact ⟨spared.runs_subset, spared.owns, spared.run_mem, spared.resultsOf⟩

end StepRunner.Tables

namespace StepRunner.Store

variable {store after : Store} {projectId testCaseId : String}

theorem createProject_spares {now : Int} {name : String} {project : Project}
    (created : store.createProject now name = .ok (project, after)) :
    store.tables.Spares after.tables projectId testCaseId := by
  obtain ⟨-, -, rfl⟩ := createProject_eq created
  exact .of_same_runs rfl rfl id

theorem createTestCase_spares {now : Int} {ownerId title : String} {drafts : List StepDraft}
    {made : TestCase × List Step}
    (created : store.createTestCase now ownerId title drafts = .ok (made, after)) :
    store.tables.Spares after.tables projectId testCaseId := by
  obtain ⟨testCase, steps⟩ := made
  obtain ⟨-, tables, added, inserted⟩ := createTestCase_eq created
  obtain ⟨-, -, rfl⟩ := Tables.addTestCase_eq added
  obtain ⟨-, steps, -⟩ := insertSteps_eq inserted
  rw [(addSteps_eq steps).1]
  refine .of_same_runs rfl rfl ?_
  rintro ⟨owner, present, facts⟩
  exact ⟨owner, List.mem_append_left _ present, facts⟩

theorem replaceSteps_spares {now : Int} {id : String} {drafts : List StepDraft}
    {steps : List Step} (replaced : store.replaceSteps now id drafts = .ok (steps, after)) :
    store.tables.Spares after.tables projectId testCaseId := by
  obtain ⟨-, inserted⟩ := replaceSteps_eq replaced
  obtain ⟨-, added, -⟩ := insertSteps_eq inserted
  rw [(addSteps_eq added).1]
  refine .of_same_runs rfl rfl ?_
  rintro ⟨owner, present, named, owned⟩
  refine ⟨_, List.mem_map_of_mem present, ?_, ?_⟩
  · split <;> exact named
  · split <;> exact owned

end StepRunner.Store
