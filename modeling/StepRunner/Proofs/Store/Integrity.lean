import StepRunner.Proofs.Store.Keys

/-!
This file shows that every insertion, change and removal of rows keeps the ids of the rows apart
and their references whole.
-/

namespace StepRunner.Tables

variable {tables after : Tables}

section Insertion

theorem addProject_eq {project : Project} (added : tables.addProject project = .ok after) :
    project.id ∉ tables.projects.map Project.id ∧
      after = { tables with projects := tables.projects ++ [project] } := by
  unfold addProject at added
  split at added
  · cases added
  · next free =>
    rw [Bool.not_eq_true, Option.isSome_eq_false_iff, Option.isNone_iff_eq_none] at free
    exact ⟨project?_eq_none_iff.1 free, (Except.ok.inj added).symm⟩

theorem addTestCase_eq {testCase : TestCase} (added : tables.addTestCase testCase = .ok after) :
    testCase.id ∉ tables.testCases.map TestCase.id ∧
      (∃ project ∈ tables.projects, project.id = testCase.projectId) ∧
      after = { tables with testCases := tables.testCases ++ [testCase] } := by
  unfold addTestCase at added
  split at added
  · cases added
  · next free =>
    split at added
    · cases added
    · next owned =>
      rw [Bool.not_eq_true, Option.isSome_eq_false_iff, Option.isNone_iff_eq_none] at free
      rw [Bool.not_eq_true, Option.isNone_eq_false_iff, Option.isSome_iff_exists] at owned
      obtain ⟨project, found⟩ := owned
      have matched := List.find?_some found
      exact ⟨testCase?_eq_none_iff.1 free,
        ⟨project, List.mem_of_find?_eq_some found, by simpa using matched⟩,
        (Except.ok.inj added).symm⟩

theorem addStep_eq {step : Step} (added : tables.addStep step = .ok after) :
    step.id ∉ tables.steps.map Step.id ∧
      (∃ testCase ∈ tables.testCases, testCase.id = step.testCaseId) ∧
      after = { tables with steps := tables.steps ++ [step] } := by
  unfold addStep at added
  split at added
  · cases added
  · next free =>
    split at added
    · cases added
    · next owned =>
      rw [Bool.not_eq_true, Option.isNone_eq_false_iff, Option.isSome_iff_exists] at owned
      obtain ⟨testCase, found⟩ := owned
      have matched := List.find?_some found
      exact ⟨by simpa using free,
        ⟨testCase, List.mem_of_find?_eq_some found, by simpa using matched⟩,
        (Except.ok.inj added).symm⟩

theorem addRun_eq {run : Run} (added : tables.addRun run = .ok after) :
    run.id ∉ tables.runs.map Run.id ∧
      (∃ testCase ∈ tables.testCases, testCase.id = run.testCaseId) ∧
      after = { tables with runs := tables.runs ++ [run] } := by
  unfold addRun at added
  split at added
  · cases added
  · next free =>
    split at added
    · cases added
    · next owned =>
      rw [Bool.not_eq_true, Option.isSome_eq_false_iff, Option.isNone_iff_eq_none] at free
      rw [Bool.not_eq_true, Option.isNone_eq_false_iff, Option.isSome_iff_exists] at owned
      obtain ⟨testCase, found⟩ := owned
      have matched := List.find?_some found
      exact ⟨run?_eq_none_iff.1 free,
        ⟨testCase, List.mem_of_find?_eq_some found, by simpa using matched⟩,
        (Except.ok.inj added).symm⟩

theorem addResult_eq {result : StepResult} (added : tables.addResult result = .ok after) :
    result.id ∉ tables.results.map StepResult.id ∧
      (∃ run ∈ tables.runs, run.id = result.runId) ∧
      after = { tables with results := tables.results ++ [result] } := by
  unfold addResult at added
  split at added
  · cases added
  · next free =>
    split at added
    · cases added
    · next owned =>
      rw [Bool.not_eq_true, Option.isSome_eq_false_iff, Option.isNone_iff_eq_none] at free
      rw [Bool.not_eq_true, Option.isNone_eq_false_iff, Option.isSome_iff_exists] at owned
      obtain ⟨run, found⟩ := owned
      have matched := List.find?_some found
      exact ⟨result?_eq_none_iff.1 free,
        ⟨run, List.mem_of_find?_eq_some found, by simpa using matched⟩,
        (Except.ok.inj added).symm⟩

/-- A run with a new id is added to a test case that exists. -/
theorem addRun_of_new {run : Run} (new : run.id ∉ tables.runs.map Run.id)
    (owned : ∃ testCase ∈ tables.testCases, testCase.id = run.testCaseId) :
    tables.addRun run = .ok { tables with runs := tables.runs ++ [run] } := by
  obtain ⟨testCase, present, same⟩ := owned
  have found : (tables.testCase? run.testCaseId).isSome := by
    simp only [testCase?, List.find?_isSome]
    exact ⟨testCase, present, by simpa using same⟩
  simp [addRun, run?_eq_none_iff.2 new, Option.isNone_eq_false_iff.2 found]

/-- A step result with a new id is added to a run that exists. -/
theorem addResult_of_new {result : StepResult} (new : result.id ∉ tables.results.map StepResult.id)
    (owned : ∃ run ∈ tables.runs, run.id = result.runId) :
    tables.addResult result = .ok { tables with results := tables.results ++ [result] } := by
  obtain ⟨run, present, same⟩ := owned
  have found : (tables.run? result.runId).isSome := by
    simp only [run?, List.find?_isSome]
    exact ⟨run, present, by simpa using same⟩
  simp [addResult, result?_eq_none_iff.2 new, Option.isNone_eq_false_iff.2 found]

end Insertion

section Scripts

/-- Whole test cases lose their steps, and the others keep theirs in order. -/
theorem listSteps_filter (tables : Tables) (keep : String → Bool) (id : String) :
    listSteps { tables with steps := tables.steps.filter fun step => keep step.testCaseId } id =
      if keep id then tables.listSteps id else [] := by
  have rows : (tables.steps.filter fun step => keep step.testCaseId).filter
      (fun step => decide (step.testCaseId = id)) =
        if keep id then tables.steps.filter fun step => step.testCaseId = id else [] := by
    rw [List.filter_filter]
    split
    · next kept =>
      apply List.filter_congr
      intro step _
      by_cases same : step.testCaseId = id <;> simp [same, kept]
    · next gone =>
      rw [List.filter_eq_nil_iff]
      intro step _
      by_cases same : step.testCaseId = id <;> simp [same, gone]
  simp only [listSteps, rows]
  split <;> simp

variable {id other : String} {steps : List Step}

/-- Numbered steps of a test case without steps are listed as they are added. -/
theorem listSteps_append_own (bare : ∀ step ∈ tables.steps, step.testCaseId ≠ id)
    (own : ∀ step ∈ steps, step.testCaseId = id)
    (orders : steps.map Step.order = List.range' 1 steps.length) :
    listSteps { tables with steps := tables.steps ++ steps } id = steps := by
  have none : tables.steps.filter (fun step => decide (step.testCaseId = id)) = [] := by
    simpa [List.filter_eq_nil_iff] using bare
  have all : steps.filter (fun step => decide (step.testCaseId = id)) = steps := by
    simpa [List.filter_eq_self] using own
  have sorted : (steps.map Step.order).Pairwise (· ≤ ·) := by
    rw [orders]
    exact List.pairwise_le_range'
  rw [List.pairwise_map] at sorted
  simp only [listSteps, List.filter_append, none, all, List.nil_append]
  exact List.mergeSort_of_pairwise (sorted.imp (by simp))

/-- The steps of a test case stay when another one gets steps. -/
theorem listSteps_append_other (own : ∀ step ∈ steps, step.testCaseId = id)
    (different : other ≠ id) :
    listSteps { tables with steps := tables.steps ++ steps } other = tables.listSteps other := by
  have none : steps.filter (fun step => decide (step.testCaseId = other)) = [] := by
    rw [List.filter_eq_nil_iff]
    intro step present
    simpa [own step present] using different.symm
  simp [listSteps, List.filter_append, none]

end Scripts

/-- The rows are keyed, their references are whole and steps are numbered. -/
structure Sound (tables : Tables) : Prop where
  keyed : tables.Keyed
  linked : tables.Linked
  numbered : tables.Numbered

namespace Sound

theorem empty : Sound {} where
  keyed := ⟨.nil, .nil, .nil, .nil, .nil⟩
  linked := by constructor <;> simp
  numbered := by
    intro id
    simp [listSteps]

theorem withProject (sound : tables.Sound) {project : Project}
    (new : project.id ∉ tables.projects.map Project.id) :
    Sound { tables with projects := tables.projects ++ [project] } where
  keyed := { sound.keyed with projects := Rows.nodup_append_singleton sound.keyed.projects new }
  linked :=
    { sound.linked with
      testCases := by
        intro testCase present
        obtain ⟨owner, owned, same⟩ := sound.linked.testCases testCase present
        exact ⟨owner, List.mem_append_left _ owned, same⟩ }
  numbered := sound.numbered

theorem withTestCase (sound : tables.Sound) {testCase : TestCase}
    (new : testCase.id ∉ tables.testCases.map TestCase.id)
    (owned : ∃ project ∈ tables.projects, project.id = testCase.projectId) :
    Sound { tables with testCases := tables.testCases ++ [testCase] } where
  keyed := { sound.keyed with testCases := Rows.nodup_append_singleton sound.keyed.testCases new }
  linked :=
    { results := sound.linked.results
      testCases := by
        intro other present
        rcases List.mem_append.1 present with old | added
        · exact sound.linked.testCases other old
        · rw [List.mem_singleton.1 added]
          exact owned
      steps := by
        intro step present
        obtain ⟨owner, found, same⟩ := sound.linked.steps step present
        exact ⟨owner, List.mem_append_left _ found, same⟩
      runs := by
        intro run present
        obtain ⟨owner, found, same⟩ := sound.linked.runs run present
        exact ⟨owner, List.mem_append_left _ found, same⟩ }
  numbered := sound.numbered

theorem withRun (sound : tables.Sound) {run : Run} (new : run.id ∉ tables.runs.map Run.id)
    (owned : ∃ testCase ∈ tables.testCases, testCase.id = run.testCaseId) :
    Sound { tables with runs := tables.runs ++ [run] } where
  keyed := { sound.keyed with runs := Rows.nodup_append_singleton sound.keyed.runs new }
  linked :=
    { testCases := sound.linked.testCases
      steps := sound.linked.steps
      runs := by
        intro other present
        rcases List.mem_append.1 present with old | added
        · exact sound.linked.runs other old
        · rw [List.mem_singleton.1 added]
          exact owned
      results := by
        intro result present
        obtain ⟨owner, found, same⟩ := sound.linked.results result present
        exact ⟨owner, List.mem_append_left _ found, same⟩ }
  numbered := sound.numbered

theorem withResult (sound : tables.Sound) {result : StepResult}
    (new : result.id ∉ tables.results.map StepResult.id)
    (owned : ∃ run ∈ tables.runs, run.id = result.runId) :
    Sound { tables with results := tables.results ++ [result] } where
  keyed := { sound.keyed with results := Rows.nodup_append_singleton sound.keyed.results new }
  linked :=
    { testCases := sound.linked.testCases
      steps := sound.linked.steps
      runs := sound.linked.runs
      results := by
        intro other present
        rcases List.mem_append.1 present with old | added
        · exact sound.linked.results other old
        · rw [List.mem_singleton.1 added]
          exact owned }
  numbered := sound.numbered

/-- A change of runs that keeps their ids and test cases keeps the tables sound. -/
theorem mapRuns (sound : tables.Sound) {change : Run → Run}
    (sameId : ∀ run, (change run).id = run.id)
    (sameCase : ∀ run, (change run).testCaseId = run.testCaseId) :
    Sound { tables with runs := tables.runs.map change } where
  keyed :=
    { sound.keyed with
      runs := by
        have kept : (tables.runs.map change).map Run.id = tables.runs.map Run.id := by
          rw [List.map_map]
          exact List.map_congr_left fun run _ => sameId run
        simpa only [kept] using sound.keyed.runs }
  linked :=
    { testCases := sound.linked.testCases
      steps := sound.linked.steps
      runs := by
        intro run present
        obtain ⟨old, found, rfl⟩ := List.mem_map.1 present
        obtain ⟨owner, owned, same⟩ := sound.linked.runs old found
        exact ⟨owner, owned, same.trans (sameCase old).symm⟩
      results := by
        intro result present
        obtain ⟨owner, owned, same⟩ := sound.linked.results result present
        exact ⟨change owner, List.mem_map_of_mem owned, (sameId owner).trans same⟩ }
  numbered := sound.numbered

/-- A change of the run with an id keeps the tables sound. -/
theorem updateRun (sound : tables.Sound) (id : String) {change : Run → Run}
    (sameId : ∀ run, (change run).id = run.id)
    (sameCase : ∀ run, (change run).testCaseId = run.testCaseId) :
    (tables.updateRun id change).Sound := by
  refine sound.mapRuns (fun run => ?_) fun run => ?_
  · split
    · exact sameId run
    · rfl
  · split
    · exact sameCase run
    · rfl

/-- A change of step results that keeps their ids and runs keeps the tables sound. -/
theorem updateResults (sound : tables.Sound) (test : StepResult → Bool)
    {change : StepResult → StepResult} (sameId : ∀ result, (change result).id = result.id)
    (sameRun : ∀ result, (change result).runId = result.runId) :
    (tables.updateResults test change).Sound where
  keyed :=
    { sound.keyed with
      results := by
        have kept := Rows.map_key_update StepResult.id tables.results
          test change sameId
        simpa only [Tables.updateResults, kept] using sound.keyed.results }
  linked :=
    { testCases := sound.linked.testCases
      steps := sound.linked.steps
      runs := sound.linked.runs
      results := by
        intro result present
        obtain ⟨old, found, rfl⟩ := List.mem_map.1 present
        obtain ⟨owner, owned, same⟩ := sound.linked.results old found
        refine ⟨owner, owned, ?_⟩
        split <;> simp [same, sameRun] }
  numbered := sound.numbered

/-- The removal of step results keeps the tables sound. -/
theorem filterResults (sound : tables.Sound) (test : StepResult → Bool) :
    Sound { tables with results := tables.results.filter test } where
  keyed := { sound.keyed with results := Rows.nodup_filter sound.keyed.results _ }
  linked :=
    { sound.linked with
      results := fun result present =>
        sound.linked.results result (List.mem_filter.1 present).1 }
  numbered := sound.numbered

/-- The removal of runs with their step results keeps the tables sound. -/
theorem removeRuns (sound : tables.Sound) (test : Run → Bool) : (tables.removeRuns test).Sound where
  keyed :=
    { sound.keyed with
      runs := Rows.nodup_filter sound.keyed.runs _
      results := Rows.nodup_filter sound.keyed.results _ }
  linked :=
    { testCases := sound.linked.testCases
      steps := sound.linked.steps
      runs := fun run present => sound.linked.runs run (List.mem_filter.1 present).1
      results := by
        intro result present
        obtain ⟨old, kept⟩ := List.mem_filter.1 present
        obtain ⟨owner, owned, same⟩ := sound.linked.results result old
        refine ⟨owner, List.mem_filter.2 ⟨owned, ?_⟩, same⟩
        by_contra removed
        have named : result.runId ∈ (tables.runs.filter test).map Run.id :=
          List.mem_map.2 ⟨owner, List.mem_filter.2 ⟨owned, by simpa using removed⟩, same⟩
        simp [named] at kept }
  numbered := sound.numbered

/-- Steps stay numbered when whole test cases lose theirs. -/
theorem numbered_filter (sound : tables.Sound) (keep : String → Bool) :
    Numbered { tables with steps := tables.steps.filter fun step => keep step.testCaseId } := by
  intro id
  rw [listSteps_filter]
  split
  · exact sound.numbered id
  · rfl

/-- The removal of test cases with all that depends on them keeps the tables sound. -/
theorem removeTestCases (sound : tables.Sound) (test : TestCase → Bool) :
    (tables.removeTestCases test).Sound := by
  let removed := (tables.testCases.filter test).map TestCase.id
  have survives (owner : TestCase) (owned : owner ∈ tables.testCases) (id : String)
      (same : owner.id = id) (kept : (!removed.contains id) = true) :
      owner ∈ (tables.removeTestCases test).testCases := by
    refine List.mem_filter.2 ⟨owned, ?_⟩
    by_contra chosen
    have named : id ∈ removed :=
      List.mem_map.2 ⟨owner, List.mem_filter.2 ⟨owned, by simpa using chosen⟩, same⟩
    rw [List.contains_iff_mem.2 named] at kept
    cases kept
  have rest := sound.removeRuns fun run => removed.contains run.testCaseId
  exact
    { keyed :=
        { rest.keyed with
          testCases := Rows.nodup_filter sound.keyed.testCases _
          steps := Rows.nodup_filter sound.keyed.steps _ }
      linked :=
        { results := rest.linked.results
          testCases := fun testCase present =>
            sound.linked.testCases testCase (List.mem_filter.1 present).1
          steps := by
            intro step present
            obtain ⟨old, kept⟩ := List.mem_filter.1 present
            obtain ⟨owner, owned, same⟩ := sound.linked.steps step old
            exact ⟨owner, survives owner owned _ same kept, same⟩
          runs := by
            intro run present
            obtain ⟨old, kept⟩ := List.mem_filter.1 present
            obtain ⟨owner, owned, same⟩ := sound.linked.runs run old
            exact ⟨owner, survives owner owned _ same kept, same⟩ }
      numbered := sound.numbered_filter fun id => !removed.contains id }

/-- The removal of a project with all that depends on it keeps the tables sound. -/
theorem removeProject (sound : tables.Sound) (id : String) : (tables.removeProject id).Sound := by
  have rest := sound.removeTestCases fun testCase => testCase.projectId = id
  exact
    { keyed := { rest.keyed with projects := Rows.nodup_filter sound.keyed.projects _ }
      linked :=
        { rest.linked with
          testCases := by
            intro testCase present
            obtain ⟨old, kept⟩ := List.mem_filter.1 present
            obtain ⟨owner, owned, same⟩ := sound.linked.testCases testCase old
            refine ⟨owner, List.mem_filter.2 ⟨owned, ?_⟩, same⟩
            rw [same]
            simpa using kept }
      numbered := rest.numbered }

/-- The removal of the steps of a test case keeps the tables sound. -/
theorem clearSteps (sound : tables.Sound) (id : String) :
    Sound { tables with steps := tables.steps.filter fun step => step.testCaseId ≠ id } where
  keyed := { sound.keyed with steps := Rows.nodup_filter sound.keyed.steps _ }
  linked :=
    { sound.linked with
      steps := fun step present => sound.linked.steps step (List.mem_filter.1 present).1 }
  numbered := sound.numbered_filter fun other => decide (other ≠ id)

/-- A change of a test case that keeps its id and its project keeps the tables sound. -/
theorem updateTestCase (sound : tables.Sound) (id : String) (change : TestCase → TestCase)
    (sameId : ∀ testCase, (change testCase).id = testCase.id)
    (sameProject : ∀ testCase, (change testCase).projectId = testCase.projectId) :
    Sound { tables with
      testCases := tables.testCases.map fun testCase =>
        if testCase.id = id then change testCase else testCase } := by
  have kept := Rows.map_key_update TestCase.id tables.testCases
    (fun testCase => decide (testCase.id = id)) change sameId
  simp only [decide_eq_true_eq] at kept
  have finds (named : String) (owned : ∃ owner ∈ tables.testCases, owner.id = named) :
      ∃ owner ∈ tables.testCases.map fun testCase =>
        if testCase.id = id then change testCase else testCase, owner.id = named := by
    rw [← List.mem_map, kept]
    exact List.mem_map.2 owned
  exact
    { keyed := { sound.keyed with testCases := by simpa only [kept] using sound.keyed.testCases }
      linked :=
        { results := sound.linked.results
          testCases := by
            intro testCase present
            obtain ⟨old, found, rfl⟩ := List.mem_map.1 present
            obtain ⟨owner, owned, same⟩ := sound.linked.testCases old found
            refine ⟨owner, owned, ?_⟩
            split <;> simp [same, sameProject]
          steps := fun step present => finds _ (sound.linked.steps step present)
          runs := fun run present => finds _ (sound.linked.runs run present) }
      numbered := sound.numbered }

/-- A test case that is new has no steps. -/
theorem bare_of_new (sound : tables.Sound) {id : String}
    (new : id ∉ tables.testCases.map TestCase.id) :
    ∀ step ∈ tables.steps, step.testCaseId ≠ id := by
  intro step present same
  obtain ⟨owner, owned, named⟩ := sound.linked.steps step present
  exact new (List.mem_map.2 ⟨owner, owned, named.trans same⟩)

/-- Numbered steps of a test case without steps keep the tables sound. -/
theorem withSteps (sound : tables.Sound) {id : String} {steps : List Step}
    (unique : ((tables.steps ++ steps).map Step.id).Nodup)
    (owned : ∃ testCase ∈ tables.testCases, testCase.id = id)
    (bare : ∀ step ∈ tables.steps, step.testCaseId ≠ id)
    (own : ∀ step ∈ steps, step.testCaseId = id)
    (orders : steps.map Step.order = List.range' 1 steps.length) :
    Sound { tables with steps := tables.steps ++ steps } where
  keyed := { sound.keyed with steps := unique }
  linked :=
    { sound.linked with
      steps := by
        intro step present
        rcases List.mem_append.1 present with old | added
        · exact sound.linked.steps step old
        · rw [own step added]
          exact owned }
  numbered := by
    intro other
    by_cases same : other = id
    · rw [same, listSteps_append_own bare own orders, orders]
    · rw [listSteps_append_other own same]
      exact sound.numbered other

end Sound

end StepRunner.Tables
