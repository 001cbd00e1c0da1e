import StepRunner.Proofs.Store.Soundness

/-!
This file says what the operations on runs and step results do to a sound store.
-/

namespace StepRunner

theorem RunStatus.running_canMoveTo {next : RunStatus} (ends : next.isTerminal = true) :
    running.canMoveTo next = true := by
  cases next <;> simp_all [isTerminal, canMoveTo]

namespace Store

variable {store : Store}

section Runs

/-- A stored run moves along an edge of its life. -/
theorem moveRun_of_mem (sound : store.Sound) {run : Run} (present : run ∈ store.tables.runs)
    {next : RunStatus} (edge : run.status.canMoveTo next = true) (now : Int)
    (error : Option String) :
    store.moveRun now run.id next error =
      .ok (moved run now next error, store.writeMove (moved run now next error)) := by
  have found := sound.tables.keyed.run?_eq_some_iff.2 ⟨present, rfl⟩
  simp [moveRun, checkMove, found, edge, bind, Except.bind, pure, Except.pure]

/-- A move changes the row of its run and no other row. -/
theorem mem_runs_writeMove (sound : store.Sound) {run : Run} (present : run ∈ store.tables.runs)
    (now : Int) (next : RunStatus) (error : Option String) {row : Run} :
    row ∈ (store.writeMove (moved run now next error)).tables.runs ↔
      row = moved run now next error ∨ row ∈ store.tables.runs ∧ row.id ≠ run.id := by
  simp only [writeMove, withTables, Tables.updateRun, List.mem_map]
  constructor
  · rintro ⟨old, among, rfl⟩
    by_cases same : old.id = (moved run now next error).id
    · obtain rfl := Rows.eq_of_key_eq sound.tables.keyed.runs among present same
      rw [if_pos same]
      exact .inl rfl
    · rw [if_neg same]
      exact .inr ⟨among, same⟩
  · rintro (rfl | ⟨among, other⟩)
    · exact ⟨run, present, if_pos rfl⟩
    · exact ⟨row, among, if_neg other⟩

/-- A change of runs that keeps their ids and test cases keeps the store sound. -/
theorem Sound.mapRuns (sound : store.Sound) {change : Run → Run}
    (sameId : ∀ run, (change run).id = run.id)
    (sameCase : ∀ run, (change run).testCaseId = run.testCaseId) :
    (store.withTables { store.tables with runs := store.tables.runs.map change }).Sound := by
  have kept : (store.tables.runs.map change).map Run.id = store.tables.runs.map Run.id := by
    rw [List.map_map]
    exact List.map_congr_left fun run _ => sameId run
  refine ⟨sound.tables.mapRuns sameId sameCase, ?_⟩
  refine sound.fresh_of le_rfl fun id present => .inl (Tables.ids_subset ?_ ?_ ?_ ?_ ?_ present)
  · exact List.Subset.refl _
  · exact List.Subset.refl _
  · exact List.Subset.refl _
  · exact fun id among => kept ▸ among
  · exact List.Subset.refl _

theorem Sound.writeMove (sound : store.Sound) (run : Run) : (store.writeMove run).Sound := by
  refine sound.mapRuns (fun row => ?_) fun row => ?_
  · split <;> rfl
  · split <;> rfl

/-- A run with the id that was just handed out is added to its test case. -/
theorem insertRun_of_minted (sound : store.Sound) (run : Run)
    (made : run.id = idOf store.minted)
    (owned : ∃ testCase ∈ store.tables.testCases, testCase.id = run.testCaseId) :
    let after : Store :=
      ⟨{ store.tables with runs := store.tables.runs ++ [run] }, store.minted + 1⟩
    store.mint.2.insertRun run = .ok after ∧ after.Sound := by
  have new : run.id ∉ store.tables.runs.map Run.id := by
    intro present
    exact sound.fresh _ le_rfl (made ▸ by simp [Tables.ids, present])
  refine ⟨?_, sound.tables.withRun new owned, sound.fresh_of (Nat.le_succ _) ?_⟩
  · simp only [insertRun, change, mint]
    rw [Tables.addRun_of_new new owned]
    rfl
  · intro id present
    by_cases same : id = run.id
    · exact .inr ⟨store.minted, Nat.lt_succ_self _, same.trans made⟩
    · refine .inl ?_
      simp only [Tables.ids, List.map_append, List.mem_append] at present ⊢
      simpa [same] using present

end Runs

section Results

/-- A step result with the id that was just handed out is added to its run. -/
theorem insertResult_of_minted (sound : store.Sound) (result : StepResult)
    (made : result.id = idOf store.minted)
    (owned : ∃ run ∈ store.tables.runs, run.id = result.runId) :
    let after : Store :=
      ⟨{ store.tables with results := store.tables.results ++ [result] }, store.minted + 1⟩
    store.mint.2.insertResult result = .ok after ∧ after.Sound := by
  have new : result.id ∉ store.tables.results.map StepResult.id := by
    intro present
    exact sound.fresh _ le_rfl (made ▸ by simp [Tables.ids, present])
  refine ⟨?_, sound.tables.withResult new owned, sound.fresh_of (Nat.le_succ _) ?_⟩
  · simp only [insertResult, change, mint]
    rw [Tables.addResult_of_new new owned]
    rfl
  · intro id present
    by_cases same : id = result.id
    · exact .inr ⟨store.minted, Nat.lt_succ_self _, same.trans made⟩
    · refine .inl ?_
      simp only [Tables.ids, List.map_append, List.mem_append] at present ⊢
      simpa [same] using present

theorem resultsOf_append (tables : Tables) (runId : String) (result : StepResult) :
    Tables.resultsOf { tables with results := tables.results ++ [result] } runId =
      tables.resultsOf runId ++ if result.runId = runId then [result] else [] := by
  by_cases own : result.runId = runId <;> simp [Tables.resultsOf, own]

/-- A change of step results that keeps their ids and runs keeps the store sound. -/
theorem Sound.updateResults (sound : store.Sound) (test : StepResult → Bool)
    {change : StepResult → StepResult} (sameId : ∀ result, (change result).id = result.id)
    (sameRun : ∀ result, (change result).runId = result.runId) :
    (store.withTables (store.tables.updateResults test change)).Sound := by
  have kept := Rows.map_key_update StepResult.id store.tables.results test change sameId
  refine ⟨sound.tables.updateResults test sameId sameRun, ?_⟩
  refine sound.fresh_of le_rfl fun id among => .inl (Tables.ids_subset ?_ ?_ ?_ ?_ ?_ among)
  · exact List.Subset.refl _
  · exact List.Subset.refl _
  · exact List.Subset.refl _
  · exact List.Subset.refl _
  · exact fun id among => kept ▸ among

/-- The outcome of a step is written over its pending result. -/
theorem finishResult_of_pending (sound : store.Sound) {result outcome : StepResult}
    {finished : List StepResult} (rows : store.tables.resultsOf result.runId = finished ++ [result])
    (decided : ∀ row ∈ finished, row.status ≠ .pending) (pending : result.status = .pending)
    (same : outcome.id = result.id) :
    ∃ after, store.finishResult outcome = .ok after ∧ after.Sound ∧
      after.minted = store.minted ∧ after.tables.testCases = store.tables.testCases ∧
      after.tables.runs = store.tables.runs ∧
      after.tables.resultsOf result.runId = finished ++ [{ result with
        status := outcome.status
        errorText := outcome.errorText
        screenshotPath := outcome.screenshotPath
        endedAt := outcome.endedAt }] := by
  let write (row : StepResult) : StepResult :=
    { row with
      status := outcome.status
      errorText := outcome.errorText
      screenshotPath := outcome.screenshotPath
      endedAt := outcome.endedAt }
  have present : result ∈ store.tables.results := by
    have among : result ∈ store.tables.resultsOf result.runId := by simp [rows]
    exact (List.mem_filter.1 among).1
  have chosen : isPending outcome.id result = true := by simp [isPending, same, pending]
  have accepted : store.finishResult outcome =
      .ok (store.withTables (store.tables.updateResults (isPending outcome.id) write)) := by
    simp only [finishResult, List.any_eq_true.2 ⟨result, present, chosen⟩, if_true, write]
  refine ⟨_, accepted, sound.updateResults _ (fun _ => rfl) fun _ => rfl, rfl, rfl, rfl, ?_⟩
  · have untouched : finished.map (fun row => if isPending outcome.id row then write row else row) =
        finished := by
      conv_rhs => rw [← List.map_id finished]
      apply List.map_congr_left
      intro row among
      simp [isPending, decided row among]
    have ownRun (row : StepResult) :
        (if isPending outcome.id row then write row else row).runId = row.runId := by
      split <;> rfl
    simp only [withTables, Tables.updateResults, Tables.resultsOf, List.filter_map,
      Function.comp_def, ownRun]
    rw [Tables.resultsOf] at rows
    rw [rows, List.map_append, untouched]
    simp [chosen, write]

end Results

end Store

end StepRunner
