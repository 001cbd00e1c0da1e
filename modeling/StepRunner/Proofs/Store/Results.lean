import StepRunner.Proofs.Store.Lives

/-!
This file follows the step results of the runs through the calls of the store.
The results of a run are numbered from one in the order of insertion.
-/

namespace StepRunner.Store

namespace Operation

/-- What a call makes of the results of a run. -/
inductive Leaves (operation : Operation) (runId : String) (before after : Tables) : Prop where
  | kept (orders : (after.resultsOf runId).map StepResult.order =
      (before.resultsOf runId).map StepResult.order)
  | added (result : StepResult) (call : operation = .insertResult result)
      (own : result.runId = runId)
      (results : after.resultsOf runId = before.resultsOf runId ++ [result])
  | cleared (results : after.resultsOf runId = [])
      (gone : runId ∉ after.runs.map Run.id ∨ operation = .deleteQueuedRun runId)

variable {operation : Operation} {runId : String} {before after : Tables}

theorem Leaves.of_same (same : after.results = before.results) :
    operation.Leaves runId before after :=
  .kept (by simp only [Tables.resultsOf, same])

/-- Results that change at their places keep their numbers. -/
theorem orders_map {change : StepResult → StepResult}
    (results : after.results = before.results.map change)
    (sameRun : ∀ result, (change result).runId = result.runId)
    (sameOrder : ∀ result, (change result).order = result.order) :
    (after.resultsOf runId).map StepResult.order =
      (before.resultsOf runId).map StepResult.order := by
  simp only [Tables.resultsOf, results, List.filter_map, List.map_map, Function.comp_def, sameRun,
    sameOrder]

theorem Leaves.updateResults {test : StepResult → Bool} {change : StepResult → StepResult}
    (results : after.results = (before.updateResults test change).results)
    (sameRun : ∀ result, (change result).runId = result.runId)
    (sameOrder : ∀ result, (change result).order = result.order) :
    operation.Leaves runId before after := by
  refine .kept (orders_map results (fun result => ?_) fun result => ?_)
  · split
    · exact sameRun result
    · rfl
  · split
    · exact sameOrder result
    · rfl

/-- The results of a run go together with the run. -/
theorem Leaves.removeRuns (keyed : before.Keyed) {test : Run → Bool}
    (runs : after.runs = (before.removeRuns test).runs)
    (results : after.results = (before.removeRuns test).results) :
    operation.Leaves runId before after := by
  by_cases removed : ((before.runs.filter test).map Run.id).contains runId = true
  · refine .cleared ?_ (.inl ?_)
    · simp only [Tables.resultsOf, results, Tables.removeRuns, List.filter_eq_nil_iff]
      intro result present own
      have stays := (List.mem_filter.1 present).2
      rw [decide_eq_true_eq] at own
      rw [own, removed] at stays
      cases stays
    · rw [runs]
      intro present
      obtain ⟨run, kept, rfl⟩ := List.mem_map.1 present
      obtain ⟨other, chosen, same⟩ := List.mem_map.1 (List.contains_iff_mem.1 removed)
      obtain ⟨among, tested⟩ := List.mem_filter.1 chosen
      obtain ⟨stored, spared⟩ := List.mem_filter.1 kept
      obtain rfl := Rows.eq_of_key_eq keyed.runs among stored same
      rw [tested] at spared
      cases spared
  · refine .kept (congrArg _ ?_)
    simp only [Tables.resultsOf, results, Tables.removeRuns, List.filter_filter]
    apply List.filter_congr
    intro result _
    by_cases own : result.runId = runId
    · simp only [own, removed, Bool.not_false, Bool.and_true]
    · simp [own]

end Operation

section Calls

variable {store after : Store}

theorem results_insertSteps {id : String} {drafts : List StepDraft} {steps : List Step}
    (inserted : store.insertSteps id drafts = .ok (steps, after)) :
    after.tables.results = store.tables.results ∧ store.minted ≤ after.minted := by
  obtain ⟨-, added, minted⟩ := insertSteps_eq inserted
  rw [(addSteps_eq added).1]
  exact ⟨rfl, by omega⟩

theorem results_createTestCase {now : Int} {projectId title : String} {drafts : List StepDraft}
    {made : TestCase × List Step}
    (created : store.createTestCase now projectId title drafts = .ok (made, after)) :
    after.tables.results = store.tables.results ∧ store.minted ≤ after.minted := by
  obtain ⟨testCase, steps⟩ := made
  obtain ⟨-, tables, added, inserted⟩ := createTestCase_eq created
  obtain ⟨-, -, rfl⟩ := Tables.addTestCase_eq added
  obtain ⟨same, later⟩ := results_insertSteps inserted
  exact ⟨same, (Nat.le_succ _).trans later⟩

theorem results_replaceSteps {now : Int} {id : String} {drafts : List StepDraft}
    {steps : List Step} (replaced : store.replaceSteps now id drafts = .ok (steps, after)) :
    after.tables.results = store.tables.results ∧ store.minted ≤ after.minted := by
  have kept := results_insertSteps (replaceSteps_eq replaced).2
  exact kept

/-- Every call keeps the numbers of the results of a run, adds one to them, or removes them all. -/
theorem leaves_perform (sound : store.tables.Sound) (operation : Operation) (runId : String) :
    operation.Leaves runId store.tables (store.perform operation).tables := by
  cases operation with
  | mint => exact .of_same rfl
  | createProject now name =>
    refine accepting_map_induction (Operation.Leaves _ runId store.tables ·.tables) (.of_same rfl)
      fun project after created => ?_
    obtain ⟨-, -, rfl⟩ := createProject_eq created
    exact .of_same rfl
  | createTestCase now projectId title drafts =>
    exact accepting_map_induction (Operation.Leaves _ runId store.tables ·.tables) (.of_same rfl)
      fun made after created => .of_same (results_createTestCase created).1
  | replaceSteps now testCaseId drafts =>
    exact accepting_map_induction (Operation.Leaves _ runId store.tables ·.tables) (.of_same rfl)
      fun steps after replaced => .of_same (results_replaceSteps replaced).1
  | deleteProject id => exact .removeRuns sound.keyed rfl rfl
  | deleteTestCase id => exact .removeRuns sound.keyed rfl rfl
  | insertRun run =>
    refine accepting_induction (Operation.Leaves _ runId store.tables ·.tables) (.of_same rfl)
      fun after inserted => ?_
    obtain ⟨-, -, rfl⟩ := insertRun_eq inserted
    exact .of_same rfl
  | moveRun now id next error =>
    refine accepting_map_induction (Operation.Leaves _ runId store.tables ·.tables) (.of_same rfl)
      fun run after moves => ?_
    obtain ⟨row, -, -, rfl, rfl⟩ := moveRun_eq moves
    exact .of_same rfl
  | deleteQueuedRun id =>
    by_cases same : id = runId
    · subst same
      refine .cleared ?_ (.inr rfl)
      simp only [perform, deleteQueuedRun, withTables, Tables.removeRuns, Tables.resultsOf,
        List.filter_eq_nil_iff]
      intro result present own
      have others := (List.mem_filter.1 (List.mem_filter.1 present).1).2
      simp_all
    · refine .kept (congrArg _ ?_)
      simp only [perform, deleteQueuedRun, withTables, Tables.removeRuns, Tables.resultsOf,
        List.filter_filter]
      apply List.filter_congr
      intro result _
      by_cases own : result.runId = runId
      · have others : ∀ run ∈ store.tables.runs, run.id = id → run.status = .queued →
            run.id ≠ runId := fun run _ named _ again => same (named.symm.trans again)
        simpa [own, Ne.symm same] using others
      · simp [own]
  | recover now => exact .updateResults rfl (fun _ => rfl) fun _ => rfl
  | insertResult result =>
    refine accepting_induction (Operation.Leaves _ runId store.tables ·.tables) (.of_same rfl)
      fun after inserted => ?_
    obtain ⟨-, -, rfl⟩ := insertResult_eq inserted
    have rows := resultsOf_append store.tables runId result
    by_cases own : result.runId = runId
    · rw [if_pos own] at rows
      exact .added result rfl own rows
    · rw [if_neg own, List.append_nil] at rows
      exact .kept (congrArg _ rows)
  | finishResult outcome =>
    refine accepting_induction (Operation.Leaves _ runId store.tables ·.tables) (.of_same rfl)
      fun after finished => ?_
    rw [finishResult_eq finished]
    exact .updateResults rfl (fun _ => rfl) fun _ => rfl
  | failPending now runId error => exact .updateResults rfl (fun _ => rfl) fun _ => rfl

/-- The store never forgets how many ids it has handed out. -/
theorem minted_le_perform (store : Store) (operation : Operation) :
    store.minted ≤ (store.perform operation).minted := by
  cases operation with
  | mint => exact Nat.le_succ _
  | createProject now name =>
    refine accepting_map_induction (store.minted ≤ ·.minted) le_rfl fun project after created => ?_
    obtain ⟨-, -, rfl⟩ := createProject_eq created
    exact Nat.le_succ _
  | createTestCase now projectId title drafts =>
    exact accepting_map_induction (store.minted ≤ ·.minted) le_rfl
      fun made after created => (results_createTestCase created).2
  | replaceSteps now testCaseId drafts =>
    exact accepting_map_induction (store.minted ≤ ·.minted) le_rfl
      fun steps after replaced => (results_replaceSteps replaced).2
  | deleteProject id => exact le_rfl
  | deleteTestCase id => exact le_rfl
  | insertRun run =>
    refine accepting_induction (store.minted ≤ ·.minted) le_rfl fun after inserted => ?_
    obtain ⟨-, -, rfl⟩ := insertRun_eq inserted
    exact le_rfl
  | moveRun now id next error =>
    refine accepting_map_induction (store.minted ≤ ·.minted) le_rfl fun run after moves => ?_
    obtain ⟨row, -, -, -, rfl⟩ := moveRun_eq moves
    exact le_rfl
  | deleteQueuedRun id => exact le_rfl
  | recover now => exact le_rfl
  | insertResult result =>
    refine accepting_induction (store.minted ≤ ·.minted) le_rfl fun after inserted => ?_
    obtain ⟨-, -, rfl⟩ := insertResult_eq inserted
    exact le_rfl
  | finishResult outcome =>
    refine accepting_induction (store.minted ≤ ·.minted) le_rfl fun after finished => ?_
    rw [finishResult_eq finished]
    exact le_rfl
  | failPending now runId error => exact le_rfl

end Calls

section Records

/-- A call keeps a faithful record of the steps. -/
def Operation.Fits (tables : Tables) : Operation → Prop
  | .insertRun run => run.status = .queued ∧ run.endedAt = none
  | .insertResult result =>
    result.status = .pending ∧ (result.runId ∈ tables.runs.map Run.id →
      result.order = (tables.resultsOf result.runId).length + 1)
  | .finishResult outcome => outcome.endedAt.isSome = true
  | _ => True

/-- A step has an end once it is decided. -/
def Decided (store : Store) : Prop :=
  ∀ result ∈ store.tables.results, result.status ≠ .pending → result.endedAt.isSome = true

/-- The results of each run are numbered from one in the order of insertion. -/
def Ordered (store : Store) : Prop :=
  ∀ runId, (store.tables.resultsOf runId).map StepResult.order =
    List.range' 1 (store.tables.resultsOf runId).length

/-- Each run and each step is recorded with its end, and the steps of a run in their order. -/
structure Faithful (store : Store) : Prop where
  sound : store.tables.Sound
  dated : store.Dated
  decided : store.Decided
  ordered : store.Ordered

variable {store after : Store} {operation : Operation}

theorem faithful_empty : Faithful {} where
  sound := .empty
  dated := by simp [Dated]
  decided := by simp [Decided]
  ordered runId := rfl

theorem Decided.of_subset (decided : store.Decided)
    (subset : after.tables.results ⊆ store.tables.results) : after.Decided :=
  fun result present => decided result (subset present)

theorem Decided.of_same (decided : store.Decided)
    (same : after.tables.results = store.tables.results) : after.Decided :=
  decided.of_subset (same ▸ List.Subset.refl _)

/-- Results that change at their places and get an end are recorded with it. -/
theorem Decided.updateResults (decided : store.Decided) {test : StepResult → Bool}
    {change : StepResult → StepResult}
    (results : after.tables.results = (store.tables.updateResults test change).results)
    (ends : ∀ result, (change result).endedAt.isSome = true) : after.Decided := by
  intro result present finished
  rw [results] at present
  obtain ⟨old, among, rfl⟩ := List.mem_map.1 present
  by_cases chosen : test old = true
  · rw [if_pos chosen]
    exact ends old
  · rw [if_neg chosen] at finished ⊢
    exact decided old among finished

/-- A fitting call records the end of each step that it decides. -/
theorem Decided.perform (decided : store.Decided) (fits : operation.Fits store.tables) :
    (store.perform operation).Decided := by
  cases operation with
  | mint => exact decided
  | createProject now name =>
    refine accepting_map_induction Decided decided fun project after created => ?_
    obtain ⟨-, -, rfl⟩ := createProject_eq created
    exact decided
  | createTestCase now projectId title drafts =>
    exact accepting_map_induction Decided decided
      fun made after created => decided.of_same (results_createTestCase created).1
  | replaceSteps now testCaseId drafts =>
    exact accepting_map_induction Decided decided
      fun steps after replaced => decided.of_same (results_replaceSteps replaced).1
  | deleteProject id => exact decided.of_subset List.filter_sublist.subset
  | deleteTestCase id => exact decided.of_subset List.filter_sublist.subset
  | insertRun run =>
    refine accepting_induction Decided decided fun after inserted => ?_
    obtain ⟨-, -, rfl⟩ := insertRun_eq inserted
    exact decided
  | moveRun now id next error =>
    refine accepting_map_induction Decided decided fun run after moves => ?_
    obtain ⟨row, -, -, -, rfl⟩ := moveRun_eq moves
    exact decided
  | deleteQueuedRun id =>
    exact decided.of_subset
      (List.Subset.trans List.filter_sublist.subset List.filter_sublist.subset)
  | recover now => exact decided.updateResults rfl fun _ => rfl
  | insertResult result =>
    refine accepting_induction Decided decided fun after inserted => ?_
    obtain ⟨-, -, rfl⟩ := insertResult_eq inserted
    intro row present finished
    rcases List.mem_append.1 present with old | added
    · exact decided row old finished
    · rw [List.mem_singleton.1 added] at finished
      exact absurd fits.1 finished
  | finishResult outcome =>
    refine accepting_induction Decided decided fun after finished => ?_
    rw [finishResult_eq finished]
    exact decided.updateResults rfl fun _ => fits
  | failPending now runId error => exact decided.updateResults rfl fun _ => rfl

/-- A result that the store takes belongs to a run that it has. -/
theorem owned_of_added {result : StepResult} {runId : String}
    (added : (store.perform (.insertResult result)).tables.resultsOf runId =
      store.tables.resultsOf runId ++ [result]) : result.runId ∈ store.tables.runs.map Run.id := by
  cases outcome : store.insertResult result with
  | ok after =>
    obtain ⟨-, ⟨run, present, same⟩, -⟩ := insertResult_eq outcome
    exact List.mem_map.2 ⟨run, present, same⟩
  | error fault =>
    simp only [perform, outcome, accepting] at added
    simp at added

theorem Ordered.of_orders (ordered : store.Ordered)
    (orders : ∀ runId, (after.tables.resultsOf runId).map StepResult.order =
      (store.tables.resultsOf runId).map StepResult.order) : after.Ordered := by
  intro runId
  have lengths := congrArg List.length (orders runId)
  rw [List.length_map, List.length_map] at lengths
  rw [orders, lengths, ordered]

/-- A fitting call numbers the result that it adds. -/
theorem Ordered.perform (ordered : store.Ordered) (sound : store.tables.Sound)
    (fits : operation.Fits store.tables) : (store.perform operation).Ordered := by
  intro runId
  cases leaves_perform sound operation runId with
  | kept orders =>
    have lengths := congrArg List.length orders
    rw [List.length_map, List.length_map] at lengths
    rw [orders, lengths, ordered]
  | added result call own results =>
    subst call own
    have order := fits.2 (owned_of_added results)
    rw [results, List.map_append, ordered, List.length_append, List.length_singleton,
      List.range'_concat, List.map_singleton, order]
    simp [Nat.add_comm]
  | cleared results gone =>
    rw [results]
    rfl

/-- A fitting call keeps the record faithful. -/
theorem Faithful.perform (faithful : store.Faithful) (fits : operation.Fits store.tables) :
    (store.perform operation).Faithful where
  sound := tables_perform faithful.sound operation
  dated := by
    refine faithful.dated.perform faithful.sound ?_
    cases operation with
    | insertRun run => exact fits
    | _ => exact trivial
  decided := faithful.decided.perform fits
  ordered := faithful.ordered.perform faithful.sound fits

end Records

end StepRunner.Store
