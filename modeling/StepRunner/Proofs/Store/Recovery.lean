import Mathlib.Data.List.Forall2
import StepRunner.Proofs.Store.Results

/-!
This file says what a recovery makes of a faithful store.
A recovery may be cut off between its two halves and made again.
-/

namespace StepRunner.Store

variable {before store : Store} {now : Int}

/-- A faithful store lists the results of a run in the order of insertion. -/
theorem Faithful.listResults_eq (faithful : store.Faithful) (runId : String) :
    store.tables.listResults runId = store.tables.resultsOf runId := by
  have sorted : ((store.tables.resultsOf runId).map StepResult.order).Pairwise (· ≤ ·) := by
    rw [faithful.ordered]
    exact List.pairwise_le_range'
  rw [List.pairwise_map] at sorted
  rw [Tables.listResults_eq]
  exact List.mergeSort_of_pairwise (sorted.imp (by simp))

section Halves

/-- What may become of the row of a step result. -/
structure Settles (old new : StepResult) : Prop where
  id : new.id = old.id
  runId : new.runId = old.runId
  stepId : new.stepId = old.stepId
  order : new.order = old.order
  /-- A result that is decided stays as it is. -/
  kept : old.status ≠ .pending → new = old

/-- What first halves of recoveries have made of a store. -/
structure Halved (before after : Store) : Prop where
  faithful : after.Faithful
  rest : after.tables = { before.tables with results := after.tables.results }
  results : List.Forall₂ Settles before.tables.results after.tables.results

/-- What the first half of a recovery makes of a step result. -/
def settled (now : Int) (result : StepResult) : StepResult :=
  if result.status = .pending then
    { result with status := .failed, errorText := some interruptedMessage, endedAt := some now }
  else result

theorem results_recoverResults (store : Store) (now : Int) :
    (store.recoverResults now).tables.results = store.tables.results.map (settled now) := by
  simp [recoverResults, withTables, Tables.updateResults, settled]

theorem settles_settled (now : Int) (result : StepResult) :
    Settles result (settled now result) := by
  unfold settled
  split
  · next pending => exact ⟨rfl, rfl, rfl, rfl, fun decided => absurd pending decided⟩
  · exact ⟨rfl, rfl, rfl, rfl, fun _ => rfl⟩

theorem Settles.trans {first second third : StepResult} (earlier : Settles first second)
    (later : Settles second third) : Settles first third where
  id := later.id.trans earlier.id
  runId := later.runId.trans earlier.runId
  stepId := later.stepId.trans earlier.stepId
  order := later.order.trans earlier.order
  kept decided := by
    have same := earlier.kept decided
    rw [later.kept (same ▸ decided), same]

theorem settled_status (now : Int) (result : StepResult) :
    (settled now result).status ≠ .pending := by
  unfold settled
  split
  · exact nofun
  · assumption

theorem Faithful.halved (faithful : store.Faithful) : Halved store store where
  faithful := faithful
  rest := rfl
  results := List.forall₂_same.2 fun _ _ => ⟨rfl, rfl, rfl, rfl, fun _ => rfl⟩

/-- The first half of a recovery leaves the store faithful. -/
theorem Faithful.recoverResults (faithful : store.Faithful) (now : Int) :
    (store.recoverResults now).Faithful where
  sound := faithful.sound.updateResults _ (fun _ => rfl) fun _ => rfl
  dated := faithful.dated
  decided := faithful.decided.updateResults rfl fun _ => rfl
  ordered := by
    refine faithful.ordered.of_orders fun runId => ?_
    exact Operation.orders_map (results_recoverResults store now)
      (fun result => (settles_settled now result).runId)
      fun result => (settles_settled now result).order

theorem Halved.recoverResults (halved : Halved before store) (now : Int) :
    Halved before (store.recoverResults now) where
  faithful := halved.faithful.recoverResults now
  rest := by
    have rest := halved.rest
    simp only [Store.recoverResults, withTables, Tables.updateResults]
    rw [rest]
  results := by
    rw [results_recoverResults]
    refine List.forall₂_map_right_iff.2 (halved.results.imp fun old new settles => ?_)
    exact settles.trans (settles_settled now new)

theorem Halved.foldl (halved : Halved before store) (halves : List Int) :
    Halved before (halves.foldl Store.recoverResults store) := by
  induction halves generalizing store with
  | nil => exact halved
  | cons now halves inductionHypothesis => exact inductionHypothesis (halved.recoverResults now)

end Halves

section Recoveries

/-- What a recovery makes of a run. -/
def resumed (now : Int) (run : Run) : Run :=
  if isOpen run then interrupted run now else run

/-- A recovery settles the results and resumes the runs at their places. -/
theorem recover_eq (store : Store) (now : Int) :
    (store.recover now).2 = store.withTables
      { store.tables with
        runs := store.tables.runs.map (resumed now)
        results := store.tables.results.map (settled now) } := by
  have results := results_recoverResults store now
  rw [← results]
  rfl

theorem isOpen_resumed (now : Int) (run : Run) : isOpen (resumed now run) = false := by
  unfold resumed
  split
  · rfl
  · next closed => simpa using closed

/-- What a recovery has made of a store, and the number that it gives. -/
structure Recovered (before : Store) (count : Nat) (after : Store) : Prop where
  ended : ∀ run ∈ after.tables.runs, run.status.isTerminal = true ∧ run.endedAt.isSome = true
  decided : ∀ result ∈ after.tables.results,
    result.status ≠ .pending ∧ result.endedAt.isSome = true
  numbered : ∀ runId, (after.tables.listResults runId).map StepResult.order =
    List.range' 1 (after.tables.listResults runId).length
  /-- The runs are the same ones, and those that had ended are as they were. -/
  runs : List.Forall₂
    (fun old new => new.id = old.id ∧ (old.status.isTerminal = true → new = old))
    before.tables.runs after.tables.runs
  /-- The results are the same ones, and those that were decided are as they were. -/
  results : List.Forall₂ Settles before.tables.results after.tables.results
  projects : after.tables.projects = before.tables.projects
  testCases : after.tables.testCases = before.tables.testCases
  steps : after.tables.steps = before.tables.steps
  count_eq : count = before.tables.runs.countP fun run =>
    run.status = .queued || run.status = .running
  /-- There is nothing left for another recovery. -/
  again : ∀ later, after.recover later = (0, after)

/-- A recovery finds nothing in a store where everything has ended. -/
theorem recover_of_settled (ended : ∀ run ∈ store.tables.runs, isOpen run = false)
    (decided : ∀ result ∈ store.tables.results, result.status ≠ .pending) (now : Int) :
    store.recover now = (0, store) := by
  have runs : store.tables.runs.map (resumed now) = store.tables.runs := by
    refine (List.map_congr_left fun run present => ?_).trans (List.map_id _)
    simp [resumed, ended run present]
  have results : store.tables.results.map (settled now) = store.tables.results := by
    refine (List.map_congr_left fun result present => ?_).trans (List.map_id _)
    simp [settled, decided result present]
  have count : (store.recover now).1 = 0 := by
    simp only [recover, List.length_eq_zero_iff, List.filter_eq_nil_iff]
    intro run present
    simp [ended run present]
  have same : (store.recover now).2 = store := by
    rw [recover_eq, runs, results]
    rfl
  exact Prod.ext count same

/-- No run is open after a recovery. -/
theorem isOpen_of_recovered {run : Run} (present : run ∈ (store.recover now).2.tables.runs) :
    isOpen run = false := by
  rw [recover_eq] at present
  obtain ⟨old, -, rfl⟩ := List.mem_map.1 present
  exact isOpen_resumed now old

/-- No step result is pending after a recovery. -/
theorem decided_of_recovered {result : StepResult}
    (present : result ∈ (store.recover now).2.tables.results) : result.status ≠ .pending := by
  rw [recover_eq] at present
  obtain ⟨old, -, rfl⟩ := List.mem_map.1 present
  exact settled_status now old

/-- A recovery leaves a run that has ended as it is. -/
theorem resumed_of_terminal {run : Run} (terminal : run.status.isTerminal = true) :
    resumed now run = run := by
  have closed : isOpen run = false := by
    by_contra unfinished
    rw [Bool.not_eq_false, isOpen_iff, terminal] at unfinished
    cases unfinished
  simp [resumed, closed]

theorem resumed_id (now : Int) (run : Run) : (resumed now run).id = run.id := by
  unfold resumed
  split <;> rfl

/-- A recovery settles a faithful store, also when first halves of recoveries went before. -/
theorem Halved.recovered (halved : Halved before store) (now : Int) :
    Recovered before (store.recover now).1 (store.recover now).2 := by
  have fits : Operation.Fits store.tables (.recover now) := trivial
  have faithful : (store.recover now).2.Faithful := halved.faithful.perform fits
  have runs : store.tables.runs = before.tables.runs := by rw [halved.rest]
  exact {
    ended run present := by
      have terminal : run.status.isTerminal = true := by
        by_contra unfinished
        rw [Bool.not_eq_true, ← isOpen_iff, isOpen_of_recovered present] at unfinished
        cases unfinished
      exact ⟨terminal, (faithful.dated run present).trans terminal⟩
    decided result present := by
      have decided := decided_of_recovered present
      exact ⟨decided, faithful.decided result present decided⟩
    numbered runId := by
      rw [faithful.listResults_eq]
      exact faithful.ordered runId
    runs := by
      rw [recover_eq, ← runs]
      refine List.forall₂_map_right_iff.2 (List.forall₂_same.2 fun run _ => ?_)
      exact ⟨resumed_id now run, resumed_of_terminal⟩
    results := by
      rw [recover_eq]
      refine List.forall₂_map_right_iff.2 (halved.results.imp fun old new settles => ?_)
      exact settles.trans (settles_settled now new)
    projects := by
      rw [recover_eq, halved.rest]
      rfl
    testCases := by
      rw [recover_eq, halved.rest]
      rfl
    steps := by
      rw [recover_eq, halved.rest]
      rfl
    count_eq := by
      rw [← runs, List.countP_eq_length_filter]
      rfl
    again := recover_of_settled (fun _ => isOpen_of_recovered) fun _ => decided_of_recovered }

/-- A recovery settles a faithful store, however often it was cut off before. -/
theorem Faithful.recovered (faithful : store.Faithful) (halves : List Int) (now : Int) :
    Recovered store ((halves.foldl Store.recoverResults store).recover now).1
      ((halves.foldl Store.recoverResults store).recover now).2 :=
  (faithful.halved.foldl halves).recovered now

end Recoveries

end StepRunner.Store
