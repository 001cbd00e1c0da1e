import StepRunner.Proofs.Store.Operations

/-!
This file shows what becomes of the store when a run is withdrawn because nobody is to begin it.
A queued run goes together with its step results.
A run that has begun stays, but its step results go all the same.
-/

namespace StepRunner

namespace Tables

/-- The tables without a run and its step results. -/
def without (tables : Tables) (id : String) : Tables :=
  { tables with
    runs := tables.runs.filter fun run => run.id ≠ id
    results := tables.results.filter fun result => result.runId ≠ id }

/-- The tables without the step results of a run. -/
def stripped (tables : Tables) (id : String) : Tables :=
  { tables with results := tables.results.filter fun result => result.runId ≠ id }

variable {tables : Tables} {id : String}

/-- Nothing is lost with the step results of a run exactly if it has none. -/
theorem stripped_eq_self_iff : tables.stripped id = tables ↔ tables.resultsOf id = [] := by
  calc tables.stripped id = tables
      ↔ tables.results.filter (fun result => decide (result.runId ≠ id)) = tables.results :=
        ⟨congrArg results, fun same => by rw [stripped, same]⟩
    _ ↔ tables.resultsOf id = [] := by
        simp [resultsOf, List.filter_eq_self, List.filter_eq_nil_iff]

/-- Runs that all have one id are removed beside the step results that go anyway. -/
theorem removeRuns_stripped {test : Run → Bool} (only : ∀ run, test run = true → run.id = id) :
    (tables.stripped id).removeRuns test =
      { tables.stripped id with runs := tables.runs.filter fun run => !test run } := by
  have kept : (tables.stripped id).results.filter
      (fun result => !((tables.runs.filter test).map Run.id).contains result.runId) =
      (tables.stripped id).results := by
    refine List.filter_eq_self.2 fun result present => ?_
    have other : result.runId ≠ id := by simpa using (List.mem_filter.1 present).2
    rw [Bool.not_eq_true', Bool.eq_false_iff, ne_eq, List.contains_iff_mem]
    intro removed
    obtain ⟨run, chosen, same⟩ := List.mem_map.1 removed
    exact other (same.symm.trans (only run (List.mem_filter.1 chosen).2))
  exact congrArg (fun rows => { tables.stripped id with
    runs := tables.runs.filter fun run => !test run, results := rows }) kept

/-- A run is the only one that the tables lose with its id. -/
theorem Keyed.perm_without (keyed : tables.Keyed) {run : Run} (present : run ∈ tables.runs) :
    tables.runs.Perm (run :: (tables.without run.id).runs) := by
  have split := List.filter_append_perm (fun row : Run => decide (row.id = run.id)) tables.runs
  rw [Rows.filter_key_eq keyed.runs present] at split
  simpa [without] using split.symm

end Tables

namespace Store

/-- A run with an id waits for its beginning. -/
def HasQueued (store : Store) (id : String) : Prop :=
  ∃ run ∈ store.tables.runs, run.id = id ∧ run.status = .queued

/-- A withdrawal removes a queued run and its step results, or it is refused without a trace. -/
structure Careful (store : Store) (id : String) : Prop where
  told_iff : (store.deleteQueuedRun id).1 = true ↔ store.HasQueued id
  removes : store.HasQueued id →
    (store.deleteQueuedRun id).2 = store.withTables (store.tables.without id)
  refuses : ¬store.HasQueued id → (store.deleteQueuedRun id).2 = store

/--
What a withdrawal does to a store.
The last part tells exactly when a refusal leaves a trace.
-/
structure Withdraws (store : Store) (id : String) : Prop where
  queued : store.HasQueued id →
    store.deleteQueuedRun id = (true, store.withTables (store.tables.without id)) ∧
      ∃ run, run.id = id ∧ run.status = .queued ∧
        store.tables.runs.Perm (run :: (store.tables.without id).runs)
  refused : ¬store.HasQueued id →
    store.deleteQueuedRun id = (false, store.withTables (store.tables.stripped id))
  unknown : id ∉ store.tables.runs.map Run.id → store.deleteQueuedRun id = (false, store)
  careful_iff : store.Careful id ↔
    ∀ run ∈ store.tables.runs, run.id = id → run.status ≠ .queued →
      store.tables.resultsOf id = []

variable {store : Store} {id : String}

theorem deleteQueuedRun_eq (store : Store) (id : String) :
    store.deleteQueuedRun id =
      (store.tables.runs.any fun run => decide (run.id = id ∧ run.status = .queued),
        store.withTables { store.tables.stripped id with
          runs := store.tables.runs.filter fun run =>
            !decide (run.id = id ∧ run.status = .queued) }) := by
  have only (run : Run) (chosen : decide (run.id = id ∧ run.status = .queued) = true) :
      run.id = id := (of_decide_eq_true chosen).1
  exact congrArg (fun tables => (store.tables.runs.any fun run =>
    decide (run.id = id ∧ run.status = .queued), store.withTables tables))
    (Tables.removeRuns_stripped only)

theorem deleteQueuedRun_told_iff : (store.deleteQueuedRun id).1 = true ↔ store.HasQueued id := by
  simp [deleteQueuedRun, HasQueued]

/-- A queued run goes with all of its step results, and no other run goes. -/
theorem deleteQueuedRun_of_queued (keyed : store.tables.Keyed) (queued : store.HasQueued id) :
    store.deleteQueuedRun id = (true, store.withTables (store.tables.without id)) ∧
      ∃ run, run.id = id ∧ run.status = .queued ∧
        store.tables.runs.Perm (run :: (store.tables.without id).runs) := by
  have told := deleteQueuedRun_told_iff.2 queued
  obtain ⟨run, present, rfl, waits⟩ := queued
  refine ⟨Prod.ext told ?_, run, rfl, waits, keyed.perm_without present⟩
  have same : (store.tables.runs.filter fun row =>
      !decide (row.id = run.id ∧ row.status = .queued)) =
      store.tables.runs.filter fun row => decide (row.id ≠ run.id) := by
    refine List.filter_congr fun row among => ?_
    by_cases named : row.id = run.id
    · obtain rfl := Rows.eq_of_key_eq keyed.runs among present named
      simp [waits]
    · simp [named]
  rw [deleteQueuedRun_eq, same]
  rfl

/-- Where no run is queued, all runs stay, and step results go. -/
theorem deleteQueuedRun_of_unqueued (absent : ¬store.HasQueued id) :
    store.deleteQueuedRun id = (false, store.withTables (store.tables.stripped id)) := by
  have told : (store.deleteQueuedRun id).1 = false :=
    Bool.eq_false_iff.2 fun told => absent (deleteQueuedRun_told_iff.1 told)
  have same : (store.tables.runs.filter fun run =>
      !decide (run.id = id ∧ run.status = .queued)) = store.tables.runs :=
    List.filter_eq_self.2 fun run present => by
      rw [Bool.not_eq_true', decide_eq_false_iff_not]
      exact fun ⟨named, queued⟩ => absent ⟨run, present, named, queued⟩
  refine Prod.ext told ?_
  rw [deleteQueuedRun_eq, same]
  rfl

/-- A refusal changes nothing exactly if the run that stays has no step results. -/
theorem careful_iff_of_unqueued (absent : ¬store.HasQueued id) :
    store.Careful id ↔ store.tables.resultsOf id = [] := by
  have refused := deleteQueuedRun_of_unqueued absent
  rw [← Tables.stripped_eq_self_iff]
  constructor
  · intro careful
    have unchanged := careful.refuses absent
    rw [refused] at unchanged
    exact congrArg tables unchanged
  · intro bare
    refine ⟨deleteQueuedRun_told_iff, fun queued => absurd queued absent, fun _ => ?_⟩
    rw [refused, bare]
    rfl

/-- A run that the store does not know has no step results there. -/
theorem resultsOf_of_unknown (linked : store.tables.Linked)
    (unknown : id ∉ store.tables.runs.map Run.id) : store.tables.resultsOf id = [] := by
  refine List.filter_eq_nil_iff.2 fun result present => ?_
  obtain ⟨run, stored, same⟩ := linked.results result present
  rw [decide_eq_true_eq]
  exact fun own => unknown (List.mem_map.2 ⟨run, stored, same.trans own⟩)

theorem withdraws (sound : store.tables.Sound) (id : String) : store.Withdraws id where
  queued := deleteQueuedRun_of_queued sound.keyed
  refused := deleteQueuedRun_of_unqueued
  unknown := by
    intro unknown
    have absent : ¬store.HasQueued id := fun ⟨run, present, named, _⟩ =>
      unknown (List.mem_map.2 ⟨run, present, named⟩)
    have bare := Tables.stripped_eq_self_iff.2 (resultsOf_of_unknown sound.linked unknown)
    rw [deleteQueuedRun_of_unqueued absent, bare]
    rfl
  careful_iff := by
    by_cases queued : store.HasQueued id
    · have removed := (deleteQueuedRun_of_queued sound.keyed queued).1
      refine iff_of_true ⟨deleteQueuedRun_told_iff, fun _ => congrArg Prod.snd removed,
        fun absent => absurd queued absent⟩ fun run present named begun => ?_
      obtain ⟨other, among, same, waits⟩ := queued
      obtain rfl := Rows.eq_of_key_eq sound.keyed.runs present among (named.trans same.symm)
      exact absurd waits begun
    · rw [careful_iff_of_unqueued queued]
      constructor
      · exact fun bare _ _ _ _ => bare
      · intro bare
        by_cases known : id ∈ store.tables.runs.map Run.id
        · obtain ⟨run, present, named⟩ := List.mem_map.1 known
          exact bare run present named fun waits => queued ⟨run, present, named, waits⟩
        · exact resultsOf_of_unknown sound.linked known

/-- Whatever the store has been through, a withdrawal treats queued runs and others like this. -/
theorem withdraws_performAll (operations : List Operation) (id : String) :
    (({} : Store).performAll operations).Withdraws id :=
  withdraws (tables_performAll .empty operations) id

/-- A run is started and comes to its first step. -/
def begunCalls : List Operation :=
  [.createProject 0 "Shop", .createTestCase 1 (idOf 0) "Login" [],
    .insertRun ⟨"run", idOf 1, .chromium, .queued, 2, none, none⟩,
    .moveRun 3 "run" .running none,
    .insertResult ⟨"result", "run", "step", 1, .pending, none, none, 4, none⟩]

/-- The withdrawal of a running run is refused, and the run has lost its step result. -/
theorem not_careful_begunCalls : ¬(({} : Store).performAll begunCalls).Careful "run" := by
  intro careful
  have refused : ((({} : Store).performAll begunCalls).deleteQueuedRun "run").1 = false := by
    decide +kernel
  have unqueued : ¬(({} : Store).performAll begunCalls).HasQueued "run" := fun queued => by
    rw [careful.told_iff.2 queued] at refused
    cases refused
  have changed : ((({} : Store).performAll begunCalls).deleteQueuedRun "run").2 ≠
      ({} : Store).performAll begunCalls := by
    decide +kernel
  exact changed (careful.refuses unqueued)

end Store

end StepRunner
