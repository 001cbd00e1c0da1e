import Mathlib.Data.List.Nodup
import StepRunner.Store.Basic

/-!
This file states what a table with a primary key and references promises, and shows that each
change of the tables keeps the promise.
-/

namespace StepRunner

namespace Rows

variable {Row Key : Type} {key : Row → String} {rows : List Row}

/-- Two rows of a keyed table with one key are one row. -/
theorem eq_of_key_eq {key : Row → Key} (unique : (rows.map key).Nodup) {first second : Row}
    (firstIn : first ∈ rows) (secondIn : second ∈ rows) (same : key first = key second) :
    first = second :=
  List.inj_on_of_nodup_map unique firstIn secondIn same

/-- A look-up by key gives the only row with the key. -/
theorem find?_key_eq_some_iff (unique : (rows.map key).Nodup) {id : String} {row : Row} :
    rows.find? (fun row => key row = id) = some row ↔ row ∈ rows ∧ key row = id := by
  constructor
  · intro found
    have matched := List.find?_some found
    exact ⟨List.mem_of_find?_eq_some found, by simpa using matched⟩
  · rintro ⟨present, rfl⟩
    cases found : rows.find? (fun other => key other = key row) with
    | none =>
      have absent := List.find?_eq_none.1 found row present
      simp at absent
    | some other =>
      have matched := List.find?_some found
      have same := eq_of_key_eq unique (List.mem_of_find?_eq_some found) present
        (by simpa using matched)
      rw [same]

theorem find?_key_eq_none_iff {id : String} :
    rows.find? (fun row => key row = id) = none ↔ id ∉ rows.map key := by
  simp [List.find?_eq_none]

/-- The only row of a keyed table with the key of a row is this row. -/
theorem filter_key_eq (unique : (rows.map key).Nodup) {row : Row} (present : row ∈ rows) :
    rows.filter (fun other => decide (key other = key row)) = [row] := by
  induction rows with
  | nil => cases present
  | cons first rows inductionHypothesis =>
    obtain ⟨new, others⟩ := List.nodup_cons.1 unique
    rcases List.mem_cons.1 present with rfl | later
    · rw [List.filter_cons_of_pos (by simp), List.filter_eq_nil_iff.2]
      intro other among
      rw [decide_eq_true_eq]
      exact fun same => new (same ▸ List.mem_map_of_mem among)
    · have different : key first ≠ key row := fun same => new (same ▸ List.mem_map_of_mem later)
      rw [List.filter_cons_of_neg (by simpa using different)]
      exact inductionHypothesis others later

theorem nodup_filter (unique : (rows.map key).Nodup) (test : Row → Bool) :
    ((rows.filter test).map key).Nodup :=
  unique.sublist (List.filter_sublist.map key)

theorem nodup_append_singleton {key : Row → Key} (unique : (rows.map key).Nodup) {row : Row}
    (new : key row ∉ rows.map key) : ((rows ++ [row]).map key).Nodup := by
  rw [List.map_append, List.map_singleton]
  exact List.nodup_append.2 ⟨unique, List.nodup_singleton _, by
    intro id present other same equal
    rw [List.mem_singleton] at same
    exact new (same ▸ equal ▸ present)⟩

/-- A change that keeps the key of each row keeps all keys. -/
theorem map_key_update (key : Row → Key) (rows : List Row) (test : Row → Bool) (change : Row → Row)
    (kept : ∀ row, key (change row) = key row) :
    (rows.map fun row => if test row then change row else row).map key = rows.map key := by
  rw [List.map_map]
  apply List.map_congr_left
  intro row _
  by_cases chosen : test row <;> simp [chosen, kept]

end Rows

namespace Tables

/-- No two rows of a table have one id. -/
structure Keyed (tables : Tables) : Prop where
  projects : (tables.projects.map Project.id).Nodup
  testCases : (tables.testCases.map TestCase.id).Nodup
  steps : (tables.steps.map Step.id).Nodup
  runs : (tables.runs.map Run.id).Nodup
  results : (tables.results.map StepResult.id).Nodup

/-- Every row that refers to another row finds it. -/
structure Linked (tables : Tables) : Prop where
  testCases : ∀ testCase ∈ tables.testCases,
    ∃ project ∈ tables.projects, project.id = testCase.projectId
  steps : ∀ step ∈ tables.steps, ∃ testCase ∈ tables.testCases, testCase.id = step.testCaseId
  runs : ∀ run ∈ tables.runs, ∃ testCase ∈ tables.testCases, testCase.id = run.testCaseId
  results : ∀ result ∈ tables.results, ∃ run ∈ tables.runs, run.id = result.runId

/-- The steps of each test case are numbered from one. -/
def Numbered (tables : Tables) : Prop :=
  ∀ id, (tables.listSteps id).map Step.order = List.range' 1 (tables.listSteps id).length

/-- The ids of all rows. -/
def ids (tables : Tables) : List String :=
  tables.projects.map Project.id ++ tables.testCases.map TestCase.id ++
    tables.steps.map Step.id ++ tables.runs.map Run.id ++ tables.results.map StepResult.id

/-- The step results of a run in the order of insertion. -/
def resultsOf (tables : Tables) (runId : String) : List StepResult :=
  tables.results.filter fun result => result.runId = runId

variable {tables after : Tables}

theorem Keyed.project?_eq_some_iff (keyed : tables.Keyed) {id : String} {project : Project} :
    tables.project? id = some project ↔ project ∈ tables.projects ∧ project.id = id :=
  Rows.find?_key_eq_some_iff keyed.projects

theorem Keyed.testCase?_eq_some_iff (keyed : tables.Keyed) {id : String} {testCase : TestCase} :
    tables.testCase? id = some testCase ↔ testCase ∈ tables.testCases ∧ testCase.id = id :=
  Rows.find?_key_eq_some_iff keyed.testCases

theorem Keyed.run?_eq_some_iff (keyed : tables.Keyed) {id : String} {run : Run} :
    tables.run? id = some run ↔ run ∈ tables.runs ∧ run.id = id :=
  Rows.find?_key_eq_some_iff keyed.runs

theorem project?_eq_none_iff {id : String} :
    tables.project? id = none ↔ id ∉ tables.projects.map Project.id :=
  Rows.find?_key_eq_none_iff

theorem testCase?_eq_none_iff {id : String} :
    tables.testCase? id = none ↔ id ∉ tables.testCases.map TestCase.id :=
  Rows.find?_key_eq_none_iff

/-- A test case exists if its id is listed. -/
theorem testCase?_known_iff {id : String} :
    (tables.testCase? id).isNone = false ↔ id ∈ tables.testCases.map TestCase.id := by
  rw [Option.isNone_eq_false_iff, Option.isSome_iff_ne_none, ne_eq, testCase?_eq_none_iff, not_not]

theorem run?_eq_none_iff {id : String} : tables.run? id = none ↔ id ∉ tables.runs.map Run.id :=
  Rows.find?_key_eq_none_iff

theorem result?_eq_none_iff {id : String} :
    tables.result? id = none ↔ id ∉ tables.results.map StepResult.id :=
  Rows.find?_key_eq_none_iff

theorem ids_subset
    (projects : after.projects.map Project.id ⊆ tables.projects.map Project.id)
    (testCases : after.testCases.map TestCase.id ⊆ tables.testCases.map TestCase.id)
    (steps : after.steps.map Step.id ⊆ tables.steps.map Step.id)
    (runs : after.runs.map Run.id ⊆ tables.runs.map Run.id)
    (results : after.results.map StepResult.id ⊆ tables.results.map StepResult.id) :
    after.ids ⊆ tables.ids := by
  intro id present
  simp only [ids, List.mem_append] at present ⊢
  rcases present with (((inProjects | inCases) | inSteps) | inRuns) | inResults
  · exact .inl (.inl (.inl (.inl (projects inProjects))))
  · exact .inl (.inl (.inl (.inr (testCases inCases))))
  · exact .inl (.inl (.inr (steps inSteps)))
  · exact .inl (.inr (runs inRuns))
  · exact .inr (results inResults)

theorem ids_removeTestCases_subset (test : TestCase → Bool) :
    (tables.removeTestCases test).ids ⊆ tables.ids :=
  ids_subset (List.Subset.refl _) (List.map_subset _ List.filter_sublist.subset)
    (List.map_subset _ List.filter_sublist.subset) (List.map_subset _ List.filter_sublist.subset)
    (List.map_subset _ List.filter_sublist.subset)

theorem ids_removeProject_subset (id : String) : (tables.removeProject id).ids ⊆ tables.ids :=
  ids_subset (List.map_subset _ List.filter_sublist.subset)
    (List.map_subset _ List.filter_sublist.subset) (List.map_subset _ List.filter_sublist.subset)
    (List.map_subset _ List.filter_sublist.subset) (List.map_subset _ List.filter_sublist.subset)

theorem listResults_eq (runId : String) :
    tables.listResults runId =
      (tables.resultsOf runId).mergeSort fun left right => decide (left.order ≤ right.order) :=
  rfl

end Tables

end StepRunner
