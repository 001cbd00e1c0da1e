import StepRunner.Proofs.Store.Cascades
import StepRunner.Proofs.Store.Lives
import StepRunner.Proofs.Store.Results

/-!
This file follows rows from an earlier store to a later one.
A row keeps its table, its id and its owner, and a new row gets an id that nobody had before.
So a row that has lost its owner never comes back.
-/

namespace StepRunner

namespace Tables

/-- The table that the owner of a row stands in. -/
def parent? : Table → Option Table
  | .projects => none
  | .testCases => some .projects
  | .steps | .runs => some .testCases
  | .stepResults => some .runs

/-- The table and the id of a row. -/
def Row.key : Row → Table × String
  | .project row => (.projects, row.id)
  | .testCase row => (.testCases, row.id)
  | .step row => (.steps, row.id)
  | .run row => (.runs, row.id)
  | .result row => (.stepResults, row.id)

/-- The id of the row that a row belongs to. -/
def Row.owner : Row → String
  | .project _ => ""
  | .testCase row => row.projectId
  | .step row => row.testCaseId
  | .run row => row.testCaseId
  | .result row => row.runId

/-- What a row keeps as long as it exists. -/
def Row.mark (row : Row) : (Table × String) × String := (row.key, row.owner)

/-- The marks of all rows. -/
def marks (tables : Tables) : List ((Table × String) × String) := tables.rows.map Row.mark

variable {tables : Tables} {row upper : Row}

theorem Row.mark_eq_iff {other : Row} :
    row.mark = other.mark ↔ row.key = other.key ∧ row.owner = other.owner :=
  Prod.mk_inj

/-- A row refers to the row with the id of its owner in the table of its owner. -/
theorem Row.refersTo_iff :
    row.RefersTo upper ↔
      ∃ table, parent? row.key.1 = some table ∧ upper.key = (table, row.owner) := by
  constructor
  · intro refers
    cases refers with
    | testCase same => exact ⟨_, rfl, congrArg _ same⟩
    | step same => exact ⟨_, rfl, congrArg _ same⟩
    | run same => exact ⟨_, rfl, congrArg _ same⟩
    | result same => exact ⟨_, rfl, congrArg _ same⟩
  · rintro ⟨table, above, same⟩
    cases row with
    | project row => cases above
    | testCase row =>
      cases above
      cases upper <;> simp only [Row.key, Row.owner, Prod.mk.injEq, reduceCtorEq, false_and] at same
      exact .testCase same.2
    | step row =>
      cases above
      cases upper <;> simp only [Row.key, Row.owner, Prod.mk.injEq, reduceCtorEq, false_and] at same
      exact .step same.2
    | run row =>
      cases above
      cases upper <;> simp only [Row.key, Row.owner, Prod.mk.injEq, reduceCtorEq, false_and] at same
      exact .run same.2
    | result row =>
      cases above
      cases upper <;> simp only [Row.key, Row.owner, Prod.mk.injEq, reduceCtorEq, false_and] at same
      exact .result same.2

theorem ids_eq : tables.ids = tables.rows.map fun row => row.key.2 := by
  simp [ids, rows, Row.key, Function.comp_def]

/-- Two rows of keyed tables with one key are one row. -/
theorem Keyed.eq_of_key_eq (keyed : tables.Keyed) {other : Row} (present : row ∈ tables.rows)
    (among : other ∈ tables.rows) (same : other.key = row.key) : other = row := by
  cases row <;> cases other <;>
    simp only [Row.key, Prod.mk.injEq, reduceCtorEq, false_and, true_and] at same
  · exact congrArg _ (Rows.eq_of_key_eq keyed.projects (project_mem_rows.1 among)
      (project_mem_rows.1 present) same)
  · exact congrArg _ (Rows.eq_of_key_eq keyed.testCases (testCase_mem_rows.1 among)
      (testCase_mem_rows.1 present) same)
  · exact congrArg _ (Rows.eq_of_key_eq keyed.steps (step_mem_rows.1 among)
      (step_mem_rows.1 present) same)
  · exact congrArg _ (Rows.eq_of_key_eq keyed.runs (run_mem_rows.1 among)
      (run_mem_rows.1 present) same)
  · exact congrArg _ (Rows.eq_of_key_eq keyed.results (result_mem_rows.1 among)
      (result_mem_rows.1 present) same)

/-- A row that has an owner finds it. -/
theorem Linked.exists_upper (linked : tables.Linked) (present : row ∈ tables.rows) {table : Table}
    (above : parent? row.key.1 = some table) :
    ∃ upper ∈ tables.rows, upper.key = (table, row.owner) := by
  cases row with
  | project row => cases above
  | testCase row =>
    cases above
    obtain ⟨upper, among, same⟩ := linked.testCases row (testCase_mem_rows.1 present)
    exact ⟨.project upper, project_mem_rows.2 among, congrArg _ same⟩
  | step row =>
    cases above
    obtain ⟨upper, among, same⟩ := linked.steps row (step_mem_rows.1 present)
    exact ⟨.testCase upper, testCase_mem_rows.2 among, congrArg _ same⟩
  | run row =>
    cases above
    obtain ⟨upper, among, same⟩ := linked.runs row (run_mem_rows.1 present)
    exact ⟨.testCase upper, testCase_mem_rows.2 among, congrArg _ same⟩
  | result row =>
    cases above
    obtain ⟨upper, among, same⟩ := linked.results row (result_mem_rows.1 present)
    exact ⟨.run upper, run_mem_rows.2 among, congrArg _ same⟩

/-- The marks stay when runs change without their ids and test cases. -/
theorem marks_mapRuns {change : Run → Run}
    (kept : ∀ run, Row.mark (.run (change run)) = Row.mark (.run run)) :
    marks { tables with runs := tables.runs.map change } = tables.marks := by
  simp [marks, rows, Function.comp_def, kept]

/-- The marks stay when step results change without their ids and runs. -/
theorem marks_updateResults {test : StepResult → Bool} {change : StepResult → StepResult}
    (kept : ∀ result, Row.mark (.result (change result)) = Row.mark (.result result)) :
    (tables.updateResults test change).marks = tables.marks := by
  have same (result : StepResult) :
      Row.mark (.result (if test result then change result else result)) =
        Row.mark (.result result) := by
    split
    · exact kept result
    · rfl
  simp [marks, rows, updateResults, Function.comp_def, same]

end Tables

namespace Store

open Tables (Row)

/-- A call gives a run or a step result an id that is still to be handed out. -/
def Operation.Mints (minted : Nat) : Operation → Prop
  | .insertRun run => ∃ number, minted ≤ number ∧ run.id = idOf number
  | .insertResult result => ∃ number, minted ≤ number ∧ result.id = idOf number
  | _ => True

/-- A call removes no run of a store. -/
def Operation.KeepsRuns (base : Store) : Operation → Prop
  | .deleteProject _ | .deleteTestCase _ => False
  | .deleteQueuedRun id => id ∉ base.tables.runs.map Run.id
  | _ => True

/-- A row has an old mark, or an id that was still to be handed out. -/
def Knows (base : Store) (mark : (Table × String) × String) : Prop :=
  mark ∈ base.tables.marks ∨ ∃ number, base.minted ≤ number ∧ mark.1.2 = idOf number

/-- Every row of a later store is known in an earlier one. -/
structure Stems (base store : Store) : Prop where
  minted : base.minted ≤ store.minted
  marks : ∀ mark ∈ store.tables.marks, base.Knows mark

variable {base store middle after : Store}

namespace Stems

theorem refl (store : Store) : store.Stems store := ⟨le_rfl, fun _ present => .inl present⟩

theorem knows_of_knows (stems : base.Stems store) {mark : (Table × String) × String}
    (known : store.Knows mark) : base.Knows mark := by
  rcases known with old | ⟨number, new, same⟩
  · exact stems.marks mark old
  · exact .inr ⟨number, stems.minted.trans new, same⟩

theorem trans (first : base.Stems middle) (second : middle.Stems after) : base.Stems after where
  minted := first.minted.trans second.minted
  marks := fun mark present => first.knows_of_knows (second.marks mark present)

section Calls

theorem of_marks_eq (stems : base.Stems store) (later : store.minted ≤ after.minted)
    (same : after.tables.marks = store.tables.marks) : base.Stems after where
  minted := stems.minted.trans later
  marks := fun mark present => stems.marks mark (same ▸ present)

/-- Each row that a change adds has an id that was still to be handed out. -/
theorem of_rows (stems : base.Stems store) (later : store.minted ≤ after.minted)
    (rows : ∀ row ∈ after.tables.rows, row ∈ store.tables.rows ∨
      ∃ number, base.minted ≤ number ∧ row.key.2 = idOf number) : base.Stems after where
  minted := stems.minted.trans later
  marks := by
    intro mark present
    obtain ⟨row, among, rfl⟩ := List.mem_map.1 present
    rcases rows row among with old | new
    · exact stems.marks _ (List.mem_map_of_mem old)
    · exact .inr new

theorem of_sublist (stems : base.Stems store) (later : store.minted ≤ after.minted)
    (rows : after.tables.rows.Sublist store.tables.rows) : base.Stems after :=
  stems.of_rows later fun _ present => .inl (rows.subset present)

/-- A change adds one row. -/
theorem of_added (stems : base.Stems store) (later : store.minted ≤ after.minted) (added : Row)
    (new : ∃ number, base.minted ≤ number ∧ added.key.2 = idOf number)
    (rows : ∀ row ∈ after.tables.rows, row ∈ store.tables.rows ∨ row = added) :
    base.Stems after := by
  refine stems.of_rows later fun row present => (rows row present).imp_right ?_
  rintro rfl
  exact new

theorem insertSteps (stems : base.Stems store) {id : String} {drafts : List StepDraft}
    {steps : List Step} (inserted : store.insertSteps id drafts = .ok (steps, after)) :
    base.Stems after := by
  obtain ⟨rfl, added, minted⟩ := insertSteps_eq inserted
  refine stems.of_rows (by omega) ?_
  rw [(addSteps_eq added).1]
  intro row present
  cases row with
  | step step =>
    rw [Tables.step_mem_rows, List.mem_append] at present
    rcases present with old | drafted
    · exact .inl (Tables.step_mem_rows.2 old)
    · obtain ⟨⟨draft, index⟩, -, rfl⟩ := List.mem_map.1 drafted
      exact .inr ⟨store.minted + index, by have := stems.minted; omega, rfl⟩
  | project _ | testCase _ | run _ | result _ =>
    left
    simpa using present

theorem createTestCase (stems : base.Stems store) {now : Int} {projectId title : String}
    {drafts : List StepDraft} {made : TestCase × List Step}
    (created : store.createTestCase now projectId title drafts = .ok (made, after)) :
    base.Stems after := by
  obtain ⟨testCase, steps⟩ := made
  obtain ⟨named, tables, added, inserted⟩ := createTestCase_eq created
  obtain ⟨-, -, rfl⟩ := Tables.addTestCase_eq added
  refine insertSteps ?_ inserted
  refine stems.of_added (Nat.le_succ _) (.testCase testCase)
    ⟨store.minted, stems.minted, named⟩ fun row present => ?_
  cases row <;> simpa using present

theorem replaceSteps (stems : base.Stems store) {now : Int} {testCaseId : String}
    {drafts : List StepDraft} {steps : List Step}
    (replaced : store.replaceSteps now testCaseId drafts = .ok (steps, after)) :
    base.Stems after := by
  refine insertSteps ?_ (replaceSteps_eq replaced).2
  refine ⟨stems.minted, ?_⟩
  intro mark present
  obtain ⟨row, among, rfl⟩ := List.mem_map.1 present
  cases row with
  | testCase row =>
    -- Only the time of the last change differs.
    obtain ⟨old, found, rfl⟩ := List.mem_map.1 (Tables.testCase_mem_rows.1 among)
    have known := stems.marks _ (List.mem_map_of_mem (Tables.testCase_mem_rows.2 found))
    split
    · exact known
    · exact known
  | step row =>
    have old := (List.mem_filter.1 (Tables.step_mem_rows.1 among)).1
    exact stems.marks _ (List.mem_map_of_mem (Tables.step_mem_rows.2 old))
  | project _ | run _ | result _ =>
    refine stems.marks _ (List.mem_map_of_mem ?_)
    simpa [withTables] using among

/-- Every call keeps the lineage when it takes new ids for new rows. -/
theorem perform (stems : base.Stems store) {operation : Operation}
    (mints : operation.Mints base.minted) : base.Stems (store.perform operation) := by
  have later := minted_le_perform store operation
  cases operation with
  | mint => exact stems.of_marks_eq later rfl
  | createProject now name =>
    refine accepting_map_induction base.Stems stems fun project after created => ?_
    obtain ⟨named, -, rfl⟩ := createProject_eq created
    refine stems.of_added (Nat.le_succ _) (.project project)
      ⟨store.minted, stems.minted, named⟩ fun row present => ?_
    cases row <;> simpa using present
  | createTestCase now projectId title drafts =>
    exact accepting_map_induction base.Stems stems fun made after created =>
      stems.createTestCase created
  | replaceSteps now testCaseId drafts =>
    exact accepting_map_induction base.Stems stems fun steps after replaced =>
      stems.replaceSteps replaced
  | deleteProject id => exact stems.of_sublist later Tables.rows_removeProject_sublist
  | deleteTestCase id => exact stems.of_sublist later Tables.rows_removeTestCases_sublist
  | insertRun run =>
    refine accepting_induction base.Stems stems fun after inserted => ?_
    obtain ⟨-, -, rfl⟩ := insertRun_eq inserted
    refine stems.of_added le_rfl (.run run) mints fun row present => ?_
    cases row <;> simpa [withTables] using present
  | moveRun now id next error =>
    refine accepting_map_induction base.Stems stems fun run after moves => ?_
    obtain ⟨row, -, -, -, rfl⟩ := moveRun_eq moves
    refine stems.of_marks_eq le_rfl (Tables.marks_mapRuns fun run => ?_)
    split <;> rfl
  | deleteQueuedRun id =>
    refine stems.of_sublist later ?_
    refine (((List.Sublist.refl _).append ?_).append ?_)
    · exact List.filter_sublist.map _
    · exact (List.filter_sublist.trans List.filter_sublist).map _
  | recover now =>
    have failed : (store.recoverResults now).tables.marks = store.tables.marks :=
      Tables.marks_updateResults fun _ => rfl
    refine stems.of_marks_eq le_rfl ((Tables.marks_mapRuns fun run => ?_).trans failed)
    split <;> rfl
  | insertResult result =>
    refine accepting_induction base.Stems stems fun after inserted => ?_
    obtain ⟨-, -, rfl⟩ := insertResult_eq inserted
    refine stems.of_added le_rfl (.result result) mints fun row present => ?_
    cases row <;> simpa [withTables] using present
  | finishResult outcome =>
    refine accepting_induction base.Stems stems fun after finished => ?_
    rw [finishResult_eq finished]
    exact stems.of_marks_eq le_rfl (Tables.marks_updateResults fun _ => rfl)
  | failPending now runId error =>
    exact stems.of_marks_eq le_rfl (Tables.marks_updateResults fun _ => rfl)

end Calls

section Descent

variable {row top old : Row}

/-- An id that a row had is not handed out again. -/
theorem not_fresh (sound : base.Sound) (present : old ∈ base.tables.rows) {number : Nat}
    (new : base.minted ≤ number) : old.key.2 ≠ idOf number := by
  intro same
  refine sound.fresh number new ?_
  rw [Tables.ids_eq, ← same]
  exact List.mem_map_of_mem present

/-- A row that has the key of an earlier row has its owner, too. -/
theorem mark_eq (stems : base.Stems store) (sound : base.Sound) (present : old ∈ base.tables.rows)
    (among : row ∈ store.tables.rows) (same : row.key = old.key) : row.mark = old.mark := by
  rcases stems.marks row.mark (List.mem_map_of_mem among) with known | ⟨number, new, made⟩
  · obtain ⟨other, found, marked⟩ := List.mem_map.1 known
    have key := (Row.mark_eq_iff.1 marked).1.trans same
    obtain rfl := sound.tables.keyed.eq_of_key_eq present found key
    exact marked.symm
  · exact absurd (same ▸ made) (not_fresh sound present new)

/-- A row that depended on another one depends on it as long as it exists. -/
theorem exists_top (stems : base.Stems store) (sound : base.Sound) (later : store.tables.Sound)
    (present : old ∈ base.tables.rows) (depends : base.tables.DependsOn top old)
    (among : row ∈ store.tables.rows) (same : row.key = old.key) :
    ∃ upper ∈ store.tables.rows, upper.key = top.key := by
  induction depends generalizing row with
  | self => exact ⟨row, among, same⟩
  | through refers found depends inductionHypothesis =>
    have marked := stems.mark_eq sound present among same
    obtain ⟨table, above, owned⟩ := Row.refersTo_iff.1 refers
    obtain ⟨upper, existing, named⟩ := later.linked.exists_upper among (same ▸ above)
    refine inductionHypothesis found existing (named.trans ?_)
    rw [owned, (Row.mark_eq_iff.1 marked).2]

/-- What depended on a row that is gone is gone for good. -/
theorem key_ne_of_gone (first : base.Stems middle) (second : middle.Stems after)
    (sound : base.Sound) (later : after.tables.Sound)
    (topPresent : top ∈ base.tables.rows) (gone : ∀ upper ∈ middle.tables.rows, upper.key ≠ top.key)
    (present : old ∈ base.tables.rows) (depends : base.tables.DependsOn top old) :
    ∀ row ∈ after.tables.rows, row.key ≠ old.key := by
  intro row among same
  obtain ⟨upper, existing, named⟩ :=
    (first.trans second).exists_top sound later present depends among same
  rcases second.marks upper.mark (List.mem_map_of_mem existing) with known | ⟨number, new, made⟩
  · obtain ⟨other, found, marked⟩ := List.mem_map.1 known
    exact gone other found ((Row.mark_eq_iff.1 marked).1.trans named)
  · exact not_fresh sound topPresent (first.minted.trans new) (named ▸ made)

/-- A row refers to an id that exists. -/
theorem not_refersTo_of_gone (later : after.tables.Sound)
    (gone : ∀ row ∈ after.tables.rows, row.key ≠ old.key) :
    ∀ row ∈ after.tables.rows, ¬row.RefersTo old := by
  intro row among refers
  obtain ⟨table, above, owned⟩ := Row.refersTo_iff.1 refers
  obtain ⟨upper, existing, named⟩ := later.linked.exists_upper among above
  exact gone upper existing (named.trans owned.symm)

end Descent

end Stems

section Growth

/-- A later store keeps the lineage and every run of an earlier one. -/
structure Grows (base store : Store) : Prop where
  sound : store.tables.Sound
  stems : base.Stems store
  runs : base.tables.runs.map Run.id ⊆ store.tables.runs.map Run.id

theorem Grows.refl (sound : store.tables.Sound) : store.Grows store :=
  ⟨sound, .refl store, List.Subset.refl _⟩

/-- A call that takes new ids and removes no run lets the store grow. -/
theorem Grows.perform (grows : base.Grows store) {operation : Operation}
    (mints : operation.Mints base.minted) (keeps : operation.KeepsRuns base) :
    base.Grows (store.perform operation) where
  sound := tables_perform grows.sound operation
  stems := grows.stems.perform mints
  runs := by
    intro id named
    obtain ⟨run, present, same⟩ := List.mem_map.1 (grows.runs named)
    rcases (alters_perform grows.sound operation).fate run present with
      ⟨row, among, changes⟩ | deletes | ⟨removes, -⟩
    · exact List.mem_map.2 ⟨row, among, changes.id_eq.trans same⟩
    · cases operation with
      | deleteProject _ | deleteTestCase _ => cases keeps
      | _ => cases deletes
    · subst removes
      exact absurd (same ▸ named) keeps

end Growth

end Store

end StepRunner
