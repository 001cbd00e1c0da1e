import StepRunner.Proofs.Store.Scripts

/-!
This file shows that a deletion takes a row with everything that depends on it, and nothing else.
Together with the references and the scripts this describes the tables after every sequence of
calls.
-/

namespace StepRunner

namespace Tables

/-- A row of any of the tables. -/
inductive Row where
  | project (row : Project)
  | testCase (row : TestCase)
  | step (row : Step)
  | run (row : Run)
  | result (row : StepResult)

/-- The rows of all tables, each table in its order. -/
def rows (tables : Tables) : List Row :=
  tables.projects.map .project ++ tables.testCases.map .testCase ++ tables.steps.map .step ++
    tables.runs.map .run ++ tables.results.map .result

/-- A row names the id of another one as the row that it belongs to. -/
inductive Row.RefersTo : Row → Row → Prop where
  | testCase {testCase : TestCase} {project : Project}
      (same : project.id = testCase.projectId) : RefersTo (.testCase testCase) (.project project)
  | step {step : Step} {testCase : TestCase} (same : testCase.id = step.testCaseId) :
      RefersTo (.step step) (.testCase testCase)
  | run {run : Run} {testCase : TestCase} (same : testCase.id = run.testCaseId) :
      RefersTo (.run run) (.testCase testCase)
  | result {result : StepResult} {run : Run} (same : run.id = result.runId) :
      RefersTo (.result result) (.run run)

/-- A row is another one, or it refers to a row of the tables that depends on the other one. -/
inductive DependsOn (tables : Tables) (top : Row) : Row → Prop where
  | self : DependsOn tables top top
  | through {row upper : Row} (refers : row.RefersTo upper) (present : upper ∈ tables.rows)
      (depends : DependsOn tables top upper) : DependsOn tables top row

/-- A row is a project with an id. -/
def Row.IsProject (id : String) : Row → Prop
  | .project row => row.id = id
  | _ => False

/-- A row is a test case with an id. -/
def Row.IsTestCase (id : String) : Row → Prop
  | .testCase row => row.id = id
  | _ => False

/-- What a deletion of a row tells, and which rows it leaves; those are as they were. -/
structure Cascades (before : Tables) (named : Row → Prop) (told : Bool) (after : Tables) :
    Prop where
  told_iff : told = true ↔ ∃ top ∈ before.rows, named top
  mem_iff : ∀ top ∈ before.rows, named top →
    ∀ row, row ∈ after.rows ↔ row ∈ before.rows ∧ ¬before.DependsOn top row
  order : after.rows.Sublist before.rows
  absent : told = false → after = before

variable {tables : Tables} {id : String}

section Rows

@[simp] theorem project_mem_rows {project : Project} :
    .project project ∈ tables.rows ↔ project ∈ tables.projects := by
  simp [rows]

@[simp] theorem testCase_mem_rows {testCase : TestCase} :
    .testCase testCase ∈ tables.rows ↔ testCase ∈ tables.testCases := by
  simp [rows]

@[simp] theorem step_mem_rows {step : Step} : .step step ∈ tables.rows ↔ step ∈ tables.steps := by
  simp [rows]

@[simp] theorem run_mem_rows {run : Run} : .run run ∈ tables.rows ↔ run ∈ tables.runs := by
  simp [rows]

@[simp] theorem result_mem_rows {result : StepResult} :
    .result result ∈ tables.rows ↔ result ∈ tables.results := by
  simp [rows]

/-- A row other than the top depends on it exactly through the row that it refers to. -/
theorem dependsOn_iff {top row : Row} (other : row ≠ top) :
    tables.DependsOn top row ↔
      ∃ upper ∈ tables.rows, row.RefersTo upper ∧ tables.DependsOn top upper := by
  constructor
  · intro depends
    cases depends with
    | self => exact absurd rfl other
    | through refers present depends => exact ⟨_, present, refers, depends⟩
  · rintro ⟨upper, present, refers, depends⟩
    exact .through refers present depends

end Rows

section TestCases

variable {test : TestCase → Bool}

/-- A row depends on a test case that satisfies a test. -/
def Falls (tables : Tables) (test : TestCase → Bool) (row : Row) : Prop :=
  ∃ testCase ∈ tables.testCases, test testCase = true ∧ tables.DependsOn (.testCase testCase) row

theorem Falls.through {row upper : Row} (falls : tables.Falls test upper)
    (refers : row.RefersTo upper) (present : upper ∈ tables.rows) : tables.Falls test row := by
  obtain ⟨testCase, among, tested, depends⟩ := falls
  exact ⟨testCase, among, tested, .through refers present depends⟩

theorem falls_testCase {testCase : TestCase} (present : testCase ∈ tables.testCases) :
    tables.Falls test (.testCase testCase) ↔ test testCase = true := by
  constructor
  · rintro ⟨top, -, tested, depends⟩
    cases depends with
    | self => exact tested
    | through refers _ depends =>
      cases refers
      cases depends with
      | through refers => cases refers
  · exact fun tested => ⟨testCase, present, tested, .self⟩

/-- A row falls with the row that it refers to, unless it is a test case. -/
theorem falls_iff (row : Row) (other : ∀ testCase, row ≠ .testCase testCase) :
    tables.Falls test row ↔
      ∃ upper ∈ tables.rows, row.RefersTo upper ∧ tables.Falls test upper := by
  constructor
  · rintro ⟨top, among, tested, depends⟩
    obtain ⟨upper, present, refers, depends⟩ := (dependsOn_iff (other top)).1 depends
    exact ⟨upper, present, refers, top, among, tested, depends⟩
  · rintro ⟨upper, present, refers, falls⟩
    exact falls.through refers present

theorem falls_step {step : Step} :
    tables.Falls test (.step step) ↔
      step.testCaseId ∈ (tables.testCases.filter test).map TestCase.id := by
  rw [falls_iff (.step step) fun _ => nofun, List.mem_map]
  constructor
  · rintro ⟨_, present, refers, falls⟩
    cases refers with
    | step same =>
      rw [testCase_mem_rows] at present
      exact ⟨_, List.mem_filter.2 ⟨present, (falls_testCase present).1 falls⟩, same⟩
  · rintro ⟨testCase, chosen, same⟩
    obtain ⟨present, tested⟩ := List.mem_filter.1 chosen
    exact ⟨_, testCase_mem_rows.2 present, .step same, (falls_testCase present).2 tested⟩

theorem falls_run {run : Run} :
    tables.Falls test (.run run) ↔
      run.testCaseId ∈ (tables.testCases.filter test).map TestCase.id := by
  rw [falls_iff (.run run) fun _ => nofun, List.mem_map]
  constructor
  · rintro ⟨_, present, refers, falls⟩
    cases refers with
    | run same =>
      rw [testCase_mem_rows] at present
      exact ⟨_, List.mem_filter.2 ⟨present, (falls_testCase present).1 falls⟩, same⟩
  · rintro ⟨testCase, chosen, same⟩
    obtain ⟨present, tested⟩ := List.mem_filter.1 chosen
    exact ⟨_, testCase_mem_rows.2 present, .run same, (falls_testCase present).2 tested⟩

theorem falls_result {result : StepResult} :
    tables.Falls test (.result result) ↔
      ∃ run ∈ tables.runs, run.id = result.runId ∧
        run.testCaseId ∈ (tables.testCases.filter test).map TestCase.id := by
  rw [falls_iff (.result result) fun _ => nofun]
  constructor
  · rintro ⟨_, present, refers, falls⟩
    cases refers with
    | result same => exact ⟨_, run_mem_rows.1 present, same, falls_run.1 falls⟩
  · rintro ⟨run, present, same, removed⟩
    exact ⟨_, run_mem_rows.2 present, .result same, falls_run.2 removed⟩

/-- A project depends on no test case. -/
theorem not_falls_project {project : Project} : ¬tables.Falls test (.project project) := by
  rw [falls_iff (.project project) fun _ => nofun]
  rintro ⟨_, -, refers, -⟩
  cases refers

/-- The removal of test cases takes exactly the rows that depend on them. -/
theorem mem_rows_removeTestCases (row : Row) :
    row ∈ (tables.removeTestCases test).rows ↔ row ∈ tables.rows ∧ ¬tables.Falls test row := by
  cases row with
  | project project =>
    simp only [project_mem_rows, not_falls_project, not_false_eq_true, and_true]
    rfl
  | testCase testCase =>
    simp only [testCase_mem_rows]
    refine List.mem_filter.trans (and_congr_right fun present => ?_)
    rw [falls_testCase present]
    simp
  | step step =>
    simp only [step_mem_rows, falls_step]
    exact List.mem_filter.trans (and_congr_right fun _ => by simp)
  | run run =>
    simp only [run_mem_rows, falls_run]
    exact List.mem_filter.trans (and_congr_right fun _ => by simp)
  | result result =>
    simp only [result_mem_rows, falls_result]
    refine List.mem_filter.trans (and_congr_right fun _ => ?_)
    simp only [Bool.not_eq_eq_eq_not, Bool.not_true, Bool.eq_false_iff, ne_eq,
      List.contains_iff_mem, List.mem_map (f := Run.id), List.mem_filter]
    exact not_congr ⟨fun ⟨run, ⟨present, removed⟩, same⟩ => ⟨run, present, same, removed⟩,
      fun ⟨run, present, same, removed⟩ => ⟨run, ⟨present, removed⟩, same⟩⟩

theorem rows_removeTestCases_sublist : (tables.removeTestCases test).rows.Sublist tables.rows := by
  refine ((((List.Sublist.refl _).append ?_).append ?_).append ?_).append ?_
  all_goals exact List.filter_sublist.map _

/-- The removal of test cases that satisfy a test changes nothing when none does. -/
theorem removeTestCases_of_none (none : ∀ testCase ∈ tables.testCases, test testCase = false) :
    tables.removeTestCases test = tables := by
  have removed : tables.testCases.filter test = [] := by
    simpa [List.filter_eq_nil_iff] using none
  have kept : (tables.testCases.filter fun testCase => !test testCase) = tables.testCases :=
    List.filter_eq_self.2 fun testCase present => by simp [none testCase present]
  simp [removeTestCases, removeRuns, removed, kept]

end TestCases

section Deletions

/-- What depends on a test case is what falls with it. -/
theorem dependsOn_testCase_iff (keyed : tables.Keyed) {testCase : TestCase}
    (present : testCase ∈ tables.testCases) {row : Row} :
    tables.DependsOn (.testCase testCase) row ↔
      tables.Falls (fun other => other.id = testCase.id) row := by
  constructor
  · exact fun depends => ⟨testCase, present, decide_eq_true rfl, depends⟩
  · rintro ⟨other, among, tested, depends⟩
    obtain rfl := Rows.eq_of_key_eq keyed.testCases among present (of_decide_eq_true tested)
    exact depends

/-- The deletion of a test case takes its steps, its runs and their step results along. -/
theorem Sound.cascades_removeTestCase (sound : tables.Sound) (id : String) :
    tables.Cascades (Row.IsTestCase id) (tables.testCase? id).isSome
      (tables.removeTestCases fun testCase => testCase.id = id) where
  told_iff := by
    rw [Option.isSome_iff_exists]
    constructor
    · rintro ⟨testCase, found⟩
      obtain ⟨present, named⟩ := sound.keyed.testCase?_eq_some_iff.1 found
      exact ⟨.testCase testCase, testCase_mem_rows.2 present, named⟩
    · rintro ⟨top, present, named⟩
      cases top with
      | testCase testCase =>
        rw [testCase_mem_rows] at present
        exact ⟨testCase, sound.keyed.testCase?_eq_some_iff.2 ⟨present, named⟩⟩
      | _ => cases named
  mem_iff := by
    intro top present named row
    cases top with
    | testCase testCase =>
      rw [testCase_mem_rows] at present
      obtain rfl : testCase.id = id := named
      rw [mem_rows_removeTestCases, dependsOn_testCase_iff sound.keyed present]
    | _ => cases named
  order := rows_removeTestCases_sublist
  absent := by
    intro missing
    rw [Option.isSome_eq_false_iff, Option.isNone_iff_eq_none, testCase?_eq_none_iff] at missing
    refine removeTestCases_of_none fun testCase present => decide_eq_false ?_
    rintro rfl
    exact missing (List.mem_map_of_mem present)

theorem DependsOn.trans {top middle row : Row} (upper : tables.DependsOn top middle)
    (lower : tables.DependsOn middle row) : tables.DependsOn top row := by
  induction lower with
  | self => exact upper
  | through refers present _ inductionHypothesis =>
    exact .through refers present inductionHypothesis

/-- A row other than a project depends on a project exactly through one of its test cases. -/
theorem dependsOn_project_iff {project : Project} (owner : project ∈ tables.projects) {row : Row}
    (present : row ∈ tables.rows) (other : row ≠ .project project) :
    tables.DependsOn (.project project) row ↔
      tables.Falls (fun testCase => testCase.projectId = project.id) row := by
  constructor
  · intro depends
    induction depends with
    | self => exact absurd rfl other
    | through refers among depends inductionHypothesis =>
      cases refers with
      | testCase same =>
        -- No row stands between a test case and its project.
        cases depends with
        | self => exact ⟨_, testCase_mem_rows.1 present, decide_eq_true same.symm, .self⟩
        | through refers => cases refers
      | step same => exact (inductionHypothesis among nofun).through (.step same) among
      | run same => exact (inductionHypothesis among nofun).through (.run same) among
      | result same => exact (inductionHypothesis among nofun).through (.result same) among
  · rintro ⟨testCase, -, owned, depends⟩
    have direct : tables.DependsOn (.project project) (.testCase testCase) :=
      .through (.testCase (of_decide_eq_true owned).symm) (project_mem_rows.2 owner) .self
    exact direct.trans depends

/-- The removal of a project takes it and exactly the rows that depend on its test cases. -/
theorem mem_rows_removeProject (row : Row) :
    row ∈ (tables.removeProject id).rows ↔ row ∈ tables.rows ∧
      ¬row.IsProject id ∧ ¬tables.Falls (fun testCase => testCase.projectId = id) row := by
  have removed : row ∈ (tables.removeTestCases fun testCase => testCase.projectId = id).rows ↔ _ :=
    mem_rows_removeTestCases row
  cases row with
  | project row =>
    simp only [project_mem_rows, not_falls_project, not_false_eq_true, and_true]
    exact List.mem_filter.trans (and_congr_right fun _ => by simp [Row.IsProject])
  | testCase row =>
    rw [testCase_mem_rows] at removed ⊢
    exact removed.trans (by simp [Row.IsProject])
  | step row =>
    rw [step_mem_rows] at removed ⊢
    exact removed.trans (by simp [Row.IsProject])
  | run row =>
    rw [run_mem_rows] at removed ⊢
    exact removed.trans (by simp [Row.IsProject])
  | result row =>
    rw [result_mem_rows] at removed ⊢
    exact removed.trans (by simp [Row.IsProject])

theorem rows_removeProject_sublist : (tables.removeProject id).rows.Sublist tables.rows := by
  refine ((((List.Sublist.append ?_ ?_).append ?_).append ?_).append ?_)
  all_goals exact List.filter_sublist.map _

/-- The deletion of a project takes its test cases and what depends on them along. -/
theorem Sound.cascades_removeProject (sound : tables.Sound) (id : String) :
    tables.Cascades (Row.IsProject id) (tables.project? id).isSome (tables.removeProject id) where
  told_iff := by
    rw [Option.isSome_iff_exists]
    constructor
    · rintro ⟨project, found⟩
      obtain ⟨present, named⟩ := sound.keyed.project?_eq_some_iff.1 found
      exact ⟨.project project, project_mem_rows.2 present, named⟩
    · rintro ⟨top, present, named⟩
      cases top with
      | project project =>
        rw [project_mem_rows] at present
        exact ⟨project, sound.keyed.project?_eq_some_iff.2 ⟨present, named⟩⟩
      | _ => cases named
  mem_iff := by
    intro top present named row
    cases top with
    | project project =>
      rw [project_mem_rows] at present
      obtain rfl : project.id = id := named
      rw [mem_rows_removeProject]
      refine and_congr_right fun among => ?_
      by_cases same : row = .project project
      · subst same
        simp [Row.IsProject, DependsOn.self]
      · rw [dependsOn_project_iff present among same, and_iff_right_iff_imp]
        intro _ named
        cases row with
        | project row =>
          rw [project_mem_rows] at among
          exact same (congrArg _ (Rows.eq_of_key_eq sound.keyed.projects among present named))
        | _ => cases named
    | _ => cases named
  order := rows_removeProject_sublist
  absent := by
    intro missing
    rw [Option.isSome_eq_false_iff, Option.isNone_iff_eq_none, project?_eq_none_iff] at missing
    have none : ∀ testCase ∈ tables.testCases, decide (testCase.projectId = id) = false := by
      intro testCase present
      obtain ⟨project, owner, same⟩ := sound.linked.testCases testCase present
      refine decide_eq_false ?_
      rintro rfl
      exact missing (same ▸ List.mem_map_of_mem owner)
    have kept : (tables.projects.filter fun project => project.id ≠ id) = tables.projects := by
      refine List.filter_eq_self.2 fun project present => decide_eq_true ?_
      rintro rfl
      exact missing (List.mem_map_of_mem present)
    rw [Tables.removeProject, removeTestCases_of_none none, kept]

end Deletions

end Tables

namespace Store

/-- The error that a call gives, if it gives one. -/
def Operation.fault? (store : Store) : Operation → Option StoreError
  | .createProject now name => faultOf (store.createProject now name)
  | .createTestCase now projectId title drafts =>
    faultOf (store.createTestCase now projectId title drafts)
  | .replaceSteps now testCaseId drafts => faultOf (store.replaceSteps now testCaseId drafts)
  | .insertRun run => faultOf (store.insertRun run)
  | .moveRun now id next error => faultOf (store.moveRun now id next error)
  | .insertResult result => faultOf (store.insertResult result)
  | .finishResult outcome => faultOf (store.finishResult outcome)
  | _ => none
where
  /-- The error of a change. -/
  faultOf {Value : Type} : Except StoreError Value → Option StoreError
    | .error fault => some fault
    | .ok _ => none

/-- What a sequence of calls on an empty store leaves there, and what a next call does. -/
structure Kept (operations : List Operation) (store : Store) : Prop where
  linked : store.tables.Linked
  numbered : store.tables.Numbered
  listSteps_mem : ∀ id step, step ∈ store.tables.listSteps id ↔
    step ∈ store.tables.steps ∧ step.testCaseId = id
  scripts : ∀ testCase ∈ store.tables.testCases,
    lastScript? {} testCase.id operations = some (store.tables.script testCase.id)
  deleteProject : ∀ id, store.tables.Cascades (Tables.Row.IsProject id)
    (store.deleteProject id).1 (store.deleteProject id).2.tables
  deleteTestCase : ∀ id, store.tables.Cascades (Tables.Row.IsTestCase id)
    (store.deleteTestCase id).1 (store.deleteTestCase id).2.tables
  refused : ∀ operation fault, Operation.fault? store operation = some fault →
    store.perform operation = store

/-- A call that gives an error changes nothing. -/
theorem perform_of_fault {store : Store} {operation : Operation} {fault : StoreError}
    (refused : operation.fault? store = some fault) : store.perform operation = store := by
  have whole (outcome : Except StoreError Store)
      (failed : Operation.fault?.faultOf outcome = some fault) :
      store.accepting outcome = store := by
    cases outcome with
    | error fault => rfl
    | ok after => cases failed
  have part {Value : Type} (outcome : Except StoreError (Value × Store))
      (failed : Operation.fault?.faultOf outcome = some fault) :
      store.accepting (outcome.map Prod.snd) = store := by
    cases outcome with
    | error fault => rfl
    | ok after => cases failed
  cases operation with
  | createProject now name => exact part _ refused
  | createTestCase now projectId title drafts => exact part _ refused
  | replaceSteps now testCaseId drafts => exact part _ refused
  | insertRun run => exact whole _ refused
  | moveRun now id next error => exact part _ refused
  | insertResult result => exact whole _ refused
  | finishResult outcome => exact whole _ refused
  | _ => cases refused

/-- Every sequence of calls keeps the references, the scripts and the reach of deletions. -/
theorem kept_performAll (operations : List Operation) :
    Kept operations (({} : Store).performAll operations) := by
  have empty : ({} : Store).tables.Sound := .empty
  have sound := tables_performAll empty operations
  have writes := writes_performAll empty operations
  exact {
    linked := sound.linked
    numbered := sound.numbered
    listSteps_mem := by
      intro id step
      rw [Tables.listSteps, List.mem_mergeSort, List.mem_filter, decide_eq_true_iff]
    scripts := by
      intro testCase present
      have content := writes.content testCase present
      cases written : lastScript? {} testCase.id operations with
      | some script => rw [content, written, Option.getD_some]
      | none => exact absurd (writes.origin testCase present written) (List.not_mem_nil)
    deleteProject := fun id => sound.cascades_removeProject id
    deleteTestCase := fun id => sound.cascades_removeTestCase id
    refused := fun _ _ refused => perform_of_fault refused }

/-- A project gets two test cases, and the script of the second one is replaced. -/
def sampleScripts : List Operation :=
  [.createProject 0 "Shop", .createTestCase 1 (idOf 0) "Login" [⟨"Click \"Login\"", none⟩],
    .createTestCase 2 (idOf 0) "Checkout" [], .replaceSteps 3 (idOf 3) [⟨"Click \"Pay\"", none⟩]]

/-- Both test cases are stored, and each has the script that was written last for it. -/
theorem kept_sampleScripts :
    let store := ({} : Store).performAll sampleScripts
    (store.tables.testCases.map fun testCase =>
        (testCase.title, lastScript? {} testCase.id sampleScripts)) =
      [("Login", some [⟨"Click \"Login\"", none⟩]), ("Checkout", some [⟨"Click \"Pay\"", none⟩])] ∧
      Kept sampleScripts store :=
  ⟨by decide +kernel, kept_performAll sampleScripts⟩

end Store

end StepRunner
