import StepRunner.Proofs.Store.Origins

/-!
This file reads the runs of a store as a roll: who ran for which test case and since when, in the
order in which the runs were stored.
Runs are entered at the end of the roll, and they are struck off with their test case only.
-/

namespace StepRunner

/-- What is on record of a run for good. -/
structure Entry where
  runId : String
  testCaseId : String
  startedAt : Int
  deriving DecidableEq, Repr

/-- What is on record of a run. -/
def Run.entry (run : Run) : Entry := ⟨run.id, run.testCaseId, run.startedAt⟩

namespace Tables

/-- The runs on record, in the order in which they were stored. -/
def roll (tables : Tables) : List Entry := tables.runs.map Run.entry

/-- There is a test case with an id. -/
def knows (tables : Tables) (testCaseId : String) : Bool :=
  (tables.testCases.map TestCase.id).contains testCaseId

/-- No run is entered, and those are struck off whose test case is gone. -/
def Strikes (before after : Tables) : Prop :=
  after.roll = before.roll.filter fun entry => after.knows entry.testCaseId

variable {tables before after : Tables}

@[simp] theorem knows_eq_true_iff {testCaseId : String} :
    tables.knows testCaseId = true ↔ testCaseId ∈ tables.testCases.map TestCase.id :=
  List.contains_iff_mem

theorem Linked.knows (linked : tables.Linked) {entry : Entry} (present : entry ∈ tables.roll) :
    tables.knows entry.testCaseId = true := by
  obtain ⟨run, among, rfl⟩ := List.mem_map.1 present
  obtain ⟨testCase, found, same⟩ := linked.runs run among
  exact knows_eq_true_iff.2 (List.mem_map.2 ⟨testCase, found, same⟩)

section Strikes

/-- A change that keeps the roll strikes nobody off. -/
theorem Strikes.of_same (linked : after.Linked) (same : after.roll = before.roll) :
    before.Strikes after := by
  rw [Strikes, same, List.filter_eq_self.2]
  exact fun entry present => linked.knows (same ▸ present)

theorem Strikes.of_runs (linked : after.Linked) (same : after.runs = before.runs) :
    before.Strikes after :=
  .of_same linked (congrArg (List.map Run.entry) same)

/-- The removal of test cases strikes off their runs. -/
theorem strikes_removeTestCases (sound : tables.Sound) (test : TestCase → Bool) :
    tables.Strikes (tables.removeTestCases test) := by
  rw [Strikes, roll, roll, List.filter_map]
  refine congrArg (List.map Run.entry) (List.filter_congr fun run present => ?_)
  obtain ⟨owner, found, owns⟩ := sound.linked.runs run present
  -- The owner of the run is the only test case with its id.
  have only (testCase : TestCase) (among : testCase ∈ tables.testCases)
      (same : testCase.id = run.testCaseId) : testCase = owner :=
    Rows.eq_of_key_eq sound.keyed.testCases among found (same.trans owns.symm)
  have removed : ((tables.testCases.filter test).map TestCase.id).contains run.testCaseId =
      test owner := by
    rw [Bool.eq_iff_iff, List.contains_iff_mem, List.mem_map]
    constructor
    · rintro ⟨testCase, kept, same⟩
      obtain ⟨among, chosen⟩ := List.mem_filter.1 kept
      exact only testCase among same ▸ chosen
    · exact fun chosen => ⟨owner, List.mem_filter.2 ⟨found, chosen⟩, owns⟩
  have left : (tables.removeTestCases test).knows run.testCaseId = !test owner := by
    rw [Bool.eq_iff_iff, knows_eq_true_iff, List.mem_map]
    constructor
    · rintro ⟨testCase, kept, same⟩
      obtain ⟨among, spared⟩ := List.mem_filter.1 kept
      exact only testCase among same ▸ spared
    · exact fun spared => ⟨owner, List.mem_filter.2 ⟨found, spared⟩, owns⟩
  change (!List.contains _ _) = Tables.knows _ _
  rw [removed]
  exact left.symm

end Strikes

end Tables

namespace Store

variable {store : Store}

/-- A call that neither enters a run nor withdraws one nor lets one begin. -/
def Operation.IsQuiet : Operation → Prop
  | .insertRun _ | .deleteQueuedRun _ => False
  | .moveRun _ _ next _ => next ≠ .running
  | _ => True

/-- A move to another state than running keeps what is on record. -/
theorem roll_writeMove {now : Int} {run : Run} {next : RunStatus} {error : Option String}
    (sound : store.tables.Sound) (present : run ∈ store.tables.runs) (other : next ≠ .running) :
    (store.writeMove (moved run now next error)).tables.roll = store.tables.roll := by
  rw [Tables.roll, Tables.roll]
  change (store.tables.runs.map _).map Run.entry = _
  rw [List.map_map]
  refine List.map_congr_left fun row among => ?_
  simp only [Function.comp_apply]
  split
  · next same =>
    obtain rfl := Rows.eq_of_key_eq sound.keyed.runs among present same
    simp [Run.entry, moved, other]
  · rfl

/-- A quiet call strikes runs off with their test cases only. -/
theorem strikes_perform (sound : store.tables.Sound) {operation : Operation}
    (quiet : operation.IsQuiet) : store.tables.Strikes (store.perform operation).tables := by
  have linked := (tables_perform sound operation).linked
  have same : store.tables.Strikes store.tables := .of_runs sound.linked rfl
  cases operation with
  | mint => exact same
  | createProject now name =>
    refine .of_runs linked ?_
    rw [perform]
    refine accepting_map_induction (·.tables.runs = store.tables.runs) rfl
      fun project after created => ?_
    obtain ⟨-, -, rfl⟩ := createProject_eq created
    rfl
  | createTestCase now projectId title drafts =>
    refine .of_runs linked ?_
    rw [perform]
    exact accepting_map_induction (·.tables.runs = store.tables.runs) rfl
      fun made after created => runs_createTestCase created
  | replaceSteps now testCaseId drafts =>
    refine .of_runs linked ?_
    refine accepting_map_induction (·.tables.runs = store.tables.runs) rfl
      fun steps after replaced => ?_
    have kept := runs_insertSteps (replaceSteps_eq replaced).2
    exact kept
  | deleteProject id =>
    exact Tables.strikes_removeTestCases sound _
  | deleteTestCase id => exact Tables.strikes_removeTestCases sound _
  | insertRun run => cases quiet
  | moveRun now id next error =>
    refine .of_same linked ?_
    refine accepting_map_induction (·.tables.roll = store.tables.roll) rfl
      fun run after moves => ?_
    obtain ⟨row, found, -, rfl, rfl⟩ := moveRun_eq moves
    exact roll_writeMove sound (sound.keyed.run?_eq_some_iff.1 found).1 quiet
  | deleteQueuedRun id => cases quiet
  | recover now =>
    refine .of_same linked ?_
    change (store.tables.runs.map _).map Run.entry = store.tables.runs.map Run.entry
    rw [List.map_map]
    refine List.map_congr_left fun run _ => ?_
    simp only [Function.comp_apply]
    split <;> rfl
  | insertResult result =>
    refine .of_runs linked ?_
    refine accepting_induction (·.tables.runs = store.tables.runs) rfl fun after inserted => ?_
    obtain ⟨-, -, rfl⟩ := insertResult_eq inserted
    rfl
  | finishResult outcome =>
    refine .of_runs linked ?_
    refine accepting_induction (·.tables.runs = store.tables.runs) rfl fun after finished => ?_
    rw [finishResult_eq finished]
    rfl
  | failPending now runId error => exact .of_runs linked rfl

/-- A quiet call on runs and step results keeps what is on record. -/
theorem roll_perform (sound : store.tables.Sound) {operation : Operation}
    (records : operation.records = true) (quiet : operation.IsQuiet) :
    (store.perform operation).tables.roll = store.tables.roll := by
  have testCases := congrArg Tables.testCases (@catalogue_perform store operation records)
  simp only [Tables.catalogue] at testCases
  rw [strikes_perform sound quiet, List.filter_eq_self]
  intro entry present
  have known := sound.linked.knows present
  rwa [Tables.knows, testCases]

end Store

namespace Tables

variable {tables : Tables}

/-- A roll in the order of its times is listed backwards. -/
theorem listRuns_eq (ordered : (tables.roll.map Entry.startedAt).Pairwise (· ≤ ·))
    (testCaseId : String) :
    tables.listRuns testCaseId =
      (tables.runs.filter fun run => run.testCaseId = testCaseId).reverse := by
  rw [roll, List.map_map, List.pairwise_map] at ordered
  refine List.mergeSort_of_pairwise (List.pairwise_reverse.2 ?_)
  exact (ordered.sublist List.filter_sublist).imp (by simp [Run.entry])

/-- The history of a test case is its part of the roll, read backwards. -/
theorem map_entry_listRuns (ordered : (tables.roll.map Entry.startedAt).Pairwise (· ≤ ·))
    (testCaseId : String) :
    (tables.listRuns testCaseId).map Run.entry =
      (tables.roll.filter fun entry => entry.testCaseId = testCaseId).reverse := by
  rw [listRuns_eq ordered, List.map_reverse, roll, List.filter_map]
  rfl

/-- The history of a test case lists no run twice. -/
theorem nodup_listRuns (sound : tables.Sound) (testCaseId : String) :
    ((tables.listRuns testCaseId).map Run.id).Nodup := by
  have same : (tables.listRuns testCaseId).Perm
      (tables.runs.filter fun run => run.testCaseId = testCaseId) :=
    (List.mergeSort_perm _ _).trans (List.reverse_perm _)
  rw [(same.map Run.id).nodup_iff]
  exact sound.keyed.runs.sublist (List.filter_sublist.map _)

/-- Runs in the order of their row numbers are listed by their times and these numbers. -/
theorem sorted_listRuns (ordered : (tables.roll.map Entry.startedAt).Pairwise (· ≤ ·))
    {rowid : String → Int}
    (ascending : (tables.runs.map fun run => rowid run.id).Pairwise (· < ·)) (testCaseId : String) :
    (tables.listRuns testCaseId).Pairwise fun newer older =>
      older.startedAt < newer.startedAt ∨
        older.startedAt = newer.startedAt ∧ rowid older.id < rowid newer.id := by
  rw [listRuns_eq ordered, List.pairwise_reverse]
  rw [roll, List.map_map, List.pairwise_map] at ordered
  rw [List.pairwise_map] at ascending
  refine ((ordered.and ascending).sublist List.filter_sublist).imp fun both => ?_
  obtain ⟨times, numbers⟩ := both
  exact (lt_or_eq_of_le times).imp id fun same => ⟨same, numbers⟩

/-- The runs of a project are those on record for its test cases. -/
theorem mem_runIdsOfProject_iff {projectId runId : String} :
    runId ∈ tables.runIdsOfProject projectId ↔
      ∃ entry ∈ tables.roll, entry.runId = runId ∧ tables.Owns projectId entry.testCaseId := by
  simp only [runIdsOfProject, roll, Owns, List.mem_map, List.mem_filter, List.any_eq_true,
    Bool.and_eq_true, decide_eq_true_eq]
  constructor
  · rintro ⟨run, ⟨present, owned⟩, rfl⟩
    exact ⟨run.entry, ⟨run, present, rfl⟩, rfl, owned⟩
  · rintro ⟨entry, ⟨run, present, rfl⟩, rfl, owned⟩
    exact ⟨run, ⟨present, owned⟩, rfl⟩

theorem nodup_runIdsOfProject (sound : tables.Sound) (projectId : String) :
    (tables.runIdsOfProject projectId).Nodup :=
  sound.keyed.runs.sublist (List.filter_sublist.map _)

end Tables

end StepRunner
