import StepRunner.Proofs.Engine.Entries

/-!
This file keeps a record of all runs that the starts of a history enter, and asks for them.
A history of a test case is its part of the record, the newest run first, even if many runs began
at one instant.
-/

namespace StepRunner

/-- The instant of the turn that an occurrence takes. -/
def Occurrence.now? (occurrence : Occurrence) : Option Int := occurrence.turn?.map Turn.now

/-- A test case that is there has a history. -/
theorem Engine.history_eq_ok {engine : Engine} {testCaseId : String}
    (known : testCaseId ∈ engine.store.tables.testCases.map TestCase.id) :
    engine.history testCaseId = .ok (engine.store.tables.listRuns testCaseId) := by
  obtain ⟨testCase, present, same⟩ := List.mem_map.1 known
  have found : (engine.store.tables.testCase? testCaseId).isSome = true :=
    List.find?_isSome.2 ⟨testCase, present, by simpa using same⟩
  obtain ⟨row, looked⟩ := Option.isSome_iff_exists.1 found
  simp only [Engine.history, Engine.testCase, looked]
  rfl

namespace System

/-- The runs that the starts of a history give, in their order. -/
def granted (system : System) : List Occurrence → List Run
  | [] => []
  | occurrence :: later =>
    (system.granted? occurrence).toList ++ (system.occur occurrence).granted later

/-- All that a history enters on the roll, one after the other. -/
def enrolled (system : System) : List Occurrence → List Entry
  | [] => []
  | occurrence :: later => system.entered occurrence ++ (system.occur occurrence).enrolled later

/-- No start of a history that fails leaves its run behind. -/
def Cleans (system : System) : List Occurrence → Prop
  | [] => True
  | occurrence :: later =>
    (∀ turn, occurrence.turn? = some turn → ¬(system.facing occurrence).Leaves turn) ∧
      (system.occur occurrence).Cleans later

/-- A run that is entered gets a larger row number than the runs that are stored by then. -/
def Numbers (rowid : String → Int) (system : System) : List Occurrence → Prop
  | [] => True
  | occurrence :: later =>
    (∀ entry ∈ system.entered occurrence, ∀ run ∈ system.engine.store.tables.runs,
      rowid run.id < rowid entry.runId) ∧ (system.occur occurrence).Numbers rowid later

variable {system : System} {occurrence : Occurrence} {record : List Entry}

/--
The roll is that part of all entries whose test case is still there.
No two entries are of one run, and no id of an entry is handed out again.
-/
structure Recorded (store : Store) (record : List Entry) : Prop where
  sound : store.Sound
  once : (record.map Entry.runId).Nodup
  spent : ∀ entry ∈ record, store.Spent entry.runId ∧ store.Spent entry.testCaseId
  roll : store.tables.roll = record.filter fun entry => store.tables.knows entry.testCaseId

namespace Recorded

/-- The entries on a roll are of different runs with ids that are not handed out again. -/
theorem of_roll {store : Store} (sound : store.Sound) : Recorded store store.tables.roll where
  sound := sound
  once := by
    rw [Tables.roll, List.map_map]
    exact sound.tables.keyed.runs
  spent := by
    intro entry present
    refine ⟨?_, sound.spent_testCase (Tables.knows_eq_true_iff.1
      (sound.tables.linked.knows present))⟩
    obtain ⟨run, among, rfl⟩ := List.mem_map.1 present
    exact sound.spent_run (List.mem_map_of_mem among)
  roll := (List.filter_eq_self.2 fun _ present => sound.tables.linked.knows present).symm

/-- An occurrence appends what it enters to the record. -/
theorem occur (recorded : Recorded system.engine.store record) (occurrence : Occurrence) :
    Recorded (system.occur occurrence).engine.store (record ++ system.entered occurrence) := by
  have passes := system.passes_occur occurrence
  have sound := passes.sound recorded.sound
  have spent (entry : Entry) (among : entry ∈ record) :
      (system.occur occurrence).engine.store.Spent entry.runId ∧
        (system.occur occurrence).engine.store.Spent entry.testCaseId :=
    (recorded.spent entry among).imp (·.later passes.minted_le) (·.later passes.minted_le)
  -- A test case on record does not come back once it is gone.
  have kept : system.engine.store.tables.roll.filter
      (fun entry => (system.occur occurrence).engine.store.tables.knows entry.testCaseId) =
        record.filter
          fun entry => (system.occur occurrence).engine.store.tables.knows entry.testCaseId := by
    rw [recorded.roll, List.filter_filter]
    refine List.filter_congr fun entry among => ?_
    rw [Bool.and_eq_left_iff_imp]
    intro known
    rw [Tables.knows_eq_true_iff] at known ⊢
    exact passes.known recorded.sound (recorded.spent entry among).2 known
  rcases rolls_occur recorded.sound occurrence with ⟨strikes, -⟩ | ⟨turn, run, -, enters⟩
  · rw [entered_of_strikes strikes, List.append_nil]
    exact ⟨sound, recorded.once, spent, strikes.trans kept⟩
  · have roll := enters.roll
    rw [enters.entered_eq recorded.sound]
    have stored : run.entry ∈ (system.occur occurrence).engine.store.tables.roll := by simp [roll]
    have present := (of_roll sound).spent run.entry stored
    refine ⟨sound, ?_, ?_, ?_⟩
    · have new : run.id ∉ record.map Entry.runId := by
        intro old
        obtain ⟨entry, among, same⟩ := List.mem_map.1 old
        refine (recorded.spent entry among).1 _ le_rfl ?_
        rw [same, enters.id, store_facing]
      rw [List.map_append, List.map_singleton, List.nodup_append_comm]
      exact List.nodup_cons.2 ⟨new, recorded.once⟩
    · intro entry among
      rcases List.mem_append.1 among with old | last
      · exact spent entry old
      · rwa [List.mem_singleton.1 last]
    · rw [List.filter_append, ← kept, ← List.filter_append, ← roll]
      exact (List.filter_eq_self.2 fun _ among => sound.tables.linked.knows among).symm

theorem lived (recorded : Recorded system.engine.store record) (history : List Occurrence) :
    Recorded (system.lived history).engine.store (record ++ system.enrolled history) := by
  induction history generalizing system record with
  | nil =>
    rw [enrolled, List.append_nil]
    exact recorded
  | cons occurrence history inductionHypothesis =>
    have later := inductionHypothesis (recorded.occur occurrence)
    rwa [List.append_assoc] at later

end Recorded

section Histories

/-- The times on record are readings of the clock, in the order in which it gave them. -/
theorem startedAt_enrolled_sublist (sound : system.engine.store.Sound)
    (history : List Occurrence) :
    ((system.enrolled history).map Entry.startedAt).Sublist
      (history.filterMap Occurrence.now?) := by
  induction history generalizing system with
  | nil => exact List.Sublist.refl _
  | cons occurrence history inductionHypothesis =>
    have later := inductionHypothesis ((system.passes_occur occurrence).sound sound)
    rw [enrolled, List.map_append]
    rcases rolls_occur sound occurrence with ⟨strikes, -⟩ | ⟨turn, run, taken, enters⟩
    · rw [entered_of_strikes strikes, List.map_nil, List.nil_append, List.filterMap_cons]
      split
      · exact later
      · exact later.cons _
    · have now : occurrence.now? = some turn.now := by
        rw [Occurrence.now?, taken, Option.map_some]
      rw [enters.entered_eq sound, List.map_singleton, List.filterMap_cons_some now]
      change (run.startedAt :: _).Sublist _
      rw [enters.startedAt]
      exact later.cons_cons _

/-- The runs that the starts give are entered in their order. -/
theorem granted_sublist (sound : system.engine.store.Sound) (history : List Occurrence) :
    ((system.granted history).map Run.entry).Sublist (system.enrolled history) := by
  induction history generalizing system with
  | nil => exact List.Sublist.refl _
  | cons occurrence history inductionHypothesis =>
    have later := inductionHypothesis ((system.passes_occur occurrence).sound sound)
    rw [granted, enrolled, List.map_append]
    refine List.Sublist.append ?_ later
    rcases rolls_occur sound occurrence with ⟨-, nobody⟩ | ⟨turn, run, taken, enters⟩
    · simp [nobody]
    · rw [enters.entered_eq sound, granted?, taken, Option.bind_some]
      rcases enters.given with gives | ⟨nobody, -⟩
      · rw [gives]
        exact List.Sublist.refl _
      · simp [nobody]

/-- Nothing else is entered while no start that fails leaves its run behind. -/
theorem Cleans.enrolled_eq {history : List Occurrence} (cleans : system.Cleans history)
    (sound : system.engine.store.Sound) :
    system.enrolled history = (system.granted history).map Run.entry := by
  induction history generalizing system with
  | nil => rfl
  | cons occurrence history inductionHypothesis =>
    obtain ⟨clean, others⟩ := cleans
    rw [granted, enrolled, List.map_append,
      inductionHypothesis others ((system.passes_occur occurrence).sound sound)]
    congr 1
    rcases rolls_occur sound occurrence with ⟨strikes, nobody⟩ | ⟨turn, run, taken, enters⟩
    · rw [entered_of_strikes strikes, nobody]
      rfl
    · rw [enters.entered_eq sound, granted?, taken, Option.bind_some]
      rcases enters.given with gives | ⟨-, leaves⟩
      · rw [gives]
        rfl
      · exact absurd leaves (clean turn taken)

variable {rowid : String → Int}

/-- The runs stay in the order of their row numbers. -/
theorem Numbers.lived {history : List Occurrence} (numbers : system.Numbers rowid history)
    (sound : system.engine.store.Sound)
    (ascending : (system.engine.store.tables.runs.map fun run => rowid run.id).Pairwise (· < ·)) :
    ((system.lived history).engine.store.tables.runs.map fun run => rowid run.id).Pairwise
      (· < ·) := by
  have rolled (tables : Tables) : (tables.runs.map fun run => rowid run.id) =
      tables.roll.map fun entry => rowid entry.runId := by
    rw [Tables.roll, List.map_map]
    rfl
  induction history generalizing system with
  | nil => exact ascending
  | cons occurrence history inductionHypothesis =>
    obtain ⟨larger, others⟩ := numbers
    refine inductionHypothesis others ((system.passes_occur occurrence).sound sound) ?_
    rcases rolls_occur sound occurrence with ⟨strikes, -⟩ | ⟨turn, run, -, enters⟩
    · rw [rolled] at ascending ⊢
      rw [strikes]
      exact ascending.sublist (List.filter_sublist.map _)
    · rw [enters.entered_eq sound] at larger
      rw [enters.tables, store_facing, List.map_append, List.pairwise_append]
      refine ⟨ascending, List.pairwise_singleton _ _, ?_⟩
      intro before stored last only
      obtain ⟨row, present, rfl⟩ := List.mem_map.1 stored
      obtain rfl := List.mem_singleton.1 only
      exact larger _ List.mem_cons_self row present

end Histories

section Chronicles

/-- Whoever asks an engine for runs gets all those on record whose test cases are still there. -/
structure Lists (system : System) (record : List Entry) : Prop where
  /-- The history of a test case has each of its runs once, in the reverse of their order. -/
  histories : ∀ testCaseId ∈ system.engine.store.tables.testCases.map TestCase.id,
    ∃ rows, system.engine.history testCaseId = .ok rows ∧ (rows.map Run.id).Nodup ∧
      rows.map Run.entry = (record.filter fun entry => entry.testCaseId = testCaseId).reverse
  /-- The runs of a project are those of its test cases. -/
  projects : ∀ projectId, (system.engine.store.tables.runIdsOfProject projectId).Nodup ∧
    ∀ runId, runId ∈ system.engine.store.tables.runIdsOfProject projectId ↔
      ∃ entry ∈ record, entry.runId = runId ∧
        system.engine.store.tables.Owns projectId entry.testCaseId

/--
A history enters the runs that the starts give, in their order.
Afterwards all that was there before or was entered is listed, the newest first.
-/
structure Chronicled (system : System) (history : List Occurrence) : Prop where
  lists : (system.lived history).Lists
    (system.engine.store.tables.roll ++ system.enrolled history)
  once : ((system.engine.store.tables.roll ++ system.enrolled history).map Entry.runId).Nodup
  given : ((system.granted history).map Run.entry).Sublist (system.enrolled history)
  /-- Nothing else is entered while no start that fails leaves its run behind. -/
  nothingElse : system.Cleans history →
    system.enrolled history = (system.granted history).map Run.entry
  /-- A history is sorted by the starts and the row numbers, whatever numbers the rows get. -/
  sorted : ∀ rowid : String → Int,
    (system.engine.store.tables.runs.map fun run => rowid run.id).Pairwise (· < ·) →
    system.Numbers rowid history → ∀ testCaseId,
    ((system.lived history).engine.store.tables.listRuns testCaseId).Pairwise fun newer older =>
      older.startedAt < newer.startedAt ∨
        older.startedAt = newer.startedAt ∧ rowid older.id < rowid newer.id

/-- A roll in the order of its times gives the runs of each test case, the newest first. -/
theorem Recorded.lists (recorded : Recorded system.engine.store record)
    (ordered : (system.engine.store.tables.roll.map Entry.startedAt).Pairwise (· ≤ ·)) :
    system.Lists record where
  histories := by
    intro testCaseId known
    refine ⟨_, Engine.history_eq_ok known,
      Tables.nodup_listRuns recorded.sound.tables testCaseId, ?_⟩
    rw [Tables.map_entry_listRuns ordered, recorded.roll, List.filter_filter]
    congr 1
    refine List.filter_congr fun entry _ => ?_
    rw [Bool.and_eq_left_iff_imp]
    intro same
    rwa [of_decide_eq_true same, Tables.knows_eq_true_iff]
  projects := by
    intro projectId
    refine ⟨Tables.nodup_runIdsOfProject recorded.sound.tables projectId, fun runId => ?_⟩
    rw [Tables.mem_runIdsOfProject_iff, recorded.roll]
    constructor
    · rintro ⟨entry, among, same, owned⟩
      exact ⟨entry, List.mem_of_mem_filter among, same, owned⟩
    · rintro ⟨entry, among, same, owned⟩
      have ⟨testCase, present, named, _⟩ := owned
      have known : entry.testCaseId ∈ system.engine.store.tables.testCases.map TestCase.id :=
        List.mem_map.2 ⟨testCase, present, named⟩
      exact ⟨entry, List.mem_filter.2 ⟨among, Tables.knows_eq_true_iff.2 known⟩, same, owned⟩

/--
Under a clock that never goes back, the runs on record are listed once and the newest first,
whatever happens to the engine.
-/
theorem chronicled_lived {store : Store} (sound : store.Sound) (artifacts : Artifacts)
    (options : RunOptions) (history : List Occurrence)
    (forward : (store.tables.runs.map Run.startedAt ++
      history.filterMap Occurrence.now?).Pairwise (· ≤ ·)) :
    (opened store artifacts options).Chronicled history := by
  let first := opened store artifacts options
  have recorded : Recorded first.engine.store store.tables.roll := .of_roll sound
  have later := recorded.lived history
  have times : ((store.tables.roll ++ first.enrolled history).map Entry.startedAt).Sublist
      (store.tables.runs.map Run.startedAt ++ history.filterMap Occurrence.now?) := by
    rw [List.map_append, Tables.roll, List.map_map]
    exact (startedAt_enrolled_sublist recorded.sound history).append_left _
  have ordered : ((first.lived history).engine.store.tables.roll.map Entry.startedAt).Pairwise
      (· ≤ ·) := by
    rw [later.roll]
    exact forward.sublist ((List.filter_sublist.map _).trans times)
  exact
    { lists := later.lists ordered
      once := later.once
      given := granted_sublist recorded.sound history
      nothingElse := fun cleans => cleans.enrolled_eq recorded.sound
      sorted := fun rowid ascending numbers testCaseId =>
        Tables.sorted_listRuns ordered (numbers.lived recorded.sound ascending) testCaseId }

/-- A turn at the second instant, in which no browser can be launched. -/
def sampleMove (move : Move) : Occurrence :=
  .turn (fun _ => ⟨.error .closed, fun _ => none, fun _ => none⟩) ⟨2, move⟩

/-- A run of a test case that is over at once, by the task with a number. -/
def sampleVisit (testCaseId : String) (number : Nat) : List Occurrence :=
  [.begin testCaseId .chromium sampleOptions, .conclude 0 (.ok ()), .proceed number,
    .proceed number].map sampleMove

/--
Two runs of a test case with a failed start, a run of another test case and the removal of that
one in between, all at one instant.
-/
def sampleRolls : List Occurrence :=
  sampleCreation.map (.turn fun _ => .prompt) ++
    [sampleMove (.createTestCase (Store.idOf 0) "Logout" ["Click \"Logout\""])] ++
    sampleVisit (Store.idOf 1) 0 ++
    [sampleMove (.begin (Store.idOf 1) .chromium sampleOptions), .disk [false, true],
      sampleMove (.conclude 0 (.ok ()))] ++
    sampleVisit (Store.idOf 3) 1 ++ [sampleMove (.deleteTestCase (Store.idOf 3))] ++
    sampleVisit (Store.idOf 1) 2

/-- The history of the sample lists two runs of one instant, the newest first. -/
theorem chronicled_sampleRolls :
    (opened {} default sampleOptions).Chronicled sampleRolls ∧
      ∃ rows, ((opened {} default sampleOptions).lived sampleRolls).engine.history (Store.idOf 1) =
          .ok rows ∧
        rows.map Run.entry =
          [⟨Store.idOf 8, Store.idOf 1, 2⟩, ⟨Store.idOf 5, Store.idOf 1, 2⟩] := by
  have whole : (opened {} default sampleOptions).Chronicled sampleRolls :=
    chronicled_lived .empty default sampleOptions sampleRolls (by decide)
  have known : Store.idOf 1 ∈ ((opened {} default sampleOptions).lived
      sampleRolls).engine.store.tables.testCases.map TestCase.id := by
    decide +kernel
  obtain ⟨rows, answered, -, listed⟩ := whole.lists.histories (Store.idOf 1) known
  refine ⟨whole, rows, answered, listed.trans ?_⟩
  decide +kernel

end Chronicles

end System

end StepRunner
