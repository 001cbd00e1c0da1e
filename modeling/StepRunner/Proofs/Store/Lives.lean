import StepRunner.Proofs.Store.Operations
import StepRunner.Proofs.Store.Sparing

/-!
This file follows the rows of runs and their errors through every sequence of calls of the store.
A run goes along the edges of its life, unless a recovery fails it, and its end is final.
It gets an error only when it ends, and most calls end runs only as failed.
-/

namespace StepRunner

/-- A run that has ended goes no further. -/
theorem RunStatus.Edge.unended {before after : RunStatus} (edge : Edge before after) :
    before.isTerminal = false := by
  cases edge <;> rfl

namespace Store

/-- A run that a recovery has failed. -/
def interrupted (run : Run) (now : Int) : Run :=
  { run with status := .failed, endedAt := some now, error := some interruptedMessage }

theorem isOpen_iff {run : Run} : isOpen run = true ↔ run.status.isTerminal = false := by
  cases status : run.status <;> simp [isOpen, status, RunStatus.isTerminal]

namespace Operation

/-- A run is inserted before anybody has begun it. -/
def IsProper : Operation → Prop
  | .insertRun run => run.status = .queued ∧ run.endedAt = none
  | _ => True

/-- A call deletes the test case of a run, or the project of this test case. -/
def Deletes (tables : Tables) (run : Run) : Operation → Prop
  | .deleteTestCase id => run.testCaseId = id
  | .deleteProject id => tables.Owns id run.testCaseId
  | _ => False

/-- What a call makes of a row that it keeps. -/
inductive Changes : Operation → Run → Run → Prop where
  | kept (operation : Operation) (run : Run) : Changes operation run run
  | moved {now : Int} {next : RunStatus} {error : Option String} {run : Run}
      (edge : RunStatus.Edge run.status next) :
      Changes (.moveRun now run.id next error) run (Store.moved run now next error)
  | recovered {now : Int} {run : Run} (unfinished : isOpen run = true) :
      Changes (.recover now) run (interrupted run now)

/-- Where the rows after a call come from, and what has become of the rows before it. -/
structure Alters (operation : Operation) (before after : Tables) : Prop where
  origin : ∀ row ∈ after.runs, (∃ run ∈ before.runs, operation.Changes run row) ∨
    operation = .insertRun row ∧ row.id ∉ before.runs.map Run.id
  fate : ∀ run ∈ before.runs, (∃ row ∈ after.runs, operation.Changes run row) ∨
    operation.Deletes before run ∨ operation = .deleteQueuedRun run.id ∧ run.status = .queued

variable {operation : Operation} {before after : Tables}

theorem Alters.of_same (same : after.runs = before.runs) : operation.Alters before after where
  origin := fun row present => .inl ⟨row, same ▸ present, .kept operation row⟩
  fate := fun run present => .inl ⟨run, same ▸ present, .kept operation run⟩

/-- A call that changes each row at its place alters the runs lawfully. -/
theorem Alters.of_map {change : Run → Run} (runs : after.runs = before.runs.map change)
    (lawful : ∀ run ∈ before.runs, operation.Changes run (change run)) :
    operation.Alters before after where
  origin := by
    intro row present
    rw [runs] at present
    obtain ⟨run, among, rfl⟩ := List.mem_map.1 present
    exact .inl ⟨run, among, lawful run among⟩
  fate := by
    intro run present
    rw [runs]
    exact .inl ⟨change run, List.mem_map_of_mem present, lawful run present⟩

/-- A call that removes rows alters the runs lawfully. -/
theorem Alters.of_filter {test : Run → Bool} (runs : after.runs = before.runs.filter (!test ·))
    (lawful : ∀ run ∈ before.runs, test run = true → operation.Deletes before run ∨
      operation = .deleteQueuedRun run.id ∧ run.status = .queued) :
    operation.Alters before after where
  origin := by
    intro row present
    rw [runs] at present
    exact .inl ⟨row, (List.mem_filter.1 present).1, .kept operation row⟩
  fate := by
    intro run present
    by_cases removed : test run = true
    · exact .inr (lawful run present removed)
    · refine .inl ⟨run, ?_, .kept operation run⟩
      rw [runs]
      exact List.mem_filter.2 ⟨present, by simpa using removed⟩

theorem Changes.id_eq {run row : Run} (changes : operation.Changes run row) : row.id = run.id := by
  cases changes <;> rfl

/-- A run that has ended does not change. -/
theorem Changes.eq_of_terminal {run row : Run} (changes : operation.Changes run row)
    (terminal : run.status.isTerminal = true) : row = run := by
  cases changes with
  | kept => rfl
  | moved edge => simp [edge.unended] at terminal
  | recovered unfinished => simp [isOpen_iff.1 unfinished] at terminal

end Operation

section Calls

variable {store after : Store}

theorem runs_insertSteps {id : String} {drafts : List StepDraft} {steps : List Step}
    (inserted : store.insertSteps id drafts = .ok (steps, after)) :
    after.tables.runs = store.tables.runs := by
  obtain ⟨-, added, -⟩ := insertSteps_eq inserted
  rw [(addSteps_eq added).1]

theorem runs_createTestCase {now : Int} {projectId title : String} {drafts : List StepDraft}
    {made : TestCase × List Step}
    (created : store.createTestCase now projectId title drafts = .ok (made, after)) :
    after.tables.runs = store.tables.runs := by
  obtain ⟨testCase, steps⟩ := made
  obtain ⟨-, tables, added, inserted⟩ := createTestCase_eq created
  obtain ⟨-, -, rfl⟩ := Tables.addTestCase_eq added
  have kept := runs_insertSteps inserted
  exact kept

/-- A move alters the one row with its id. -/
theorem alters_moveRun (sound : store.tables.Sound) {now : Int} {id : String} {next : RunStatus}
    {error : Option String} {run : Run}
    (moves : store.moveRun now id next error = .ok (run, after)) :
    (Operation.moveRun now id next error).Alters store.tables after.tables := by
  obtain ⟨row, found, edge, rfl, rfl⟩ := moveRun_eq moves
  obtain ⟨present, rfl⟩ := sound.keyed.run?_eq_some_iff.1 found
  refine .of_map rfl fun other among => ?_
  split
  · next same =>
    obtain rfl := Rows.eq_of_key_eq sound.keyed.runs among present same
    exact .moved (RunStatus.canMoveTo_iff_edge.1 edge)
  · exact .kept _ other

theorem alters_deleteTestCase (id : String) :
    (Operation.deleteTestCase id).Alters store.tables (store.deleteTestCase id).2.tables := by
  refine .of_filter rfl fun run _ removed => .inl ?_
  obtain ⟨testCase, chosen, same⟩ := List.mem_map.1 (List.contains_iff_mem.1 removed)
  have named : testCase.id = id := by simpa using (List.mem_filter.1 chosen).2
  exact same.symm.trans named

theorem alters_deleteProject (id : String) :
    (Operation.deleteProject id).Alters store.tables (store.deleteProject id).2.tables := by
  refine .of_filter rfl fun run _ removed => .inl ?_
  obtain ⟨testCase, chosen, same⟩ := List.mem_map.1 (List.contains_iff_mem.1 removed)
  obtain ⟨present, owner⟩ := List.mem_filter.1 chosen
  exact ⟨testCase, present, same, by simpa using owner⟩

/-- Every call alters the runs lawfully. -/
theorem alters_perform (sound : store.tables.Sound) (operation : Operation) :
    operation.Alters store.tables (store.perform operation).tables := by
  cases operation with
  | mint => exact .of_same rfl
  | createProject now name =>
    refine accepting_map_induction (Operation.Alters _ store.tables ·.tables) (.of_same rfl)
      fun project after created => ?_
    obtain ⟨-, -, rfl⟩ := createProject_eq created
    exact .of_same rfl
  | createTestCase now projectId title drafts =>
    exact accepting_map_induction (Operation.Alters _ store.tables ·.tables) (.of_same rfl)
      fun made after created => .of_same (runs_createTestCase created)
  | replaceSteps now testCaseId drafts =>
    refine accepting_map_induction (Operation.Alters _ store.tables ·.tables) (.of_same rfl)
      fun steps after replaced => ?_
    have kept := runs_insertSteps (replaceSteps_eq replaced).2
    exact .of_same kept
  | deleteProject id => exact alters_deleteProject id
  | deleteTestCase id => exact alters_deleteTestCase id
  | insertRun run =>
    refine accepting_induction (Operation.Alters _ store.tables ·.tables) (.of_same rfl)
      fun after inserted => ?_
    obtain ⟨new, -, rfl⟩ := insertRun_eq inserted
    constructor
    · intro row present
      rcases List.mem_append.1 present with old | added
      · exact .inl ⟨row, old, .kept _ row⟩
      · rw [List.mem_singleton.1 added]
        exact .inr ⟨rfl, new⟩
    · exact fun row present => .inl ⟨row, List.mem_append_left _ present, .kept _ row⟩
  | moveRun now id next error =>
    exact accepting_map_induction (Operation.Alters _ store.tables ·.tables) (.of_same rfl)
      fun run after moves => alters_moveRun sound moves
  | deleteQueuedRun id =>
    refine .of_filter rfl fun run _ removed => .inr ?_
    obtain ⟨rfl, queued⟩ : run.id = id ∧ run.status = .queued := by simpa using removed
    exact ⟨rfl, queued⟩
  | recover now =>
    refine .of_map rfl fun run _ => ?_
    split
    · next unfinished => exact .recovered unfinished
    · exact .kept _ run
  | insertResult result =>
    refine accepting_induction (Operation.Alters _ store.tables ·.tables) (.of_same rfl)
      fun after inserted => ?_
    obtain ⟨-, -, rfl⟩ := insertResult_eq inserted
    exact .of_same rfl
  | finishResult outcome =>
    refine accepting_induction (Operation.Alters _ store.tables ·.tables) (.of_same rfl)
      fun after finished => ?_
    rw [finishResult_eq finished]
    exact .of_same rfl
  | failPending now runId error => exact .of_same rfl

end Calls

variable {store : Store}

section Laws

/-- Two rows of one run, before and after a call, are related by what the call does. -/
theorem changes_of_same_id (sound : store.tables.Sound) {operation : Operation} {run row : Run}
    (before : run ∈ store.tables.runs) (after : row ∈ (store.perform operation).tables.runs)
    (same : row.id = run.id) : operation.Changes run row := by
  rcases (alters_perform sound operation).origin row after with
    ⟨other, present, changes⟩ | ⟨-, new⟩
  · obtain rfl := Rows.eq_of_key_eq sound.keyed.runs present before (changes.id_eq.symm.trans same)
    exact changes
  · exact absurd (List.mem_map.2 ⟨run, before, same.symm⟩) new

/-- A run has an end exactly if it has ended. -/
def Dated (store : Store) : Prop :=
  ∀ run ∈ store.tables.runs, run.endedAt.isSome = run.status.isTerminal

theorem Dated.perform (dated : store.Dated) (sound : store.tables.Sound) {operation : Operation}
    (proper : operation.IsProper) : (store.perform operation).Dated := by
  intro row present
  rcases (alters_perform sound operation).origin row present with
    ⟨run, among, changes⟩ | ⟨rfl, -⟩
  · have before := dated run among
    cases changes with
    | kept => exact before
    | recovered => rfl
    | @moved _ next _ _ edge =>
      rw [edge.unended] at before
      cases ends : next.isTerminal with
      | true => simp [moved, ends]
      | false => simpa [moved, ends] using before
  · obtain ⟨queued, unended⟩ := proper
    simp [queued, unended, RunStatus.isTerminal]

/-- A run that has ended is left alone until its test case or its project is deleted. -/
theorem kept_or_deleted (sound : store.tables.Sound) {run : Run}
    (present : run ∈ store.tables.runs) (terminal : run.status.isTerminal = true)
    (later : List Operation) :
    run ∈ (store.performAll later).tables.runs ∨ ∃ earlier operation rest,
      later = earlier ++ operation :: rest ∧ run ∈ (store.performAll earlier).tables.runs ∧
      operation.Deletes (store.performAll earlier).tables run := by
  -- The first call that does not keep the row can only be a deletion, as the row is not queued.
  induction later generalizing store with
  | nil => exact .inl present
  | cons operation later inductionHypothesis =>
    rcases (alters_perform sound operation).fate run present with
      ⟨row, still, changes⟩ | deletes | ⟨-, queued⟩
    · obtain rfl := changes.eq_of_terminal terminal
      rcases inductionHypothesis (tables_perform sound operation) still with
        kept | ⟨earlier, deletion, rest, rfl, before, deletes⟩
      · exact .inl kept
      · exact .inr ⟨operation :: earlier, deletion, rest, rfl, before, deletes⟩
    · exact .inr ⟨[], operation, later, rfl, present, deletes⟩
    · simp [queued, RunStatus.isTerminal] at terminal

/-- A move succeeds exactly along an edge of the life of a stored run. -/
theorem moveRun_accepted_iff (sound : store.tables.Sound) {now : Int} {id : String}
    {next : RunStatus} {error : Option String} :
    (∃ run after, store.moveRun now id next error = .ok (run, after)) ↔
      ∃ run ∈ store.tables.runs, run.id = id ∧ RunStatus.Edge run.status next := by
  constructor
  · rintro ⟨run, after, moves⟩
    obtain ⟨row, found, edge, -, -⟩ := moveRun_eq moves
    obtain ⟨present, named⟩ := sound.keyed.run?_eq_some_iff.1 found
    exact ⟨row, present, named, RunStatus.canMoveTo_iff_edge.1 edge⟩
  · rintro ⟨run, present, rfl, edge⟩
    have found := sound.keyed.run?_eq_some_iff.2 ⟨present, rfl⟩
    have allowed := RunStatus.canMoveTo_iff_edge.2 edge
    exact ⟨moved run now next error, store.writeMove (moved run now next error),
      by simp [moveRun, checkMove, found, allowed, bind, Except.bind, pure, Except.pure]⟩

end Laws

/-- The stored runs live lawfully, whatever is called next. -/
structure Lawful (store : Store) : Prop where
  dated : store.Dated
  edges : ∀ operation, ∀ run ∈ store.tables.runs,
    ∀ row ∈ (store.perform operation).tables.runs, row.id = run.id → row.status ≠ run.status →
      RunStatus.Edge run.status row.status ∨
        (∃ now, operation = .recover now) ∧ run.status.isTerminal = false ∧ row.status = .failed
  stamped : ∀ operation, ∀ run ∈ store.tables.runs,
    ∀ row ∈ (store.perform operation).tables.runs, row.id = run.id → run.endedAt.isSome = true →
      row.endedAt = run.endedAt
  settled : ∀ run ∈ store.tables.runs, run.status.isTerminal = true → ∀ later,
    run ∈ (store.performAll later).tables.runs ∨ ∃ earlier operation rest,
      later = earlier ++ operation :: rest ∧ run ∈ (store.performAll earlier).tables.runs ∧
      operation.Deletes (store.performAll earlier).tables run
  accepted_iff : ∀ now id next error,
    (∃ run after, store.moveRun now id next error = .ok (run, after)) ↔
      ∃ run ∈ store.tables.runs, run.id = id ∧ RunStatus.Edge run.status next
  refused : ∀ now id next error fault, store.moveRun now id next error = .error fault →
    store.perform (.moveRun now id next error) = store

theorem Dated.lawful (dated : store.Dated) (sound : store.tables.Sound) : store.Lawful where
  dated := dated
  edges := by
    intro operation run before row after same changed
    cases changes_of_same_id sound before after same with
    | kept => exact absurd rfl changed
    | moved edge => exact .inl edge
    | @recovered now _ unfinished => exact .inr ⟨⟨now, rfl⟩, isOpen_iff.1 unfinished, rfl⟩
  stamped := by
    intro operation run before row after same ended
    have terminal := (dated run before).symm.trans ended
    rw [(changes_of_same_id sound before after same).eq_of_terminal terminal]
  settled := fun run present terminal later => kept_or_deleted sound present terminal later
  accepted_iff := fun now id next error => moveRun_accepted_iff sound
  refused := by
    intro now id next error fault refusal
    rw [Store.perform, refusal]
    rfl

/-- The runs of a store live lawfully if each is inserted before anybody has begun it. -/
theorem lawful_performAll (operations : List Operation)
    (proper : ∀ operation ∈ operations, operation.IsProper) :
    (({} : Store).performAll operations).Lawful := by
  -- The two invariants are carried along; the laws are read off them at the end.
  suffices lawful : ∀ store : Store, store.Dated → store.tables.Sound →
      (store.performAll operations).Lawful from lawful {} (by simp [Dated]) .empty
  induction operations with
  | nil => exact fun store dated sound => dated.lawful sound
  | cons operation operations inductionHypothesis =>
    intro store dated sound
    obtain ⟨first, others⟩ := List.forall_mem_cons.1 proper
    exact inductionHypothesis others _ (dated.perform sound first) (tables_perform sound operation)

/-- A run is started, interrupted and recovered, and a late move is refused. -/
def sampleCalls : List Operation :=
  let run : Run := ⟨"run", idOf 1, .chromium, .queued, 2, none, none⟩
  [.createProject 0 "Shop", .createTestCase 1 (idOf 0) "Login" [], .insertRun run,
    .moveRun 3 "run" .running none, .recover 4, .moveRun 5 "run" .passed none]

theorem lawful_sampleCalls :
    ((({} : Store).performAll sampleCalls).tables.run? "run").map Run.status = some .failed ∧
      (({} : Store).performAll sampleCalls).Lawful := by
  refine ⟨by decide +kernel, lawful_performAll sampleCalls ?_⟩
  simp [sampleCalls, Operation.IsProper]

end Store

/-- A run that has failed, or that has not ended and has no error. -/
def Run.IsPlain (run : Run) : Prop :=
  run.status = .failed ∨ run.status.isTerminal = false ∧ run.error = none

/-- A call ends runs only as failed, and gives an error to no other run. -/
def Store.Operation.IsPlain : Store.Operation → Prop
  | .insertRun run => run.IsPlain
  | .moveRun _ _ next error => next = .failed ∨ next.isTerminal = false ∧ error = none
  | _ => True

namespace Tables

/-- The tables are sound, and a run that has not ended has no error. -/
structure Clean (tables : Tables) : Prop where
  sound : tables.Sound
  blameless : ∀ run ∈ tables.runs, run.status.isTerminal = false → run.error = none

/-- Clean tables stay clean, and each new state of a run is plain. -/
def Follows (before after : Tables) : Prop :=
  before.Clean → after.Clean ∧ ∀ row ∈ after.runs, row ∈ before.runs ∨ row.IsPlain

variable {before middle after : Tables}

theorem Follows.refl : before.Follows before :=
  fun clean => ⟨clean, fun _ present => .inl present⟩

theorem Follows.trans (first : before.Follows middle) (second : middle.Follows after) :
    before.Follows after := by
  intro clean
  obtain ⟨between, early⟩ := first clean
  obtain ⟨last, late⟩ := second between
  refine ⟨last, fun row present => ?_⟩
  rcases late row present with old | plain
  · exact early row old
  · exact .inr plain

/-- Tables are clean after a change that adds plain states of runs. -/
theorem Clean.of_rows (clean : before.Clean) (sound : after.Sound)
    (rows : ∀ row ∈ after.runs, row ∈ before.runs ∨ row.IsPlain) : after.Clean where
  sound
  blameless := by
    intro row present unended
    rcases rows row present with old | failed | ⟨-, unblamed⟩
    · exact clean.blameless row old unended
    · rw [failed] at unended
      cases unended
    · exact unblamed

end Tables

namespace Store

variable {store : Store} {operation : Operation}

/-- What a plain call makes of a run is the run itself or plain. -/
theorem Operation.Changes.isPlain {run row : Run} (changes : operation.Changes run row)
    (plain : operation.IsPlain)
    (blameless : run.status.isTerminal = false → run.error = none) :
    row = run ∨ row.IsPlain := by
  cases changes with
  | kept => exact .inl rfl
  | moved edge =>
    right
    rcases plain with fails | ⟨unended, unblamed⟩
    · exact .inl fails
    · refine .inr ⟨unended, ?_⟩
      show (_ <|> run.error) = none
      rw [unblamed, blameless edge.unended]
      rfl
  | recovered => exact .inr (.inl rfl)

theorem follows_perform (store : Store) (plain : operation.IsPlain) :
    store.tables.Follows (store.perform operation).tables := by
  intro clean
  have rows : ∀ row ∈ (store.perform operation).tables.runs,
      row ∈ store.tables.runs ∨ row.IsPlain := by
    intro row present
    rcases (alters_perform clean.sound operation).origin row present with
      ⟨run, among, changes⟩ | ⟨rfl, -⟩
    · rcases changes.isPlain plain (clean.blameless run among) with rfl | plain
      · exact .inl among
      · exact .inr plain
    · exact .inr plain
  exact ⟨clean.of_rows (tables_perform clean.sound operation) rows, rows⟩

end Store

end StepRunner
