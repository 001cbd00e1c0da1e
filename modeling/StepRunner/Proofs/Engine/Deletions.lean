import StepRunner.Proofs.Artifacts.Housing
import StepRunner.Proofs.Engine.Preservation
import StepRunner.Proofs.Engine.Records

/-!
This file shows that the deletion of a project or a test case is refused or complete.
It is refused exactly while a run of it is about to start or in progress.
Otherwise its rows and its screenshots go and never come back, and everything else stays.
-/

namespace StepRunner

open StepRunner.Path (isBelow)
open StepRunner.Tables (Row)

namespace Deletion

/-- The id of what a deletion deletes. -/
def id : Deletion → String
  | project id | testCase id => id

/-- The kind of what a deletion deletes. -/
def resource : Deletion → Resource
  | project _ => .project
  | testCase _ => .testCase

/-- A row is the one that a deletion names. -/
def Names : Deletion → Row → Prop
  | project id => Row.IsProject id
  | testCase id => Row.IsTestCase id

/-- The change of the store by a deletion; it tells whether there was a row. -/
def remove (store : Store) : Deletion → Bool × Store
  | project id => store.deleteProject id
  | testCase id => store.deleteTestCase id

/-- The guard of a deletion. -/
def check (registry : Registry) : Deletion → Except EngineError Unit
  | project id => registry.checkProject id
  | testCase id => registry.checkTestCase id

/-- The ids of the runs whose screenshots a deletion removes. -/
def runIds (tables : Tables) : Deletion → List String
  | project id => tables.runIdsOfProject id
  | testCase id => (tables.listRuns id).map Run.id

/-- The table and the id of the row that a deletion names. -/
def key : Deletion → Table × String
  | project id => (.projects, id)
  | testCase id => (.testCases, id)

end Deletion

/-- The slot is reserved for a project or a test case, or a run of it is in progress. -/
inductive Slot.IsFor : Slot → Deletion → Prop where
  | reservedProject (ticket : Nat) (projectId testCaseId : String) :
      IsFor (.reserved ticket projectId testCaseId) (.project projectId)
  | reservedTestCase (ticket : Nat) (projectId testCaseId : String) :
      IsFor (.reserved ticket projectId testCaseId) (.testCase testCaseId)
  | activeProject (ticket : Nat) (context : ActiveContext) :
      IsFor (.active ticket context) (.project context.projectId)
  | activeTestCase (ticket : Nat) (context : ActiveContext) :
      IsFor (.active ticket context) (.testCase context.testCaseId)

/-- A row and everything that depends on it is gone, and so are its files; all else is the same. -/
structure Engine.Loses (before : Engine) (top : Row) (after : Engine) : Prop where
  same : after = { before with
    store := { before.store with tables := after.store.tables }
    artifacts := after.artifacts }
  mem_iff : ∀ row, row ∈ after.store.tables.rows ↔
    row ∈ before.store.tables.rows ∧ ¬before.store.tables.DependsOn top row
  order : after.store.tables.rows.Sublist before.store.tables.rows
  files : ∃ removed, before.artifacts.Purged removed after.artifacts ∧ ∀ runId, runId ∈ removed ↔
    ∃ run ∈ before.store.tables.runs, run.id = runId ∧
      before.store.tables.DependsOn top (.run run)

/-- No row has the key of a row or refers to it, and no file of it is there. -/
structure Engine.Lacks (engine : Engine) (row : Row) : Prop where
  key : ∀ other ∈ engine.store.tables.rows, other.key ≠ row.key
  owned : ∀ other ∈ engine.store.tables.rows, ¬other.RefersTo row
  files : ∀ run, row = .run run → ∀ location,
    isBelow (engine.artifacts.runDirectory run.id) location = true →
      engine.artifacts.disk.node? location = none

/-- What becomes of a deletion in an engine. -/
structure Deletion.Guarded (deletion : Deletion) (before : Engine) : Prop where
  refused : (deletion.perform before).1 = .error (.runInProgress deletion.resource deletion.id) ↔
    before.registry.slot.IsFor deletion
  missing : ¬before.registry.slot.IsFor deletion →
    (∀ row ∈ before.store.tables.rows, ¬deletion.Names row) →
      (deletion.perform before).1 = .error (.notFound deletion.resource deletion.id)
  failed : ∀ fault, (deletion.perform before).1 = .error fault →
    (deletion.perform before).2 = before
  complete : ¬before.registry.slot.IsFor deletion →
    ∀ top ∈ before.store.tables.rows, deletion.Names top →
      (deletion.perform before).1 = .ok () ∧ before.Loses top (deletion.perform before).2

variable {engine later : Engine} {deletion : Deletion}

namespace Deletion

section Data

theorem names_iff_key {row : Row} : deletion.Names row ↔ row.key = deletion.key := by
  cases deletion <;> cases row <;> simp [Names, key, Row.key, Row.IsProject, Row.IsTestCase]

theorem cascades {store : Store} (sound : store.tables.Sound) (deletion : Deletion) :
    store.tables.Cascades deletion.Names (deletion.remove store).1
      (deletion.remove store).2.tables := by
  cases deletion with
  | project id => exact sound.cascades_removeProject id
  | testCase id => exact sound.cascades_removeTestCase id

theorem mem_ids_filter {tables : Tables} {top : Row} {test : Run → Bool}
    (chosen : ∀ run ∈ tables.runs, test run = true ↔ tables.DependsOn top (.run run))
    (runId : String) : runId ∈ (tables.runs.filter test).map Run.id ↔
      ∃ run ∈ tables.runs, run.id = runId ∧ tables.DependsOn top (.run run) := by
  rw [List.mem_map]
  constructor
  · rintro ⟨run, kept, same⟩
    obtain ⟨present, tested⟩ := List.mem_filter.1 kept
    exact ⟨run, present, same, (chosen run present).1 tested⟩
  · rintro ⟨run, present, same, depends⟩
    exact ⟨run, List.mem_filter.2 ⟨present, (chosen run present).2 depends⟩, same⟩

/-- The runs whose screenshots are removed are those that depend on the row. -/
theorem mem_runIds {tables : Tables} (sound : tables.Sound) {top : Row}
    (present : top ∈ tables.rows) (named : deletion.Names top) (runId : String) :
    runId ∈ deletion.runIds tables ↔
      ∃ run ∈ tables.runs, run.id = runId ∧ tables.DependsOn top (.run run) := by
  cases deletion with
  | project id =>
    cases top with
    | project project =>
      obtain rfl : project.id = id := named
      rw [Tables.project_mem_rows] at present
      refine mem_ids_filter (fun run among => ?_) runId
      rw [Tables.dependsOn_project_iff present (Tables.run_mem_rows.2 among) nofun,
        Tables.falls_run, List.any_eq_true, List.mem_map]
      simp only [Bool.and_eq_true, decide_eq_true_eq, List.mem_filter]
      exact exists_congr fun testCase => ⟨fun ⟨found, same, owned⟩ => ⟨⟨found, owned⟩, same⟩,
        fun ⟨⟨found, owned⟩, same⟩ => ⟨found, same, owned⟩⟩
    | _ => cases named
  | testCase id =>
    cases top with
    | testCase testCase =>
      obtain rfl : testCase.id = id := named
      rw [Tables.testCase_mem_rows] at present
      have listed : runId ∈ (tables.listRuns testCase.id).map Run.id ↔
          runId ∈ (tables.runs.filter fun run => run.testCaseId = testCase.id).map Run.id := by
        simp only [Tables.listRuns, List.mem_map, List.mem_mergeSort, List.mem_reverse]
      refine listed.trans (mem_ids_filter (fun run _ => ?_) runId)
      rw [Tables.dependsOn_testCase_iff sound.keyed present, Tables.falls_run, decide_eq_true_eq,
        List.mem_map]
      constructor
      · exact fun same => ⟨testCase, List.mem_filter.2 ⟨present, decide_eq_true rfl⟩, same.symm⟩
      · rintro ⟨other, kept, same⟩
        exact same.symm.trans (of_decide_eq_true (List.mem_filter.1 kept).2)
    | _ => cases named

theorem perform_eq_delete (engine : Engine) (deletion : Deletion) :
    deletion.perform engine = engine.delete (deletion.check engine.registry)
      (.notFound deletion.resource deletion.id) (deletion.runIds engine.store.tables)
      (deletion.remove ·) := by
  cases deletion <;> rfl

theorem isFor_project_iff {registry : Registry} {id : String} :
    registry.slot.IsFor (.project id) ↔ registry.holdsProject id = true := by
  unfold Registry.holdsProject
  cases registry.slot with
  | empty => exact ⟨nofun, nofun⟩
  | reserved ticket projectId testCaseId =>
    rw [decide_eq_true_eq]
    constructor
    · rintro ⟨⟩
      rfl
    · rintro rfl
      exact .reservedProject ticket _ testCaseId
  | active ticket context =>
    rw [decide_eq_true_eq]
    constructor
    · rintro ⟨⟩
      rfl
    · rintro rfl
      exact .activeProject ticket context

theorem isFor_testCase_iff {registry : Registry} {id : String} :
    registry.slot.IsFor (.testCase id) ↔ registry.holdsTestCase id = true := by
  unfold Registry.holdsTestCase
  cases registry.slot with
  | empty => exact ⟨nofun, nofun⟩
  | reserved ticket projectId testCaseId =>
    rw [decide_eq_true_eq]
    constructor
    · rintro ⟨⟩
      rfl
    · rintro rfl
      exact .reservedTestCase ticket projectId _
  | active ticket context =>
    rw [decide_eq_true_eq]
    constructor
    · rintro ⟨⟩
      rfl
    · rintro rfl
      exact .activeTestCase ticket context

/-- The guard refuses a deletion exactly while the slot is for what it deletes. -/
theorem check_eq (registry : Registry) (deletion : Deletion) :
    registry.slot.IsFor deletion ∧
        deletion.check registry = .error (.runInProgress deletion.resource deletion.id) ∨
      ¬registry.slot.IsFor deletion ∧ deletion.check registry = .ok () := by
  cases deletion with
  | project id =>
    rw [isFor_project_iff]
    by_cases held : registry.holdsProject id = true
    · exact .inl ⟨held, if_pos held⟩
    · exact .inr ⟨held, if_neg held⟩
  | testCase id =>
    rw [isFor_testCase_iff]
    by_cases held : registry.holdsTestCase id = true
    · exact .inl ⟨held, if_pos held⟩
    · exact .inr ⟨held, if_neg held⟩

end Data

section Outcomes

/-- A deletion is refused while the slot is for what it deletes. -/
theorem perform_of_held (held : engine.registry.slot.IsFor deletion) :
    deletion.perform engine = (.error (.runInProgress deletion.resource deletion.id), engine) := by
  obtain ⟨-, refused⟩ | ⟨free, -⟩ := check_eq engine.registry deletion
  · rw [perform_eq_delete, refused, Engine.delete]
  · exact absurd held free

/-- A deletion that is allowed removes its row and the screenshots, if there is a row. -/
theorem perform_of_free (reliable : engine.refusals = [])
    (free : ¬engine.registry.slot.IsFor deletion) :
    deletion.perform engine =
      if (deletion.remove engine.store).1 then
        (.ok (), Engine.removeArtifacts { engine with store := (deletion.remove engine.store).2 }
          (deletion.runIds engine.store.tables))
      else (.error (.notFound deletion.resource deletion.id),
        { engine with store := (deletion.remove engine.store).2 }) := by
  obtain ⟨held, -⟩ | ⟨-, allowed⟩ := check_eq engine.registry deletion
  · exact absurd held free
  · have removes : engine.writeAlways (deletion.remove ·) =
        (.ok (deletion.remove engine.store).1,
          { engine with store := (deletion.remove engine.store).2 }) :=
      Engine.write_of_accepted reliable rfl
    rw [perform_eq_delete, allowed, Engine.delete]
    simp only [removes]
    cases (deletion.remove engine.store).1 <;> rfl

/-- Without a row a deletion changes nothing. -/
theorem perform_of_missing (reliable : engine.refusals = []) (sound : engine.store.tables.Sound)
    (free : ¬engine.registry.slot.IsFor deletion)
    (missing : ∀ row ∈ engine.store.tables.rows, ¬deletion.Names row) :
    deletion.perform engine = (.error (.notFound deletion.resource deletion.id), engine) := by
  have cascades := deletion.cascades sound
  have told : (deletion.remove engine.store).1 = false := by
    rw [Bool.eq_false_iff, ne_eq, cascades.told_iff]
    rintro ⟨top, present, named⟩
    exact missing top present named
  have kept : (deletion.remove engine.store).2 = engine.store := by
    have tables := cascades.absent told
    cases deletion with
    | project id => exact congrArg engine.store.withTables tables
    | testCase id => exact congrArg engine.store.withTables tables
  rw [perform_of_free reliable free, told, kept]
  rfl

/-- A deletion that finds its row takes it with all that depends on it. -/
theorem perform_of_present (reliable : engine.refusals = []) (sound : engine.store.tables.Sound)
    {runIds : List String} (tidy : engine.artifacts.Tidy runIds)
    (free : ¬engine.registry.slot.IsFor deletion) {top : Row}
    (present : top ∈ engine.store.tables.rows) (named : deletion.Names top) :
    (deletion.perform engine).1 = .ok () ∧
      engine.Loses top (deletion.perform engine).2 := by
  have cascades := deletion.cascades sound
  have told := cascades.told_iff.2 ⟨top, present, named⟩
  rw [perform_of_free reliable free, told, if_pos rfl]
  refine ⟨rfl, ?_, cascades.mem_iff top present named, cascades.order, ?_⟩
  · cases deletion <;> rfl
  · exact ⟨_, tidy.purged_removeRuns _, mem_runIds sound present named⟩

/-- A deletion changes nothing, or it takes its row with all that depends on it. -/
theorem perform_cases (reliable : engine.refusals = []) (sound : engine.store.tables.Sound)
    {runIds : List String} (tidy : engine.artifacts.Tidy runIds) (deletion : Deletion) :
    (∃ fault, deletion.perform engine = (.error fault, engine)) ∨
      ∃ top ∈ engine.store.tables.rows, deletion.Names top ∧
        (deletion.perform engine).1 = .ok () ∧ engine.Loses top (deletion.perform engine).2 := by
  by_cases held : engine.registry.slot.IsFor deletion
  · exact .inl ⟨_, perform_of_held held⟩
  · by_cases found : ∃ top ∈ engine.store.tables.rows, deletion.Names top
    · obtain ⟨top, present, named⟩ := found
      exact .inr ⟨top, present, named, perform_of_present reliable sound tidy held present named⟩
    · simp only [not_exists, not_and] at found
      exact .inl ⟨_, perform_of_missing reliable sound held found⟩

/-- A deletion is refused, or it names nothing, or it is complete. -/
theorem guarded (reliable : engine.refusals = []) (sound : engine.store.tables.Sound)
    {runIds : List String} (tidy : engine.artifacts.Tidy runIds) : deletion.Guarded engine where
  refused := by
    by_cases held : engine.registry.slot.IsFor deletion
    · simp [perform_of_held held, held]
    · refine iff_of_false ?_ held
      rw [perform_of_free reliable held]
      split <;> simp
  missing := by
    intro free missing
    rw [perform_of_missing reliable sound free missing]
  failed := by
    intro fault failed
    obtain ⟨_, same⟩ | ⟨top, -, -, done, -⟩ := perform_cases reliable sound tidy deletion
    · rw [same]
    · rw [done] at failed
      cases failed
  complete := fun free _ present named =>
    perform_of_present reliable sound tidy free present named

end Outcomes

end Deletion

namespace System

/-- The system is consistent, and every screenshot is in the house of a stored run. -/
structure Housed (system : System) : Prop where
  consistent : system.Consistent
  tidy : system.engine.artifacts.Tidy (system.engine.store.tables.runs.map Run.id)

/-- A later system is in order; it brings no id back and keeps the screenshots where they are. -/
structure Leads (before after : System) : Prop where
  housed : after.Housed
  stems : before.engine.store.Stems after.engine.store
  root : after.engine.artifacts.root = before.engine.artifacts.root

variable {system : System} {sessions : Nat → Session}

section Turns

theorem Housed.perform_cases (housed : system.Housed) (deletion : Deletion) :
    (∃ fault, deletion.perform system.engine = (.error fault, system.engine)) ∨
      ∃ top ∈ system.engine.store.tables.rows, deletion.Names top ∧
        (deletion.perform system.engine).1 = .ok () ∧
        system.engine.Loses top (deletion.perform system.engine).2 :=
  Deletion.perform_cases housed.consistent.reliable housed.consistent.store.tables housed.tidy
    deletion

/-- A turn brings no id back. -/
theorem Housed.stems_of_touches (housed : system.Housed) (touches : system.engine.Touches later) :
    system.engine.store.Stems later.store := by
  cases touches with
  | recorded records => exact records.grows.stems
  | captured found stage records => exact records.grows.stems
  | read path variant => exact .refl _
  | deleted deletion =>
    obtain ⟨fault, same⟩ | ⟨top, -, -, -, loses⟩ := housed.perform_cases deletion
    · rw [same]
      exact .refl _
    · refine (Store.Stems.refl _).of_sublist ?_ loses.order
      rw [loses.same]

/-- A turn does not move the directory of the screenshots. -/
theorem Housed.root_of_touches (housed : system.Housed) (touches : system.engine.Touches later) :
    later.artifacts.root = system.engine.artifacts.root := by
  cases touches with
  | recorded records => rw [records.artifacts]
  | captured found stage records =>
    rw [records.artifacts]
    exact Artifacts.root_capture _ _ _ _
  | read path variant => exact Artifacts.root_read _ path variant
  | deleted deletion =>
    obtain ⟨fault, same⟩ | ⟨top, -, -, -, loses⟩ := housed.perform_cases deletion
    · rw [same]
    · obtain ⟨removed, purged, -⟩ := loses.files
      exact purged.root

/-- A turn leaves each screenshot in the house of a stored run. -/
theorem Housed.tidy_of_touches (housed : system.Housed) (touches : system.engine.Touches later) :
    later.artifacts.Tidy (later.store.tables.runs.map Run.id) := by
  cases touches with
  | recorded records => exact records.artifacts ▸ housed.tidy.mono records.grows.runs
  | @captured _ number task result _ picture _ found stage records =>
    -- The run of a task that stores a screenshot is in progress, so it is stored.
    obtain ⟨finished, running⟩ := housed.consistent.running_of_busy found
      (by simp [RunTask.isOver, stage])
    have stored := List.mem_map_of_mem (f := Run.id) running.sound.stored
    have captured := housed.tidy.capture stored result.stepId picture
    exact records.artifacts ▸ captured.mono records.grows.runs
  | read path variant => exact housed.tidy.read path variant
  | deleted deletion =>
    obtain ⟨fault, same⟩ | ⟨top, -, -, -, loses⟩ := housed.perform_cases deletion
    · rw [same]
      exact housed.tidy
    · obtain ⟨removed, purged, listed⟩ := loses.files
      refine housed.tidy.purged purged fun runId known => ?_
      obtain ⟨run, among, same⟩ := List.mem_map.1 known
      by_cases depends : system.engine.store.tables.DependsOn top (.run run)
      · exact .inl ((listed runId).2 ⟨run, among, same, depends⟩)
      · have left := (loses.mem_iff (.run run)).2 ⟨Tables.run_mem_rows.2 among, depends⟩
        exact .inr (List.mem_map.2 ⟨run, Tables.run_mem_rows.1 left, same⟩)

theorem Housed.step (housed : system.Housed) (sessions : Nat → Session) (turn : Turn) :
    system.Leads (system.step sessions turn) := by
  have touches := Engine.touches_step sessions system housed.consistent.store turn
  exact ⟨⟨housed.consistent.step sessions turn, housed.tidy_of_touches touches⟩,
    housed.stems_of_touches touches, housed.root_of_touches touches⟩

theorem Housed.after (housed : system.Housed) (sessions : Nat → Session) (history : List Turn) :
    system.Leads (system.after sessions history) := by
  induction history generalizing system with
  | nil => exact ⟨housed, .refl _, rfl⟩
  | cons turn history inductionHypothesis =>
    have first := housed.step sessions turn
    have rest := inductionHypothesis first.housed
    exact ⟨rest.housed, first.stems.trans rest.stems, rest.root.trans first.root⟩

end Turns

section Histories

/--
A deletion after a history is guarded. If it is carried out, what belonged to the row at any time
of the history is gone, whatever comes later.
-/
structure Deletes (sessions : Nat → Session) (start : System) (past : List Turn)
    (deletion : Deletion) : Prop where
  guarded : deletion.Guarded (start.after sessions past).engine
  turn : ∀ now, (start.after sessions (past ++ [⟨now, deletion.move⟩])).engine =
    (deletion.perform (start.after sessions past).engine).2
  lasting : (deletion.perform (start.after sessions past).engine).1 = .ok () →
    ∀ early late, early ++ late = past → ∀ top row,
      top ∈ (start.after sessions early).engine.store.tables.rows → deletion.Names top →
      row ∈ (start.after sessions early).engine.store.tables.rows →
      (start.after sessions early).engine.store.tables.DependsOn top row →
        ∀ now future,
          (start.after sessions (past ++ ⟨now, deletion.move⟩ :: future)).engine.Lacks row
  root : ∀ history,
    (start.after sessions history).engine.artifacts.root = start.engine.artifacts.root

theorem after_append (start : System) (early late : List Turn) :
    start.after sessions (early ++ late) = (start.after sessions early).after sessions late :=
  List.foldl_append

/-- The turn of a deletion carries it out. -/
theorem step_deletion (system : System) (now : Int) (deletion : Deletion) :
    (system.step sessions ⟨now, deletion.move⟩).engine = (deletion.perform system.engine).2 := by
  cases deletion <;> rfl

/-- A run that is not stored has no files. -/
theorem Housed.node?_eq_none (housed : system.Housed) {runId : String}
    (gone : runId ∉ system.engine.store.tables.runs.map Run.id) {location : Path.Location}
    (below : isBelow (system.engine.artifacts.runDirectory runId) location = true) :
    system.engine.artifacts.disk.node? location = none := by
  obtain ⟨rest, rfl⟩ := Path.isBelow_iff.1 below
  by_contra present
  exact gone (housed.tidy.housed runId rest (Option.isSome_iff_ne_none.2 present)).1

/-- After a deletion that is carried out there is no row with the key that it names. -/
theorem Housed.key_ne_of_deleted (housed : system.Housed)
    (done : (deletion.perform system.engine).1 = .ok ()) :
    ∀ row ∈ (deletion.perform system.engine).2.store.tables.rows, row.key ≠ deletion.key := by
  intro row among same
  obtain ⟨fault, failed⟩ | ⟨top, present, named, -, loses⟩ := housed.perform_cases deletion
  · rw [failed] at done
    cases done
  · obtain ⟨old, independent⟩ := (loses.mem_iff row).1 among
    obtain rfl := housed.consistent.store.tables.keyed.eq_of_key_eq present old
      (same.trans (Deletion.names_iff_key.1 named).symm)
    exact independent .self

/-- What belonged to a deleted row at any time of a history is gone, whatever comes later. -/
theorem Housed.lacks (housed : system.Housed) {late : List Turn}
    (done : (deletion.perform (system.after sessions late).engine).1 = .ok ()) {top row : Row}
    (topPresent : top ∈ system.engine.store.tables.rows) (named : deletion.Names top)
    (present : row ∈ system.engine.store.tables.rows)
    (depends : system.engine.store.tables.DependsOn top row) (now : Int) (future : List Turn) :
    (((system.after sessions late).step sessions ⟨now, deletion.move⟩).after sessions
      future).engine.Lacks row := by
  have before := housed.after sessions late
  have carried := before.housed.step sessions ⟨now, deletion.move⟩
  have last := carried.housed.after sessions future
  have sound := last.housed.consistent.store.tables
  have gone := before.housed.key_ne_of_deleted done
  rw [← step_deletion _ now, ← Deletion.names_iff_key.1 named] at gone
  have keys := Store.Stems.key_ne_of_gone (before.stems.trans carried.stems) last.stems
    housed.consistent.store sound topPresent gone present depends
  refine ⟨keys, Store.Stems.not_refersTo_of_gone sound keys, ?_⟩
  rintro run rfl location below
  refine last.housed.node?_eq_none (fun known => ?_) below
  obtain ⟨other, among, same⟩ := List.mem_map.1 known
  exact keys (.run other) (Tables.run_mem_rows.2 among) (congrArg (Prod.mk Table.runs) same)

/-- Every deletion is guarded, and what it deletes stays deleted. -/
theorem deletes {store : Store} (sound : store.Sound) {artifacts : Artifacts}
    (tidy : artifacts.Tidy (store.tables.runs.map Run.id)) (options : RunOptions)
    (past : List Turn) (deletion : Deletion) :
    Deletes sessions (opened store artifacts options) past deletion := by
  have start : (opened store artifacts options).Housed := ⟨.opened sound artifacts options, tidy⟩
  have before := (start.after sessions past).housed
  refine ⟨Deletion.guarded before.consistent.reliable before.consistent.store.tables before.tidy,
    fun now => ?_, ?_, fun history => (start.after sessions history).root⟩
  · rw [after_append]
    exact step_deletion _ now deletion
  · rintro done early late rfl top row topPresent named present depends now future
    rw [after_append] at done ⊢
    rw [after_append]
    exact (start.after sessions early).housed.lacks done topPresent named present depends now
      future

end Histories

section Sample

/-- A directory for the screenshots of runs. -/
def sampleHouse : Artifacts where
  root := ["srv"]
  disk := ⟨[(["srv"], .directory), (["srv", "runs"], .directory), (["srv", "tmp"], .directory)]⟩

/-- A prompt browser that takes a screenshot after every action. -/
def sampleSession : Session := { Session.prompt with photograph := fun _ => some ⟨0, .ok [1]⟩ }

/-- Runs a test case of one step to its end and stores the screenshot of the step. -/
def sampleShot : List Turn := sampleStart ++ List.replicate 8 ⟨3, .proceed 0⟩

theorem render_sampleHouse (runId : String) :
    Path.render (sampleHouse.runDirectory runId) = "/srv/runs/" ++ runId := by
  simp only [Path.render, Artifacts.runDirectory, sampleHouse, List.singleton_append,
    String.intercalate_cons_cons, String.intercalate_singleton, ← String.append_assoc]
  rfl

theorem tidy_sampleHouse : sampleHouse.Tidy [] where
  canonical := by
    have top : sampleHouse.disk.Canonical ([] ++ ["srv"]) :=
      .child .root (by decide) (Artifacts.plain_of_isKey (by decide)) (by decide) rfl nofun
    exact .child top (by decide) (Artifacts.plain_of_isKey (by decide)) (by decide) rfl nofun
  directory := by decide
  legible := by
    intro runId key short
    have clean := Artifacts.nulFree_of_isKey key
    rw [render_sampleHouse, String.contains_char_eq, String.utf8ByteSize_append]
    refine ⟨decide_eq_false ?_, ?_⟩
    · rw [String.toList_append, List.mem_append]
      exact not_or.2 ⟨by decide, clean⟩
    · have head : "/srv/runs/".utf8ByteSize = 10 := by decide
      simp only [Disk.nameLimit, Disk.pathLimit] at short ⊢
      omega
  housed := by
    intro runId rest present
    obtain ⟨node, found⟩ := Option.isSome_iff_exists.1 present
    have stored := Disk.mem_entries_of_node? (by simp [Artifacts.runDirectory]) found
    simp [sampleHouse, Artifacts.runDirectory] at stored

/-- The project with the run is deleted. -/
theorem deletes_sampleShot :
    ((Deletion.project (Store.idOf 0)).perform ((opened {} sampleHouse sampleOptions).after
        (fun _ => sampleSession) sampleShot).engine).1.toBool = true ∧
      Store.Sound {} ∧ sampleHouse.Tidy [] ∧
      Deletes (fun _ => sampleSession) (opened {} sampleHouse sampleOptions) sampleShot
        (.project (Store.idOf 0)) :=
  ⟨by decide +kernel, .empty, tidy_sampleHouse,
    deletes .empty tidy_sampleHouse sampleOptions sampleShot (.project (Store.idOf 0))⟩

end Sample

end System

end StepRunner
