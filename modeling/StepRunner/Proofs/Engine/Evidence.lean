import StepRunner.Engine.Report
import StepRunner.Proofs.Engine.Filing

/-!
This file shows that the screenshots of steps are evidence.
The result of a step that is over has the path of a screenshot exactly if the browser took one in
time. As long as the run is there, this path leads to what the browser took, and no other result
has it.
-/

namespace StepRunner

open StepRunner.Artifacts (PictureName)
open StepRunner.Tables (Row)

/-- The steps have ids that name pictures, and each result has the file of its own screenshot. -/
structure Archive (tables : Tables) (artifacts : Artifacts) : Prop where
  ready : artifacts.Ready
  named : ∀ step ∈ tables.steps, PictureName step.id
  filed : ∀ result ∈ tables.results, ∃ picture?, result.Filed artifacts picture?
  distinct : (tables.results.map StepResult.owners).Nodup

/-- The ids of the steps of a test case name pictures, each its own. -/
theorem Archive.legible {tables : Tables} {artifacts : Artifacts}
    (archive : Archive tables artifacts) (keyed : tables.Keyed) (testCaseId : String) :
    RunTask.Legible (tables.listSteps testCaseId) where
  named step listed :=
    archive.named step (List.mem_filter.1 (List.mem_mergeSort.1 listed)).1
  distinct :=
    ((List.mergeSort_perm _ _).map Step.id).nodup_iff.2 (Rows.nodup_filter keyed.steps _)

namespace RunTask

variable {session : Session} {task old : RunTask} {tables : Tables} {artifacts : Artifacts}

/-- The results of a run have the screenshots that its browser took. -/
structure Attested (task : RunTask) (session : Session) (tables : Tables)
    (artifacts : Artifacts) : Prop where
  legible : Legible task.steps
  shots : ∀ result failure picture rest, task.stage = .storing result failure picture rest →
    task.shot? session result.order = some picture
  filed : ∀ result ∈ tables.results, result.runId = task.run.id → result.status ≠ .pending →
    result.Filed artifacts (task.evidence? session result.order)

/-- What is kept of a step is what the browser took in time, if it took anything. -/
theorem evidence?_eq_some_iff {order : Nat} {picture : Bytes} :
    task.evidence? session order = some picture ↔ picture ≠ [] ∧
      Reply.within? (some task.options.stepTimeout) (session.photograph order) =
        some (.ok picture) := by
  rw [evidence?, shot?, Option.filter_eq_some_iff, Option.bind_eq_some_iff]
  constructor
  · rintro ⟨⟨outcome, answered, taken⟩, filled⟩
    cases outcome with
    | error fault => cases taken
    | ok content =>
      cases taken
      exact ⟨by simpa using filled, answered⟩
  · rintro ⟨filled, answered⟩
    exact ⟨⟨_, answered, rfl⟩, by simpa using filled⟩

/-- A later task has gone on, and its browser took the screenshot that it has yet to store. -/
structure Precedes (old : RunTask) (session : Session) (task : RunTask) : Prop where
  run : task.run = old.run
  steps : task.steps = old.steps
  options : task.options = old.options
  shots : ∀ result failure picture rest, task.stage = .storing result failure picture rest →
    old.stage = .storing result failure picture rest ∨
      old.shot? session result.order = some picture

theorem Precedes.refl (session : Session) (task : RunTask) : task.Precedes session task :=
  ⟨rfl, rfl, rfl, fun _ _ _ _ stage => .inl stage⟩

/-- A task that turns to another stage has no screenshot to store. -/
theorem Precedes.of_stage (run : task.run = old.run) (steps : task.steps = old.steps)
    (options : task.options = old.options)
    (bare : ∀ result failure picture rest, task.stage ≠ .storing result failure picture rest) :
    old.Precedes session task :=
  ⟨run, steps, options, fun _ _ _ _ stage => absurd stage (bare _ _ _ _)⟩

theorem Precedes.shot?_eq (precedes : old.Precedes session task) (other : Session) (order : Nat) :
    task.shot? other order = old.shot? other order := by
  rw [shot?, precedes.options, shot?]

theorem Precedes.evidence?_eq (precedes : old.Precedes session task) (other : Session)
    (order : Nat) : task.evidence? other order = old.evidence? other order := by
  rw [evidence?, precedes.shot?_eq, evidence?]

end RunTask

namespace Engine

variable {engine after : Engine} {sessions : Nat → Session} {number : Nat} {task : RunTask}

/-- Each task after a change of one task continues a task before. -/
theorem precedes_updateTask {change : RunTask → RunTask} (found : engine.task? number = some task)
    (changed : task.Precedes (sessions number) (change task)) {other : Nat} {later : RunTask}
    (present : (engine.updateTask number change).task? other = some later) :
    ∃ old, engine.task? other = some old ∧ old.Precedes (sessions other) later := by
  rw [task?_updateTask] at present
  split at present
  · next same =>
    subst same
    rw [found] at present
    cases present
    exact ⟨task, found, changed⟩
  · exact ⟨later, present, .refl _ later⟩

/-- The tasks after a turn of the run in progress continue those before. -/
theorem Goes.precedes {now : Int} (goes : engine.Goes (sessions number) number task now after)
    (found : engine.task? number = some task) {other : Nat} {later : RunTask}
    (present : after.task? other = some later) :
    ∃ old, engine.task? other = some old ∧ old.Precedes (sessions other) later := by
  cases goes with
  | turned taken =>
    refine precedes_updateTask found ⟨rfl, rfl, rfl, ?_⟩ present
    rintro result failure picture rest rfl
    exact .inr (taken result failure picture rest rfl)
  | @begun step rest stage =>
    refine precedes_updateTask found (.of_stage rfl rfl rfl ?_) present
    intro result failure picture left
    simp only [begunStage]
    split <;> rintro ⟨⟩
  | @decided result failure rest store pending results =>
    refine precedes_updateTask found (.of_stage rfl rfl rfl ?_) present
    intro result failure picture left stores
    simp only [afterStep] at stores
    rcases stageAfter_cases task.options _ rest with goes | stops
    · rw [goes] at stores
      cases stores
    · rw [stops] at stores
      cases stores
  | ended fatal failed =>
    refine precedes_updateTask found (.of_stage rfl rfl rfl ?_) present
    rintro _ _ _ _ ⟨⟩

/-- A path leads to a picture, and the report of the run gives both for the step of a result. -/
structure Shows (engine : Engine) (result : StepResult) (path : String) (picture : Bytes) :
    Prop where
  read : engine.artifacts.read path .full = (.ok picture, engine.artifacts)
  reported : ∃ report, engine.report result.runId = .ok report ∧ ∃ entry ∈ report.steps,
    entry.stepId = result.stepId ∧ entry.screenshotPath = some path ∧
      entry.fingerprint = some (Sha256.hex picture) ∧
      ∀ other ∈ report.steps, other.stepId = result.stepId → other = entry

/-- There is a report of every stored run. -/
theorem report_eq (sound : engine.store.tables.Sound) {run : Run}
    (stored : run ∈ engine.store.tables.runs) :
    ∃ report, engine.report run.id = .ok report ∧
      report.steps = (engine.store.tables.listResults run.id).map
        (engine.reportStep (engine.store.tables.listSteps run.testCaseId)) := by
  obtain ⟨testCase, among, same⟩ := sound.linked.runs run stored
  have found : engine.run run.id = .ok run := by
    simp only [Engine.run, sound.keyed.run?_eq_some_iff.2 ⟨stored, rfl⟩]
  have owner : engine.testCase run.testCaseId = .ok testCase := by
    simp only [Engine.testCase, sound.keyed.testCase?_eq_some_iff.2 ⟨among, same⟩]
  refine ⟨⟨run, testCase, _⟩, ?_, rfl⟩
  rw [← same] at owner ⊢
  simp only [Engine.report, found, bind, Except.bind, ← same, owner]
  rfl

end Engine

namespace System

variable {system later : System} {sessions : Nat → Session} {turn : Turn}

/-- Each task after a turn continues a task before, or it is that of a start that waited. -/
theorem Transition.precedes (transition : Transition sessions system turn later)
    (other : ∀ number, turn.move ≠ .proceed number) {number : Nat} {task : RunTask}
    (present : later.engine.task? number = some task) :
    (∃ old, system.engine.task? number = some old ∧ old.Precedes (sessions number) task) ∨
      ∃ call ∈ system.waiting, task = system.engine.startedTask call turn.now := by
  have kept (found : system.engine.task? number = some task) :
      (∃ old, system.engine.task? number = some old ∧ old.Precedes (sessions number) task) ∨
        ∃ call ∈ system.waiting, task = system.engine.startedTask call turn.now :=
    .inl ⟨task, found, .refl _ task⟩
  cases transition with
  | aside unmoved beside =>
    obtain ⟨store, installs, artifacts, -, rfl⟩ := beside
    exact kept present
  | claimed idle call ticket testCaseId owned numbered => exact kept present
  | dropped call starting settles => exact kept present
  | started call starting settles =>
    simp only [Engine.started, Engine.emit, Engine.task?, List.getElem?_append] at present
    split at present
    · exact kept present
    · obtain rfl := List.mem_singleton.1 (List.mem_of_getElem? present)
      exact .inr ⟨call, by simp [starting.waiting], rfl⟩
  | stopped running asked => exact kept present
  | passed running own passes => exact absurd own (other _)
  | begun running own stage goes => exact absurd own (other _)
  | decided running own decides made artifacts store sound minted testCases runs results =>
    exact absurd own (other _)
  | ended running own ends => exact absurd own (other _)
  | brokeDown running fault =>
    refine .inl (Engine.precedes_updateTask running.found (.of_stage rfl rfl rfl ?_) present)
    rintro _ _ _ _ ⟨⟩

/-- The screenshots of the system are evidence of what the browsers of its tasks showed. -/
structure Attested (sessions : Nat → Session) (system : System) : Prop where
  housed : system.Housed
  archive : Archive system.engine.store.tables system.engine.artifacts
  waiting : ∀ call ∈ system.waiting, RunTask.Legible call.steps
  tasks : ∀ number task, system.engine.task? number = some task →
    task.Attested (sessions number) system.engine.store.tables system.engine.artifacts

section Names

/-- There is room in the names of files for all ids that were handed out. -/
def Roomy (system : System) : Prop := system.engine.store.minted ≤ 16 ^ 227

/-- The ids of new steps name pictures, too. -/
theorem Leads.named (leads : system.Leads later) (room : later.Roomy)
    (named : ∀ step ∈ system.engine.store.tables.steps, PictureName step.id) :
    ∀ step ∈ later.engine.store.tables.steps, PictureName step.id := by
  intro step present
  have among := Tables.step_mem_rows.2 present
  rcases leads.stems.marks _ (List.mem_map_of_mem among) with known | ⟨number, -, made⟩
  · obtain ⟨row, old, same⟩ := List.mem_map.1 known
    have key := (Row.mark_eq_iff.1 same).1
    cases row <;> simp only [Row.key, Prod.mk.injEq, reduceCtorEq, false_and, true_and] at key
    exact key ▸ named _ (Tables.step_mem_rows.1 old)
  · have early : number < later.engine.store.minted := by
      by_contra beyond
      refine leads.housed.consistent.store.fresh number (not_lt.1 beyond) ?_
      rw [← made, Tables.ids_eq]
      exact List.mem_map_of_mem among
    have same : step.id = Store.idOf number := made
    exact same ▸ Artifacts.pictureName_idOf (lt_of_lt_of_le early room)

theorem Running.pictureName {number : Nat} {task : RunTask} {finished : List StepResult}
    (running : system.Running number task finished) (consistent : system.Consistent)
    (room : system.Roomy) : PictureName task.run.id := by
  obtain ⟨minted, early, same⟩ := consistent.minted _ running.mem_runIds
  exact same ▸ Artifacts.pictureName_idOf (lt_of_lt_of_le early room)

end Names

section Turns

/-- The run in progress goes on in the turn of its task; a turn of another task changes nothing. -/
theorem Attested.proceed_cases (attested : system.Attested sessions) (number : Nat) (now : Int) :
    system.step sessions ⟨now, .proceed number⟩ = system ∨
      ∃ task finished, system.Running number task finished ∧
        system.engine.Goes (sessions number) number task now
          (system.step sessions ⟨now, .proceed number⟩).engine := by
  have consistent := attested.housed.consistent
  cases found : system.engine.task? number with
  | none =>
    left
    simp only [System.step, change, Engine.proceed, found]
  | some task =>
    cases busy : task.isOver with
    | false =>
      obtain ⟨finished, running⟩ := consistent.running_of_busy found busy
      exact .inr ⟨task, finished, running,
        running.goes consistent _ (attested.tasks number task found).shots now⟩
    | true =>
      left
      simp only [System.step, change, Engine.proceed, found]
      cases stage : task.stage with
      | ended run => rfl
      | panicked => rfl
      | _ => simp [RunTask.isOver, stage] at busy

theorem Attested.filing (attested : system.Attested sessions) (room : system.Roomy)
    (turn : Turn) : Engine.Filing sessions system.engine (system.step sessions turn).engine := by
  have archive := attested.archive
  by_cases own : ∃ number, turn.move = .proceed number
  · obtain ⟨now, move⟩ := turn
    obtain ⟨number, rfl⟩ := own
    rcases attested.proceed_cases number now with same | ⟨task, finished, running, goes⟩
    · rw [same]
      exact Engine.Keeps.filing (.of_same rfl rfl) archive.distinct archive.ready
    · exact running.filing attested.housed archive.ready archive.distinct
        (running.pictureName attested.housed.consistent room)
        (attested.tasks number task running.found).legible goes
  · have keeps := attested.housed.keeps_step sessions (not_exists.1 own)
    exact keeps.filing archive.distinct archive.ready

theorem Attested.precedes (attested : system.Attested sessions) (turn : Turn) {number : Nat}
    {task : RunTask} (present : (system.step sessions turn).engine.task? number = some task) :
    (∃ old, system.engine.task? number = some old ∧ old.Precedes (sessions number) task) ∨
      ∃ call ∈ system.waiting, task = system.engine.startedTask call turn.now := by
  by_cases own : ∃ number, turn.move = .proceed number
  · obtain ⟨now, move⟩ := turn
    obtain ⟨holder, rfl⟩ := own
    rcases attested.proceed_cases holder now with same | ⟨task, finished, running, goes⟩
    · rw [same] at present
      exact .inl ⟨task, present, .refl _ task⟩
    · exact .inl (goes.precedes running.found present)
  · exact (attested.housed.consistent.transition sessions turn).precedes (not_exists.1 own) present

/-- The steps that a start has read have ids that name pictures. -/
theorem Attested.waiting_step (attested : system.Attested sessions) (turn : Turn) :
    ∀ call ∈ (system.step sessions turn).waiting, RunTask.Legible call.steps := by
  have left (index : Nat) : ∀ call ∈ system.waiting.eraseIdx index, RunTask.Legible call.steps :=
    fun call waits => attested.waiting call (List.mem_of_mem_eraseIdx waits)
  obtain ⟨now, move⟩ := turn
  cases move with
  | begin testCaseId browser options =>
    simp only [System.step]
    split
    · next call engine prepared =>
      obtain ⟨-, -, steps, -⟩ := Engine.prepare_eq prepared
      intro other waits
      rcases List.mem_append.1 waits with old | added
      · exact attested.waiting other old
      · rw [List.mem_singleton.1 added, steps]
        exact attested.archive.legible attested.housed.consistent.store.tables.keyed testCaseId
    · exact attested.waiting
  | conclude index installed =>
    simp only [System.step]
    split
    · exact left index
    · exact attested.waiting
  | abandon index =>
    simp only [System.step]
    split
    · exact left index
    · exact attested.waiting
  | _ => exact attested.waiting

/-- What becomes of the archive in a turn. -/
theorem Attested.archive_step (attested : system.Attested sessions) {turn : Turn}
    (filing : Engine.Filing sessions system.engine (system.step sessions turn).engine)
    (room : (system.step sessions turn).Roomy) :
    Archive (system.step sessions turn).engine.store.tables
      (system.step sessions turn).engine.artifacts where
  ready := filing.ready
  named := (attested.housed.step sessions turn).named room attested.archive.named
  filed := by
    intro result present
    cases filing.fate result present with
    | carried old kept =>
      obtain ⟨picture?, filed⟩ := attested.archive.filed result old
      exact ⟨picture?, kept picture? filed⟩
    | begun pending bare => exact ⟨none, .none bare⟩
    | decided found own filed => exact ⟨_, filed⟩
  distinct := filing.distinct

/-- Two tasks with one run are one task. -/
theorem Consistent.number_unique (consistent : system.Consistent) {first second : Nat}
    {task other : RunTask} (found : system.engine.task? first = some task)
    (again : system.engine.task? second = some other) (same : task.run.id = other.run.id) :
    first = second := by
  have listed {number : Nat} {task : RunTask} (found : system.engine.task? number = some task) :
      system.engine.runIds[number]? = some task.run.id := by
    rw [Engine.runIds, List.getElem?_map, List.getElem?_map,
      show system.engine.tasks[number]? = some task from found]
    rfl
  have here := listed found
  have there := listed again
  rw [← same, ← here] at there
  exact (List.getElem?_inj (List.getElem?_eq_some_iff.1 here).1 consistent.distinct).1 there.symm

/-- A run that has a result has not just started. -/
theorem Attested.minted_ne (attested : system.Attested sessions) {after : Engine}
    {result : StepResult} (fate : Engine.Fate sessions system.engine after result)
    (decided : result.status ≠ .pending) :
    result.runId ≠ Store.idOf system.engine.store.minted := by
  have consistent := attested.housed.consistent
  intro same
  cases fate with
  | carried old kept =>
    obtain ⟨run, among, named⟩ := consistent.store.tables.linked.results result old
    exact Engine.minted_notMem_runs consistent.store
      (List.mem_map.2 ⟨run, among, named.trans same⟩)
  | begun pending bare => exact decided pending
  | @decided number task found own filed =>
    refine consistent.minted_notMem_runIds ?_
    rw [← same, own]
    exact List.mem_map_of_mem (List.mem_map_of_mem (List.mem_of_getElem? found))

/-- A turn files a screenshot as evidence of its step, and it leaves all others alone. -/
theorem Attested.step (attested : system.Attested sessions) (turn : Turn)
    (room : (system.step sessions turn).Roomy) :
    (system.step sessions turn).Attested sessions := by
  have leads := attested.housed.step sessions turn
  have filing := attested.filing (le_trans leads.stems.minted room) turn
  refine ⟨leads.housed, attested.archive_step filing room, attested.waiting_step turn,
    fun number task present => ?_⟩
  rcases attested.precedes turn present with ⟨old, found, precedes⟩ | ⟨call, waits, rfl⟩
  · have before := attested.tasks number old found
    refine ⟨precedes.steps ▸ before.legible, fun result failure picture rest stage => ?_,
      fun result listed own decided => ?_⟩
    · rw [precedes.shot?_eq]
      rcases precedes.shots result failure picture rest stage with earlier | taken
      · exact before.shots result failure picture rest earlier
      · exact taken
    · rw [precedes.evidence?_eq]
      rw [precedes.run] at own
      cases filing.fate result listed with
      | carried early kept => exact kept _ (before.filed result early own decided)
      | begun pending bare => exact absurd pending decided
      | @decided other holder holds owns filed =>
        obtain rfl := attested.housed.consistent.number_unique holds found (owns.symm.trans own)
        obtain rfl := Option.some.inj (holds.symm.trans found)
        exact filed
  · refine ⟨attested.waiting call waits, nofun, fun result listed own decided => ?_⟩
    exact absurd own (attested.minted_ne (filing.fate result listed) decided)

/-- Screenshots stay evidence in every history for whose ids there is room. -/
theorem Attested.after (attested : system.Attested sessions) {history : List Turn}
    (room : (system.after sessions history).Roomy) :
    (system.after sessions history).Attested sessions := by
  induction history generalizing system with
  | nil => exact attested
  | cons turn history inductionHypothesis =>
    have next := (attested.housed.step sessions turn).housed
    have later := next.after sessions history
    exact inductionHypothesis (attested.step turn (le_trans later.stems.minted room)) room

end Turns

section Reports

theorem Attested.shows (attested : system.Attested sessions) {result : StepResult}
    (present : result ∈ system.engine.store.tables.results) {picture : Bytes}
    (filed : result.Filed system.engine.artifacts (some picture)) :
    system.engine.Shows result (Path.render (system.engine.artifacts.pictureOf result))
      picture := by
  have sound := attested.housed.consistent.store.tables
  have ready := attested.archive.ready
  have file := filed.file picture rfl
  obtain ⟨run, step⟩ := filed.named picture rfl
  have placeable := ready.placeable run step
  have digest := placeable.digest_picture attested.housed.tidy file
  refine ⟨placeable.read_picture attested.housed.tidy file, ?_⟩
  obtain ⟨owner, stored, same⟩ := sound.linked.results result present
  obtain ⟨report, made, steps⟩ := Engine.report_eq sound stored
  rw [same] at made steps
  have listed (other : StepResult) :
      other ∈ system.engine.store.tables.listResults result.runId ↔
        other ∈ system.engine.store.tables.results ∧ other.runId = result.runId := by
    simp [Tables.listResults]
  refine ⟨report, made, _, steps ▸ List.mem_map_of_mem ((listed result).2 ⟨present, rfl⟩), rfl,
    filed.path, ?_, fun entry among named => ?_⟩
  · simp only [Engine.reportStep, filed.path, Option.map_some, Option.bind_some,
      Artifacts.pictureOf, digest]
    rfl
  · rw [steps] at among
    obtain ⟨other, shown, rfl⟩ := List.mem_map.1 among
    obtain ⟨old, own⟩ := (listed other).1 shown
    have equal := Rows.eq_of_key_eq attested.archive.distinct old present (Prod.ext own named)
    rw [equal]

/-- No two results have one screenshot. -/
theorem Attested.eq_of_path_eq (attested : system.Attested sessions) {first second : StepResult}
    (firstIn : first ∈ system.engine.store.tables.results)
    (secondIn : second ∈ system.engine.store.tables.results) {path : String}
    (one : first.screenshotPath = some path) (two : second.screenshotPath = some path) :
    first = second := by
  have placed {result : StepResult} (present : result ∈ system.engine.store.tables.results)
      (named : result.screenshotPath = some path) :
      path = Path.render (system.engine.artifacts.pictureOf result) ∧
        system.engine.artifacts.disk.Canonical (system.engine.artifacts.pictureOf result) := by
    obtain ⟨picture?, filed⟩ := attested.archive.filed result present
    have shown := filed.path.symm.trans named
    rw [Option.map_eq_some_iff] at shown
    obtain ⟨picture, taken, rfl⟩ := shown
    have step := (filed.named picture taken).2
    exact ⟨rfl, attested.housed.tidy.canonical_picture step.key step.short
      (filed.file picture taken)⟩
  obtain ⟨here, canonical⟩ := placed firstIn one
  obtain ⟨there, again⟩ := placed secondIn two
  obtain ⟨sameRun, sameStep⟩ :=
    Artifacts.render_location_inj canonical again (here.symm.trans there)
  exact Rows.eq_of_key_eq attested.archive.distinct firstIn secondIn (Prod.ext sameRun sameStep)

end Reports

section Histories

variable {middle : System}

/-- A run that is stored early and late is stored in between. -/
theorem Housed.stored_between (housed : system.Housed) (first : system.Leads middle)
    (second : middle.Leads later) {runId : String}
    (early : runId ∈ system.engine.store.tables.runs.map Run.id)
    (late : runId ∈ later.engine.store.tables.runs.map Run.id) :
    runId ∈ middle.engine.store.tables.runs.map Run.id := by
  obtain ⟨old, present, rfl⟩ := List.mem_map.1 early
  obtain ⟨run, among, same⟩ := List.mem_map.1 late
  have listed := Tables.run_mem_rows.2 among
  rcases second.stems.marks _ (List.mem_map_of_mem listed) with known | ⟨number, new, made⟩
  · obtain ⟨row, stays, marked⟩ := List.mem_map.1 known
    have key := (Row.mark_eq_iff.1 marked).1
    cases row <;> simp only [Row.key, Prod.mk.injEq, reduceCtorEq, false_and, true_and] at key
    exact List.mem_map.2 ⟨_, Tables.run_mem_rows.1 stays, key.trans same⟩
  · have fresh := Store.Stems.not_fresh housed.consistent.store (Tables.run_mem_rows.2 present)
      (first.stems.minted.trans new)
    exact absurd (same.symm.trans made) fresh

/-- The result of a step that is over stays with its screenshot as long as its run stays. -/
theorem Attested.lasting (attested : system.Attested sessions) {history : List Turn}
    (room : (system.after sessions history).Roomy) {result : StepResult}
    (present : result ∈ system.engine.store.tables.results) (decided : result.status ≠ .pending)
    (stored : result.runId ∈ (system.after sessions history).engine.store.tables.runs.map Run.id)
    {picture? : Option Bytes} (filed : result.Filed system.engine.artifacts picture?) :
    result ∈ (system.after sessions history).engine.store.tables.results ∧
      result.Filed (system.after sessions history).engine.artifacts picture? := by
  induction history generalizing system with
  | nil => exact ⟨present, filed⟩
  | cons turn history inductionHypothesis =>
    have next := attested.housed.step sessions turn
    have later := next.housed.after sessions history
    have roomy : (system.step sessions turn).Roomy := le_trans later.stems.minted room
    have filing := attested.filing (le_trans next.stems.minted roomy) turn
    obtain ⟨run, among, same⟩ :=
      attested.housed.consistent.store.tables.linked.results result present
    have between := attested.housed.stored_between next later
      (List.mem_map.2 ⟨run, among, same⟩) stored
    obtain ⟨stays, kept⟩ := filing.lasting result present decided between
    exact inductionHypothesis (attested.step turn roomy) room stays stored (kept _ filed)

/--
The result of a step that is over has the path of a screenshot exactly if the browser gave one in
time. Whatever comes later, the path leads to that screenshot as long as the run is there.
-/
structure Evident (sessions : Nat → Session) (start : System) (past future : List Turn) :
    Prop where
  pictured : ∀ number task,
    (start.after sessions past).engine.task? number = some task →
    ∀ result ∈ (start.after sessions past).engine.store.tables.resultsOf task.run.id,
      result.status ≠ .pending →
        (result.screenshotPath.isSome = true ↔ ∃ picture ≠ [],
          Reply.within? (some task.options.stepTimeout)
            ((sessions number).photograph result.order) = some (.ok picture))
  shown : ∀ number task,
    (start.after sessions past).engine.task? number = some task →
    ∀ result ∈ (start.after sessions past).engine.store.tables.resultsOf task.run.id,
      result.status ≠ .pending → ∀ path, result.screenshotPath = some path →
        task.run.id ∈
          (start.after sessions (past ++ future)).engine.store.tables.runs.map Run.id →
        ∃ picture, Reply.within? (some task.options.stepTimeout)
            ((sessions number).photograph result.order) = some (.ok picture) ∧
          (start.after sessions (past ++ future)).engine.Shows result path picture
  apart : ∀ first ∈ (start.after sessions past).engine.store.tables.results,
    ∀ second ∈ (start.after sessions past).engine.store.tables.results, ∀ path,
      first.screenshotPath = some path → second.screenshotPath = some path → first = second

theorem Attested.opened {store : Store} (sound : store.Sound) {artifacts : Artifacts}
    (tidy : artifacts.Tidy (store.tables.runs.map Run.id))
    (archive : Archive store.tables artifacts) (options : RunOptions) :
    (opened store artifacts options).Attested sessions where
  housed := ⟨.opened sound artifacts options, tidy⟩
  archive := archive
  waiting := by simp [System.opened]
  tasks := by simp [System.opened, Engine.task?]

/-- The screenshots of steps are evidence in every history of an engine on an archive. -/
theorem evident {store : Store} (sound : store.Sound) {artifacts : Artifacts}
    (tidy : artifacts.Tidy (store.tables.runs.map Run.id))
    (archive : Archive store.tables artifacts) (options : RunOptions) (past future : List Turn)
    (room : ((opened store artifacts options).after sessions (past ++ future)).Roomy) :
    Evident sessions (opened store artifacts options) past future := by
  have start : (opened store artifacts options).Attested sessions :=
    .opened sound tidy archive options
  rw [after_append] at room
  have leads := (start.housed.after sessions past).housed.after sessions future
  have early := start.after (le_trans leads.stems.minted room)
  have late := early.after room
  have filed {number : Nat} {task : RunTask}
      (found : ((opened store artifacts options).after sessions past).engine.task? number =
        some task) {result : StepResult}
      (listed : result ∈ ((opened store artifacts options).after sessions
        past).engine.store.tables.resultsOf task.run.id) (decided : result.status ≠ .pending) :
      result ∈ ((opened store artifacts options).after sessions past).engine.store.tables.results ∧
        result.runId = task.run.id ∧
        result.Filed ((opened store artifacts options).after sessions past).engine.artifacts
          (task.evidence? (sessions number) result.order) := by
    obtain ⟨present, own⟩ := List.mem_filter.1 listed
    have owns : result.runId = task.run.id := by simpa using own
    exact ⟨present, owns, (early.tasks number task found).filed result present owns decided⟩
  refine ⟨fun number task found result listed decided => ?_,
    fun number task found result listed decided path named stored => ?_,
    fun first firstIn second secondIn path one two => ?_⟩
  · obtain ⟨-, -, filed⟩ := filed found listed decided
    rw [filed.path, Option.isSome_map, Option.isSome_iff_exists]
    simp only [RunTask.evidence?_eq_some_iff]
  · obtain ⟨present, own, filed⟩ := filed found listed decided
    rw [after_append, ← own] at stored
    obtain ⟨stays, kept⟩ := early.lasting room present decided stored filed
    have named := kept.path.symm.trans named
    rw [Option.map_eq_some_iff] at named
    obtain ⟨picture, taken, rfl⟩ := named
    rw [taken] at kept
    rw [after_append]
    exact ⟨picture, (RunTask.evidence?_eq_some_iff.1 taken).2, late.shows stays kept⟩
  · exact early.eq_of_path_eq firstIn secondIn one two

end Histories

section Sample

/-- Asks for the thumbnail of the screenshot of the only step. -/
def sampleThumbnail : List Turn :=
  [⟨4, .read ("runs/" ++ Store.idOf 3 ++ "/" ++ Store.idOf 2 ++ ".png") .thumbnail⟩]

/-- Pictures can be written in the directory for the screenshots of runs. -/
theorem ready_sampleHouse : sampleHouse.Ready where
  staging := by
    have top : sampleHouse.disk.Canonical ([] ++ ["srv"]) :=
      .child .root (by decide) (Artifacts.plain_of_isKey (by decide)) (by decide) rfl nofun
    exact .child top (by decide) (Artifacts.plain_of_isKey (by decide)) (by decide) rfl nofun
  directory := by decide
  stageable := by
    rw [String.contains_char_eq]
    exact ⟨decide_eq_false (by decide), by decide⟩
  legible := by
    intro runId stepId run step
    have text : Path.render (sampleHouse.location runId stepId) =
        Path.render (sampleHouse.runDirectory runId) ++ "/" ++ (stepId ++ ".png") := by
      simp only [Path.render, Artifacts.location, Artifacts.runDirectory, sampleHouse,
        List.nil_append, List.cons_append, String.intercalate_cons_cons,
        String.intercalate_singleton, ← String.append_assoc]
    have runClean := Artifacts.nulFree_of_isKey run.key
    have stepClean := Artifacts.nulFree_of_isKey step.key
    have runShort := run.dirShort
    have stepShort := step.short
    rw [text, render_sampleHouse, String.contains_char_eq]
    refine ⟨decide_eq_false ?_, ?_⟩
    · simp only [String.toList_append, List.mem_append, not_or]
      exact ⟨⟨⟨by decide, runClean⟩, by decide⟩, stepClean, by decide⟩
    · have head : "/srv/runs/".utf8ByteSize = 10 := by decide
      have slash : "/".utf8ByteSize = 1 := by decide
      rw [String.utf8ByteSize_append, String.utf8ByteSize_append, String.utf8ByteSize_append]
      simp only [Disk.nameLimit, Disk.pathLimit] at runShort stepShort ⊢
      omega
  vacant := by
    intro runId stepId
    simp [Disk.isDirectory, Disk.node?, Artifacts.location, Artifacts.runDirectory, sampleHouse]

/-- The screenshot of a step is kept, and it is shown after somebody has asked for its thumbnail. -/
theorem evident_sampleShot :
    Store.Sound {} ∧ sampleHouse.Tidy [] ∧ Archive {} sampleHouse ∧
      ((opened {} sampleHouse sampleOptions).after (fun _ => sampleSession)
        (sampleShot ++ sampleThumbnail)).Roomy ∧
      Evident (fun _ => sampleSession) (opened {} sampleHouse sampleOptions) sampleShot
        sampleThumbnail ∧
      ∃ result ∈ ((opened {} sampleHouse sampleOptions).after (fun _ => sampleSession)
        sampleShot).engine.store.tables.results, result.screenshotPath.isSome = true := by
  have archive : Archive {} sampleHouse := ⟨ready_sampleHouse, by simp, by simp, .nil⟩
  have room : ((opened {} sampleHouse sampleOptions).after (fun _ => sampleSession)
      (sampleShot ++ sampleThumbnail)).Roomy := by
    unfold Roomy
    decide +kernel
  have shown := evident .empty tidy_sampleHouse archive sampleOptions sampleShot sampleThumbnail
    room
  have taken : ((((opened {} sampleHouse sampleOptions).after (fun _ => sampleSession)
      sampleShot).engine.task? 0).any fun task =>
        (((opened {} sampleHouse sampleOptions).after (fun _ => sampleSession)
          sampleShot).engine.store.tables.resultsOf task.run.id).any fun result =>
            decide (result.status ≠ .pending ∧
              task.evidence? sampleSession result.order = some [1])) = true := by
    decide +kernel
  refine ⟨.empty, tidy_sampleHouse, archive, room, shown, ?_⟩
  rw [Option.any_eq_true] at taken
  obtain ⟨task, found, among⟩ := taken
  obtain ⟨result, listed, kept⟩ := List.any_eq_true.1 among
  obtain ⟨decided, evidence⟩ := of_decide_eq_true kept
  exact ⟨result, (List.mem_filter.1 listed).1, (shown.pictured 0 task found result listed decided).2
    ⟨[1], RunTask.evidence?_eq_some_iff.1 evidence⟩⟩

end Sample

end System

end StepRunner
