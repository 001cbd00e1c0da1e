import StepRunner.Proofs.Artifacts.Pictures
import StepRunner.Proofs.Engine.Apart
import StepRunner.Proofs.Engine.Deletions

/-!
This file says what a turn does to the step results and to the files of their screenshots.
A result stays as it is together with its file, or it is that of the step that the run in progress
has come to.
-/

namespace StepRunner

open StepRunner.Artifacts (PictureName)
open StepRunner.Path (Location)
open StepRunner.Tables (Row)

namespace RunTask

/-- The screenshot that a browser takes of a step of a run in time. -/
def shot? (task : RunTask) (session : Session) (order : Nat) : Option Bytes :=
  (Reply.within? (some task.options.stepTimeout) (session.photograph order)).bind Except.toOption

/-- The screenshot of a step that is kept: it is taken in time, and it is not empty. -/
def evidence? (task : RunTask) (session : Session) (order : Nat) : Option Bytes :=
  (task.shot? session order).filter fun picture => !picture.isEmpty

/-- The steps of a task have ids that name pictures, each its own. -/
structure Legible (steps : List Step) : Prop where
  named : ∀ step ∈ steps, PictureName step.id
  distinct : (steps.map Step.id).Nodup

end RunTask

/-- Where the screenshot of a step result stands. -/
def Artifacts.pictureOf (artifacts : Artifacts) (result : StepResult) : Location :=
  artifacts.location result.runId result.stepId

namespace StepResult

/-- The ids of the run and the step that a result belongs to. -/
def owners (result : StepResult) : String × String := (result.runId, result.stepId)

/-- A result has the path of a screenshot, which is in its file; or it has none. -/
structure Filed (result : StepResult) (artifacts : Artifacts) (picture? : Option Bytes) : Prop where
  path : result.screenshotPath = picture?.map fun _ => Path.render (artifacts.pictureOf result)
  file : ∀ picture ∈ picture?,
    artifacts.disk.node? (artifacts.pictureOf result) = some (.file picture)
  named : ∀ picture ∈ picture?, PictureName result.runId ∧ PictureName result.stepId

variable {result : StepResult} {artifacts after : Artifacts} {picture? : Option Bytes}

theorem Filed.none (bare : result.screenshotPath = none) : result.Filed artifacts none :=
  ⟨bare, nofun, nofun⟩

/-- A result is filed as long as its file stays. -/
theorem Filed.of_same (filed : result.Filed artifacts picture?) (root : after.root = artifacts.root)
    (file : PictureName result.stepId → after.disk.node? (artifacts.pictureOf result) =
      artifacts.disk.node? (artifacts.pictureOf result)) : result.Filed after picture? := by
  have same : after.pictureOf result = artifacts.pictureOf result := by
    simp only [Artifacts.pictureOf, Artifacts.location, Artifacts.runDirectory, root]
  refine ⟨same ▸ filed.path, fun picture taken => ?_, filed.named⟩
  rw [same, file (filed.named picture taken).2]
  exact filed.file picture taken

end StepResult

/-- What becomes of the screenshots when that of a step result is filed, if there is one. -/
structure Artifacts.Takes (before : Artifacts) (result : StepResult) (picture? : Option Bytes)
    (kept : Option String × Artifacts) : Prop where
  own : ∀ outcome : StepResult, outcome.owners = result.owners → outcome.screenshotPath = kept.1 →
    outcome.Filed kept.2 picture?
  others : ∀ other : StepResult, other.owners ≠ result.owners → ∀ filed?,
    other.Filed before filed? → other.Filed kept.2 filed?
  ready : kept.2.Ready

namespace Artifacts.Takes

variable {before after : Artifacts} {result : StepResult}

theorem none (ready : before.Ready) : before.Takes result none (none, before) where
  own := fun _ _ path => .none path
  others := fun _ _ _ filed => filed
  ready := ready

theorem some {runId : String} {picture : Bytes}
    (files : before.Files runId result.stepId picture after) (own : result.runId = runId)
    (run : PictureName runId) (step : PictureName result.stepId) :
    before.Takes result (some picture)
      (some (Path.render (before.location runId result.stepId)), after) where
  own := by
    intro outcome same path
    obtain ⟨sameRun, sameStep⟩ := Prod.mk.inj same
    have here : after.pictureOf outcome = before.location runId result.stepId := by
      rw [← own]
      simp only [pictureOf, sameRun, sameStep, location, runDirectory, files.root]
    refine ⟨?_, ?_, ?_⟩
    · rw [path, here]
      rfl
    · rintro _ ⟨⟩
      rw [here]
      exact files.file
    · rintro _ ⟨⟩
      rw [sameRun, sameStep, own]
      exact ⟨run, step⟩
  others := by
    intro other different _ filed
    refine filed.of_same files.root fun _ => files.others _ _ fun same => different ?_
    obtain ⟨sameRun, sameStep⟩ := location_inj same
    exact Prod.ext (sameRun.trans own.symm) sameStep
  ready := files.ready

/-- The screenshots of the results that are not pending are left alone. -/
theorem spares {picture? filed? : Option Bytes} {kept : Option String × Artifacts}
    (takes : before.Takes result picture? kept) {results : List StepResult}
    (distinct : (results.map StepResult.owners).Nodup) (stored : result ∈ results)
    (undecided : result.status = .pending) {row : StepResult} (among : row ∈ results)
    (spared : ¬Store.isPending result.id row = true) (filed : row.Filed before filed?) :
    row.Filed kept.2 filed? := by
  refine takes.others row (fun equal => spared ?_) _ filed
  have same := Rows.eq_of_key_eq distinct among stored equal
  simp [same, Store.isPending, undecided]

end Artifacts.Takes

namespace Engine

/-- What becomes of a result in a turn, for those that are there after it. -/
inductive Fate (sessions : Nat → Session) (before after : Engine) (result : StepResult) :
    Prop where
  | carried (old : result ∈ before.store.tables.results)
      (kept : ∀ picture?, result.Filed before.artifacts picture? →
        result.Filed after.artifacts picture?)
  | begun (pending : result.status = .pending) (bare : result.screenshotPath = none)
  | decided {number : Nat} {task : RunTask} (found : before.task? number = some task)
      (own : result.runId = task.run.id)
      (filed : result.Filed after.artifacts (task.evidence? (sessions number) result.order))

/-- What a turn does to the results and their screenshots. -/
structure Filing (sessions : Nat → Session) (before after : Engine) : Prop where
  fate : ∀ result ∈ after.store.tables.results, Fate sessions before after result
  /-- The result of a step that is over stays with its screenshot as long as its run stays. -/
  lasting : ∀ result ∈ before.store.tables.results, result.status ≠ .pending →
    result.runId ∈ after.store.tables.runs.map Run.id →
      result ∈ after.store.tables.results ∧
        ∀ picture?, result.Filed before.artifacts picture? → result.Filed after.artifacts picture?
  distinct : (after.store.tables.results.map StepResult.owners).Nodup
  ready : after.artifacts.Ready

/-- Results may go with their run, and the screenshots of those that stay are left alone. -/
structure Keeps (before after : Engine) : Prop where
  root : after.artifacts.root = before.artifacts.root
  results : after.store.tables.results.Sublist before.store.tables.results
  left : ∀ result ∈ before.store.tables.results,
    result.runId ∈ after.store.tables.runs.map Run.id → result ∈ after.store.tables.results
  pictures : ∀ result ∈ after.store.tables.results, PictureName result.stepId →
    after.artifacts.disk.node? (before.artifacts.pictureOf result) =
      before.artifacts.disk.node? (before.artifacts.pictureOf result)
  ready : before.artifacts.Ready → after.artifacts.Ready

variable {engine before after : Engine} {sessions : Nat → Session}

namespace Keeps

theorem of_same (results : after.store.tables.results = before.store.tables.results)
    (artifacts : after.artifacts = before.artifacts) : before.Keeps after where
  root := by rw [artifacts]
  results := by rw [results]
  left := fun result present _ => results ▸ present
  pictures := fun _ _ _ => by rw [artifacts]
  ready := by rw [artifacts]; exact id

theorem filed (keeps : before.Keeps after) {result : StepResult}
    (present : result ∈ after.store.tables.results) {picture? : Option Bytes}
    (filed : result.Filed before.artifacts picture?) : result.Filed after.artifacts picture? :=
  filed.of_same keeps.root (keeps.pictures result present)

/-- A change that keeps the screenshots of the results files nothing. -/
theorem filing (keeps : before.Keeps after)
    (distinct : (before.store.tables.results.map StepResult.owners).Nodup)
    (ready : before.artifacts.Ready) : Filing sessions before after where
  fate := fun result present => .carried (keeps.results.subset present)
    fun _ filed => keeps.filed present filed
  lasting := by
    intro result present _ stored
    have stays := keeps.left result present stored
    exact ⟨stays, fun _ filed => keeps.filed stays filed⟩
  distinct := distinct.sublist (keeps.results.map _)
  ready := keeps.ready ready

/-- A write that changes no result keeps the screenshots. -/
theorem write {α : Type} (reliable : engine.refusals = [])
    {change : Store → Except StoreError (α × Store)}
    (results : ∀ value store, change engine.store = .ok (value, store) →
      store.tables.results = engine.store.tables.results) :
    engine.Keeps (engine.write change).2 := by
  cases outcome : change engine.store with
  | error error =>
    rw [write_of_refused reliable outcome]
    exact .of_same rfl rfl
  | ok changed =>
    rw [write_of_accepted reliable outcome]
    exact .of_same (results changed.1 changed.2 outcome) rfl

theorem createProject (reliable : engine.refusals = []) (now : Int) (name : String) :
    engine.Keeps (engine.createProject now name).2 := by
  refine write reliable fun project store created => ?_
  obtain ⟨-, -, rfl⟩ := Store.createProject_eq created
  rfl

theorem createTestCase (reliable : engine.refusals = []) (now : Int) (projectId title : String)
    (lines : List String) : engine.Keeps (engine.createTestCase now projectId title lines).2 := by
  unfold Engine.createTestCase
  split
  · exact .of_same rfl rfl
  · exact write reliable fun _ _ created => (Store.results_createTestCase created).1

theorem updateSteps (reliable : engine.refusals = []) (now : Int) (testCaseId : String)
    (lines : List String) : engine.Keeps (engine.updateSteps now testCaseId lines).2 := by
  unfold Engine.updateSteps
  split
  · exact .of_same rfl rfl
  · exact write reliable fun _ _ replaced => (Store.results_replaceSteps replaced).1

theorem read (engine : Engine) (path : String) (variant : Variant) :
    engine.Keeps { engine with artifacts := (engine.artifacts.read path variant).2 } where
  root := Artifacts.root_read engine.artifacts path variant
  results := List.Sublist.refl _
  left := fun _ present _ => present
  pictures := fun _ _ step => Artifacts.node?_read step.key path variant
  ready := fun ready => ready.read path variant

end Keeps

/-- The results among the rows of all tables. -/
theorem results_eq_filterMap (tables : Tables) :
    tables.results = tables.rows.filterMap fun row =>
      match row with
      | .result result => some result
      | _ => none := by
  simp [Tables.rows, List.filterMap_append, List.filterMap_map]

/-- The removal of a row with all that depends on it keeps the screenshots of the other rows. -/
theorem Loses.keeps {top : Row} (loses : before.Loses top after)
    (sound : before.store.tables.Sound) (upper : ∀ result, top ≠ .result result) :
    before.Keeps after := by
  obtain ⟨removed, purged, listed⟩ := loses.files
  refine ⟨purged.root, ?_, fun result present stored => ?_, fun result present _ => ?_,
    fun ready => ready.purged purged⟩
  · rw [results_eq_filterMap, results_eq_filterMap before.store.tables]
    exact loses.order.filterMap _
  · refine Tables.result_mem_rows.1
      ((loses.mem_iff _).2 ⟨Tables.result_mem_rows.2 present, fun depends => ?_⟩)
    -- A result that goes takes its run with it.
    cases depends with
    | self => exact upper result rfl
    | through refers found depends =>
      cases refers with
      | result same =>
        obtain ⟨run, left, named⟩ := List.mem_map.1 stored
        obtain ⟨among, independent⟩ := (loses.mem_iff (.run run)).1 (Tables.run_mem_rows.2 left)
        obtain rfl := Rows.eq_of_key_eq sound.keyed.runs (Tables.run_mem_rows.1 among)
          (Tables.run_mem_rows.1 found) (named.trans same.symm)
        exact independent depends
  · have independent := ((loses.mem_iff (.result result)).1 (Tables.result_mem_rows.2 present)).2
    have left : result.runId ∉ removed := by
      intro named
      obtain ⟨run, among, same, depends⟩ := (listed result.runId).1 named
      exact independent (.through (.result same) (Tables.run_mem_rows.2 among) depends)
    exact purged.node?_runDirectory left _

section Runs

variable {session : Session} {number : Nat} {task : RunTask} {now : Int}

/-- Files the screenshot of a step, if one was taken in time, and gives its path. -/
def filed (engine : Engine) (task : RunTask) (session : Session) (result : StepResult) :
    Option String × Artifacts :=
  match task.shot? session result.order with
  | none => (none, engine.artifacts)
  | some picture =>
    let (path, artifacts) := engine.artifacts.capture task.run.id result.stepId picture
    (path.toOption, artifacts)

/-- How the task of the run in progress goes on. -/
inductive Goes (engine : Engine) (session : Session) (number : Nat) (task : RunTask) (now : Int) :
    Engine → Prop where
  | turned {stage : Stage}
      (taken : ∀ result failure picture rest, stage = .storing result failure picture rest →
        task.shot? session result.order = some picture) :
      Goes engine session number task now (engine.setStage number stage)
  | begun {step : Step} {rest : List Step} (stage : task.stage = .ready (step :: rest)) :
      Goes engine session number task now (engine.begun number task step rest now)
  | decided {result : StepResult} {failure : Option String} {rest : List Step} {store : Store}
      (pending : task.pending? = some result)
      (results : store.tables.results = engine.store.tables.results.map fun row =>
        if Store.isPending result.id row then
          decidedResult (engine.registry.cancelRequested task.active) row failure
            (engine.filed task session result).1 now
        else row) :
      Goes engine session number task now
        ({ engine with artifacts := (engine.filed task session result).2 }.decided number task
          (decidedResult (engine.registry.cancelRequested task.active) result failure
            (engine.filed task session result).1 now) rest store)
  | ended (fatal : Option String) (failed : Bool) :
      Goes engine session number task now (engine.ended number task fatal failed now)

/-- The end of a step is written over its pending result. -/
theorem results_endStep (reliable : engine.refusals = []) (number : Nat) (task : RunTask)
    (result : StepResult) (failure path : Option String) (rest : List Step) (now : Int) :
    (engine.endStep number task result failure path rest now).store.tables.results =
      engine.store.tables.results.map fun row =>
        if Store.isPending result.id row then
          decidedResult (engine.registry.cancelRequested task.active) row failure path now
        else row := by
  let outcome :=
    decidedResult (engine.registry.cancelRequested task.active) result failure path now
  have finished : (engine.writeOnly (·.finishResult outcome)).2.store.tables.results =
      engine.store.tables.results.map fun row =>
        if Store.isPending result.id row then
          decidedResult (engine.registry.cancelRequested task.active) row failure path now
        else row := by
    rw [writeOnly, store_write engine reliable]
    cases accepted : engine.store.finishResult outcome with
    | ok after =>
      rw [Store.finishResult_eq accepted]
      rfl
    | error fault =>
      have missing : engine.store.tables.results.any (Store.isPending result.id) = false := by
        by_contra present
        rw [Bool.not_eq_false] at present
        simp only [Store.finishResult, show outcome.id = result.id from rfl, present, if_true]
          at accepted
        cases accepted
      rw [List.any_eq_false] at missing
      change engine.store.tables.results = _
      conv_lhs => rw [← List.map_id engine.store.tables.results]
      exact List.map_congr_left fun row present => (if_neg (missing row present)).symm
  simp only [endStep_eq_match]
  generalize engine.writeOnly _ = written at finished ⊢
  obtain ⟨_ | _, after⟩ := written <;> exact finished

end Runs

end Engine

namespace System

variable {system : System} {sessions : Nat → Session}

/-- A turn in which no task proceeds keeps the screenshots. -/
theorem Housed.keeps_step (housed : system.Housed) (sessions : Nat → Session) {turn : Turn}
    (other : ∀ number, turn.move ≠ .proceed number) :
    system.engine.Keeps (system.step sessions turn).engine := by
  have consistent := housed.consistent
  have deletes (deletion : Deletion) :
      system.engine.Keeps (deletion.perform system.engine).2 := by
    obtain ⟨fault, same⟩ | ⟨top, -, named, -, loses⟩ := housed.perform_cases deletion
    · rw [same]
      exact .of_same rfl rfl
    · refine loses.keeps consistent.store.tables ?_
      rintro result rfl
      cases deletion <;> cases named
  obtain ⟨now, move⟩ := turn
  cases move with
  | begin testCaseId browser options =>
    simp only [System.step]
    split
    · next prepared =>
      obtain ⟨-, -, -, -, -, -, registry, -, rfl⟩ := Engine.prepare_eq prepared
      exact .of_same rfl rfl
    · exact .of_same rfl rfl
  | conclude index installed =>
    cases waits : system.waiting[index]? with
    | none =>
      simp only [System.step, waits]
      exact .of_same rfl rfl
    | some call =>
      cases installed with
      | error reason =>
        simp only [System.step, waits]
        exact .of_same rfl rfl
      | ok _ =>
        rw [consistent.step_conclude waits now]
        exact .of_same rfl rfl
  | abandon index =>
    simp only [System.step]
    split
    · exact .of_same rfl rfl
    · exact .of_same rfl rfl
  | proceed number => exact absurd rfl (other number)
  | breakDown number =>
    simp only [System.step, System.change, Engine.brokeDown]
    split
    · exact .of_same rfl rfl
    · split
      · exact .of_same rfl rfl
      · exact .of_same rfl rfl
  | cancel runId => exact .of_same rfl rfl
  | createProject name => exact .createProject consistent.reliable now name
  | createTestCase projectId title lines =>
    exact .createTestCase consistent.reliable now projectId title lines
  | updateSteps testCaseId lines => exact .updateSteps consistent.reliable now testCaseId lines
  | deleteProject id => exact deletes (.project id)
  | deleteTestCase id => exact deletes (.testCase id)
  | read path variant => exact .read system.engine path variant
  | install change => exact .of_same rfl rfl

variable {number : Nat} {task : RunTask} {finished : List StepResult}

/-- A step of the run in progress ends with the path of its screenshot, if there is one. -/
theorem Running.goes_decided (running : system.Running number task finished)
    (consistent : system.Consistent) (session : Session) {result : StepResult}
    (pending : task.pending? = some result) (failure : Option String) (rest : List Step)
    (now : Int) :
    system.engine.Goes session number task now
      ({ system.engine with artifacts := (system.engine.filed task session result).2 }.endStep
        number task result failure (system.engine.filed task session result).1 rest now) := by
  let engine : Engine :=
    { system.engine with artifacts := (system.engine.filed task session result).2 }
  have reliable : engine.refusals = [] := consistent.reliable
  have sound : engine.store.Sound := consistent.store
  obtain ⟨undecided, own⟩ := running.sound.trail.pending result pending
  have rows : system.engine.store.tables.resultsOf result.runId = finished ++ [result] := by
    rw [own, running.sound.results, RunTask.rows, pending]
    rfl
  obtain ⟨store, turned, -⟩ :=
    Engine.endStep_eq reliable sound number task rows
      (fun row among => (running.sound.trail.decided row among).1) undecided failure
      (system.engine.filed task session result).1 rest now
  have results := engine.results_endStep reliable number task result failure
    (system.engine.filed task session result).1 rest now
  rw [turned] at results ⊢
  exact .decided pending results

/-- The run in progress goes on in the turn of its task. -/
theorem Running.goes (running : system.Running number task finished)
    (consistent : system.Consistent) (session : Session)
    (shots : ∀ result failure picture rest, task.stage = .storing result failure picture rest →
      task.shot? session result.order = some picture) (now : Int) :
    system.engine.Goes session number task now (system.engine.proceed session number now) := by
  have found := running.found
  have sound := running.sound
  simp only [Engine.proceed, found]
  cases stage : task.stage with
  | launching =>
    simp only [Engine.launched, found, stage]
    split
    · rw [Engine.finalize_eq consistent.reliable consistent.store sound.stored sound.running
        running.held]
      exact .ended _ _
    · exact .turned (by rintro _ _ _ _ ⟨⟩)
  | ready rest =>
    simp only [Engine.advance, found, stage]
    cases rest with
    | nil => exact .turned (by rintro _ _ _ _ ⟨⟩)
    | cons step rest =>
      simp only
      split
      · exact .turned (by rintro _ _ _ _ ⟨⟩)
      · rw [Engine.beginStep_eq consistent.reliable consistent.store sound.stored]
        exact .begun stage
  | acting result action rest =>
    simp only [Engine.acted, found, stage]
    exact .turned (by rintro _ _ _ _ ⟨⟩)
  | photographing result failure rest =>
    have pending : task.pending? = some result := by simp [RunTask.pending?, stage]
    have limit : task.limit? = some task.options.stepTimeout := by simp [RunTask.limit?, stage]
    simp only [Engine.photographed, found, stage, limit]
    split
    · next picture taken =>
      refine .turned ?_
      rintro _ _ _ _ ⟨⟩
      exact taken
    · next missed =>
      have shot : task.shot? session result.order = none := missed
      have goes := running.goes_decided consistent session pending failure rest now
      simp only [Engine.filed, shot] at goes
      exact goes
  | storing result failure picture rest =>
    have pending : task.pending? = some result := by simp [RunTask.pending?, stage]
    have shot := shots result failure picture rest stage
    simp only [Engine.stored, found, stage]
    have goes := running.goes_decided consistent session pending failure rest now
    simp only [Engine.filed, shot] at goes
    exact goes
  | closing fault =>
    cases fault with
    | none =>
      simp only [Engine.closed, found, stage]
      rw [Engine.finalize_eq consistent.reliable consistent.store sound.stored sound.running
        running.held]
      exact .ended _ _
    | some fault => exact absurd stage (sound.trail.faultless fault)
  | ended run =>
    have busy := running.busy
    simp [RunTask.isOver, stage] at busy
  | panicked =>
    have busy := running.busy
    simp [RunTask.isOver, stage] at busy

/-- The results of a run are those of its first steps. -/
theorem Running.exists_step (running : system.Running number task finished) {result : StepResult}
    (among : result ∈ task.rows finished) :
    ∃ step ∈ task.steps.take (task.rows finished).length, step.id = result.stepId := by
  have placed : result.place ∈ (task.rows finished).map StepResult.place :=
    List.mem_map_of_mem among
  rw [running.sound.trail.places] at placed
  obtain ⟨step, taken, same⟩ := List.mem_map.1 placed
  exact ⟨step, taken, congrArg Prod.fst same⟩

/-- The step that begins next has no result in the run yet. -/
theorem Running.new_step (running : system.Running number task finished)
    (distinct : (task.steps.map Step.id).Nodup) {step : Step} {rest : List Step}
    (stage : task.stage = .ready (step :: rest)) :
    (task.run.id, step.id) ∉ system.engine.store.tables.results.map StepResult.owners := by
  intro present
  obtain ⟨row, among, same⟩ := List.mem_map.1 present
  obtain ⟨own, named⟩ := Prod.mk.inj same
  have rows : task.rows finished = finished := by simp [RunTask.rows, RunTask.pending?, stage]
  have listed : row ∈ task.rows finished := by
    rw [← running.sound.results]
    exact List.mem_filter.2 ⟨among, by simpa using own⟩
  obtain ⟨earlier, taken, known⟩ := running.exists_step listed
  obtain ⟨next, -⟩ := running.sound.trail.step_of_ready stage
  rw [rows] at taken
  -- The step would be among the first ones and among those after them.
  have first : step.id ∈ (task.steps.map Step.id).take finished.length := by
    rw [← List.map_take]
    exact List.mem_map.2 ⟨earlier, taken, known.trans named⟩
  have later : step.id ∈ (task.steps.map Step.id).drop finished.length := by
    rw [← List.map_drop]
    refine List.mem_map_of_mem (List.mem_of_getElem? (i := 0) ?_)
    rw [List.getElem?_drop, Nat.add_zero, next]
  exact List.disjoint_take_drop distinct le_rfl first later

/-- The screenshot of a step of the run in progress is filed, if it is worth it. -/
theorem Running.takes (running : system.Running number task finished) (housed : system.Housed)
    (ready : system.engine.artifacts.Ready) (session : Session) {result : StepResult}
    (run : PictureName task.run.id) (step : PictureName result.stepId)
    (own : result.runId = task.run.id) :
    system.engine.artifacts.Takes result (task.evidence? session result.order)
      (system.engine.filed task session result) := by
  cases shot : task.shot? session result.order with
  | none =>
    simp only [RunTask.evidence?, Engine.filed, shot, Option.filter_none]
    exact .none ready
  | some picture =>
    simp only [RunTask.evidence?, Engine.filed, shot]
    by_cases filled : picture = []
    · obtain ⟨refused, same⟩ := system.engine.artifacts.capture_empty task.run.id result.stepId
      simp only [filled, List.isEmpty_nil, Bool.not_true, Option.filter_some, refused, same,
        Bool.false_eq_true, if_false]
      exact .none ready
    · have known : task.run.id ∈ system.engine.store.tables.runs.map Run.id :=
        List.mem_map_of_mem running.sound.stored
      obtain ⟨stored, files⟩ :=
        ready.capture_filled housed.tidy known (ready.placeable run step) filled
      have worthy : (!picture.isEmpty) = true := by simpa using filled
      simp only [Option.filter_some, worthy, if_true, stored]
      exact .some files own run step

/-- A step that begins has a result of its own, without a screenshot. -/
theorem Running.filing_begun (running : system.Running number task finished)
    (ready : system.engine.artifacts.Ready)
    (distinct : (system.engine.store.tables.results.map StepResult.owners).Nodup)
    (legible : RunTask.Legible task.steps) {step : Step} {rest : List Step}
    (stage : task.stage = .ready (step :: rest)) (now : Int) :
    Engine.Filing sessions system.engine (system.engine.begun number task step rest now) where
  fate := by
    intro row present
    rcases List.mem_append.1 present with old | added
    · exact .carried old fun _ filed => filed
    · obtain rfl := List.mem_singleton.1 added
      exact .begun rfl rfl
  lasting := fun _ present _ _ => ⟨List.mem_append_left _ present, fun _ filed => filed⟩
  distinct := by
    let begun := system.engine.begunResult task step now
    have new : begun.owners ∉ system.engine.store.tables.results.map StepResult.owners :=
      running.new_step legible.distinct stage
    exact Rows.nodup_append_singleton distinct new
  ready := ready

/-- A step that ends has its screenshot filed with its result. -/
theorem Running.filing_decided (running : system.Running number task finished)
    (housed : system.Housed) (ready : system.engine.artifacts.Ready)
    (distinct : (system.engine.store.tables.results.map StepResult.owners).Nodup)
    (run : PictureName task.run.id) (legible : RunTask.Legible task.steps) {result : StepResult}
    (pending : task.pending? = some result) {after : Engine} {failure : Option String}
    {now : Int} {stopped : Bool}
    (artifacts : after.artifacts = (system.engine.filed task (sessions number) result).2)
    (results : after.store.tables.results = system.engine.store.tables.results.map fun row =>
      if Store.isPending result.id row then
        Engine.decidedResult stopped row failure
          (system.engine.filed task (sessions number) result).1 now
      else row) : Engine.Filing sessions system.engine after := by
  obtain ⟨undecided, own⟩ := running.sound.trail.pending result pending
  have among : result ∈ task.rows finished := by simp [RunTask.rows, pending]
  obtain ⟨step, listed, same⟩ := running.exists_step among
  have stored : result ∈ system.engine.store.tables.results := by
    rw [← running.sound.results] at among
    exact (List.mem_filter.1 among).1
  have named : PictureName result.stepId :=
    same ▸ legible.named step (List.mem_of_mem_take listed)
  have takes := running.takes housed ready (sessions number) run named own
  refine ⟨fun row present => ?_, fun row present decided _ => ?_, ?_, artifacts ▸ takes.ready⟩
  · rw [results] at present
    obtain ⟨old, among, rfl⟩ := List.mem_map.1 present
    by_cases chosen : Store.isPending result.id old = true
    · have equal : old = result := by
        refine Rows.eq_of_key_eq housed.consistent.store.tables.keyed.results among stored ?_
        simp only [Store.isPending, Bool.and_eq_true, decide_eq_true_eq] at chosen
        exact chosen.1
      subst equal
      rw [if_pos chosen]
      exact .decided running.found own (artifacts ▸ takes.own _ rfl rfl)
    · rw [if_neg chosen]
      exact .carried among fun _ filed =>
        artifacts ▸ takes.spares distinct stored undecided among chosen filed
  · have spared : ¬Store.isPending result.id row = true := by simp [Store.isPending, decided]
    rw [results]
    exact ⟨List.mem_map.2 ⟨row, present, if_neg spared⟩, fun _ filed =>
      artifacts ▸ takes.spares distinct stored undecided present spared filed⟩
  · rw [results, Rows.map_key_update StepResult.owners _ (Store.isPending result.id)
      (fun row => Engine.decidedResult stopped row failure
        (system.engine.filed task (sessions number) result).1 now) fun _ => rfl]
    exact distinct

/-- The run in progress files the screenshots of its own steps. -/
theorem Running.filing (running : system.Running number task finished) (housed : system.Housed)
    (ready : system.engine.artifacts.Ready)
    (distinct : (system.engine.store.tables.results.map StepResult.owners).Nodup)
    (run : PictureName task.run.id) (legible : RunTask.Legible task.steps) {after : Engine}
    {now : Int}
    (goes : system.engine.Goes (sessions number) number task now after) :
    Engine.Filing sessions system.engine after := by
  cases goes with
  | turned taken => exact Engine.Keeps.filing (.of_same rfl rfl) distinct ready
  | ended fatal failed => exact Engine.Keeps.filing (.of_same rfl rfl) distinct ready
  | begun stage => exact running.filing_begun ready distinct legible stage now
  | decided pending results =>
    exact running.filing_decided housed ready distinct run legible pending rfl results

end System

end StepRunner
