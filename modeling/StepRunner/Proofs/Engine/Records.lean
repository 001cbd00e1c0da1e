import StepRunner.Proofs.Engine.Frames
import StepRunner.Proofs.Engine.Turns
import StepRunner.Proofs.Store.Lineage

/-!
This file says what a turn can do to the rows and the screenshots.
Only a deletion removes runs, and only a capture, a read and a deletion change screenshots.
-/

namespace StepRunner

/-- A project or a test case that somebody deletes. -/
inductive Deletion where
  | project (id : String)
  | testCase (id : String)
  deriving DecidableEq, Repr

namespace Deletion

/-- The move that carries a deletion out. -/
def move : Deletion → Move
  | project id => .deleteProject id
  | testCase id => .deleteTestCase id

/-- The answer to a deletion, and the engine after it. -/
def perform (engine : Engine) : Deletion → Except EngineError Unit × Engine
  | project id => engine.deleteProject id
  | testCase id => engine.deleteTestCase id

end Deletion

namespace Engine

/-- Rows are added and changed, no run is removed, and the screenshots are as before. -/
structure Records (before after : Engine) : Prop where
  grows : before.store.Grows after.store
  artifacts : after.artifacts = before.artifacts

/-- What a turn can do to the rows and the screenshots. -/
inductive Touches (engine : Engine) : Engine → Prop where
  | recorded {after : Engine} (records : engine.Records after) : Touches engine after
  | captured {after : Engine} {number : Nat} {task : RunTask} {result : StepResult}
      {failure : Option String} {picture : Bytes} {rest : List Step}
      (found : engine.task? number = some task)
      (stage : task.stage = .storing result failure picture rest)
      (records : Records { engine with
        artifacts := (engine.artifacts.capture task.run.id result.stepId picture).2 } after) :
      Touches engine after
  | read (path : String) (variant : Variant) :
      Touches engine { engine with artifacts := (engine.artifacts.read path variant).2 }
  | deleted (deletion : Deletion) : Touches engine (deletion.perform engine).2

variable {before engine after : Engine}

namespace Records

section Pieces

theorem refl (sound : engine.store.tables.Sound) : engine.Records engine := ⟨.refl sound, rfl⟩

/-- A change that concerns neither the rows nor the screenshots. -/
theorem of_same (records : before.Records engine) (store : after.store = engine.store)
    (artifacts : after.artifacts = engine.artifacts) : before.Records after where
  grows := store ▸ records.grows
  artifacts := artifacts.trans records.artifacts

/-- The engine that comes with an answer is the one after the call. -/
theorem of_eq {Answer : Type} {outcome : Answer × Engine} {answer : Answer}
    (records : before.Records outcome.2) (same : outcome = (answer, after)) :
    before.Records after := by
  rw [same] at records
  exact records

theorem write {α : Type} {change : Store → Except StoreError (α × Store)}
    (records : before.Records engine) (operation : Store.Operation)
    (accords : engine.store.accepting ((change engine.store).map Prod.snd) =
      engine.store.perform operation)
    (mints : operation.Mints before.store.minted) (keeps : operation.KeepsRuns before.store) :
    before.Records (engine.write change).2 := by
  cases condition : engine.refusals.headD false with
  | true =>
    rw [write_of_faulty condition]
    exact records.of_same rfl rfl
  | false =>
    rw [write_of_healthy condition, accords]
    exact ⟨records.grows.perform mints keeps, records.artifacts⟩

theorem writeOnly {change : Store → Except StoreError Store} (records : before.Records engine)
    (operation : Store.Operation)
    (accords : engine.store.accepting (change engine.store) = engine.store.perform operation)
    (mints : operation.Mints before.store.minted) (keeps : operation.KeepsRuns before.store) :
    before.Records (engine.writeOnly change).2 := by
  refine records.write operation ?_ mints keeps
  rw [← accords]
  cases change engine.store <;> rfl

theorem mint (records : before.Records engine) : before.Records engine.mint.2 where
  grows := by
    have grows : before.store.Grows (engine.store.perform .mint) :=
      records.grows.perform trivial trivial
    exact grows
  artifacts := records.artifacts

theorem emit (records : before.Records engine) (event : RunEvent) :
    before.Records (engine.emit event) :=
  records.of_same rfl rfl

theorem updateTask (records : before.Records engine) (number : Nat) (change : RunTask → RunTask) :
    before.Records (engine.updateTask number change) :=
  records.of_same rfl rfl

theorem setStage (records : before.Records engine) (number : Nat) (stage : Stage) :
    before.Records (engine.setStage number stage) :=
  records.updateTask number _

end Pieces

section Starts

/-- A start that fails removes only the run that it has inserted. -/
theorem storeRun (records : before.Records engine) (sound : before.store.Sound) (call : StartCall)
    (now : Int) : before.Records (engine.storeRun call now).2 := by
  unfold Engine.storeRun
  simp only
  have new : before.store.minted ≤ engine.store.minted := records.grows.stems.minted
  have inserts : before.Records
      (engine.mint.2.writeOnly (·.insertRun (queuedRun engine.mint.1 call now))).2 :=
    records.mint.writeOnly (.insertRun (queuedRun engine.mint.1 call now)) rfl
      ⟨engine.store.minted, new, rfl⟩ trivial
  split
  · next outcome => exact inserts.of_eq outcome
  · next middle outcome =>
    have moves : before.Records (middle.write (·.moveRun now engine.mint.1 .running none)).2 :=
      (inserts.of_eq outcome).write (.moveRun now engine.mint.1 .running none) rfl trivial trivial
    split
    · next outcome =>
      have fresh : engine.mint.1 ∉ before.store.tables.runs.map Run.id := by
        refine fun old => sound.fresh _ new ?_
        rw [Tables.ids, List.mem_append, List.mem_append]
        exact .inl (.inr old)
      exact (moves.of_eq outcome).write (.deleteQueuedRun engine.mint.1) rfl trivial fresh
    · next outcome => exact moves.of_eq outcome

theorem conclude (records : before.Records engine) (sound : before.store.Sound) (call : StartCall)
    (installed : Except String Unit) (now : Int) :
    before.Records (engine.conclude call installed now).2 := by
  unfold Engine.conclude
  split
  · exact records.of_same rfl rfl
  · have stores := records.storeRun sound call now
    split
    · next outcome => exact (stores.of_eq outcome).of_same rfl rfl
    · next outcome => exact (stores.of_eq outcome).of_same rfl rfl

end Starts

section Runs

variable {number : Nat} {task : RunTask}

theorem finalize (records : before.Records engine) (fatal : Option String) (failed : Bool)
    (now : Int) : before.Records (engine.finalize number task fatal failed now) := by
  unfold Engine.finalize
  have moves {status : RunStatus} :
      before.Records (engine.write (·.moveRun now task.run.id status fatal)).2 :=
    records.write (.moveRun now task.run.id status fatal) rfl trivial trivial
  exact moves.of_same rfl rfl

theorem beginStep (records : before.Records engine) (step : Step) (rest : List Step) (now : Int) :
    before.Records (engine.beginStep number task step rest now) := by
  unfold Engine.beginStep
  simp only
  have inserts : before.Records
      (engine.mint.2.writeOnly
        (·.insertResult (pendingResult engine.mint.1 task.run step now))).2 :=
    records.mint.writeOnly (.insertResult (pendingResult engine.mint.1 task.run step now)) rfl
      ⟨engine.store.minted, records.grows.stems.minted, rfl⟩ trivial
  split
  · next outcome => exact (inserts.of_eq outcome).setStage _ _
  · next outcome =>
    have told := (inserts.of_eq outcome).emit (.stepStarted task.run.id step.id step.order)
    split
    · exact told.setStage _ _
    · exact told.setStage _ _

theorem endStep (records : before.Records engine) (result : StepResult)
    (failure path : Option String) (rest : List Step) (now : Int) :
    before.Records (engine.endStep number task result failure path rest now) := by
  unfold Engine.endStep
  simp only
  have finishes {outcome : StepResult} :
      before.Records (engine.writeOnly (·.finishResult outcome)).2 :=
    records.writeOnly (.finishResult outcome) rfl trivial trivial
  split
  · next outcome => exact (finishes.of_eq outcome).setStage _ _
  · next outcome => exact ((finishes.of_eq outcome).emit _).updateTask _ _

end Runs

section Catalogue

variable (sound : engine.store.tables.Sound)

include sound

theorem createProject (now : Int) (name : String) :
    engine.Records (engine.createProject now name).2 :=
  (refl sound).write (.createProject now name) rfl trivial trivial

theorem createTestCase (now : Int) (projectId title : String) (lines : List String) :
    engine.Records (engine.createTestCase now projectId title lines).2 := by
  unfold Engine.createTestCase
  split
  · exact refl sound
  · next drafts _ =>
    exact (refl sound).write (.createTestCase now projectId title drafts) rfl trivial trivial

theorem updateSteps (now : Int) (testCaseId : String) (lines : List String) :
    engine.Records (engine.updateSteps now testCaseId lines).2 := by
  unfold Engine.updateSteps
  split
  · exact refl sound
  · next drafts _ =>
    exact (refl sound).write (.replaceSteps now testCaseId drafts) rfl trivial trivial

end Catalogue

end Records

section Turns

/-- The next stage of a run writes rows, and a screenshot if one waits to be written. -/
theorem touches_proceed (sound : engine.store.tables.Sound) (session : Session) (number : Nat)
    (now : Int) : engine.Touches (engine.proceed session number now) := by
  have still : engine.Records engine := .refl sound
  cases found : engine.task? number with
  | none =>
    simp only [Engine.proceed, found]
    exact .recorded still
  | some task =>
    simp only [Engine.proceed, found]
    cases stage : task.stage with
    | launching =>
      simp only [launched, found, stage]
      split
      · exact .recorded (still.finalize _ _ now)
      · exact .recorded (still.setStage _ _)
    | ready rest =>
      simp only [advance, found, stage]
      cases rest with
      | nil => exact .recorded (still.setStage _ _)
      | cons step rest =>
        simp only
        split
        · exact .recorded (still.setStage _ _)
        · exact .recorded (still.beginStep step rest now)
    | acting result action rest =>
      simp only [acted, found, stage]
      exact .recorded (still.setStage _ _)
    | photographing result failure rest =>
      simp only [photographed, found, stage]
      split
      · exact .recorded (still.setStage _ _)
      · exact .recorded (still.endStep _ _ _ _ now)
    | storing result failure picture rest =>
      simp only [stored, found, stage]
      have still : Records { engine with
          artifacts := (engine.artifacts.capture task.run.id result.stepId picture).2 } _ :=
        .refl sound
      exact .captured found stage (still.endStep _ _ _ _ now)
    | closing fault =>
      simp only [closed, found, stage]
      cases fault with
      | none => exact .recorded (still.finalize _ _ now)
      | some fault =>
        have fails : engine.Records (engine.writeAlways (·.failPending now task.run.id fault)).2 :=
          still.write (.failPending now task.run.id fault) rfl trivial trivial
        exact .recorded (fails.finalize _ _ now)
    | ended run => exact .recorded still
    | panicked => exact .recorded still

/-- Every turn only writes rows, only writes or reads screenshots, or deletes. -/
theorem touches_step (sessions : Nat → Session) (system : System)
    (sound : system.engine.store.Sound) (turn : Turn) :
    system.engine.Touches (system.step sessions turn).engine := by
  have still : system.engine.Records system.engine := .refl sound.tables
  obtain ⟨now, move⟩ := turn
  cases move with
  | begin testCaseId browser options =>
    simp only [System.step]
    split
    · next prepared =>
      obtain ⟨-, -, -, -, -, -, registry, -, rfl⟩ := prepare_eq prepared
      exact .recorded (still.of_same rfl rfl)
    · exact .recorded still
  | conclude index installed =>
    simp only [System.step]
    split
    · exact .recorded (still.conclude sound _ _ now)
    · exact .recorded still
  | abandon index =>
    simp only [System.step]
    split
    · exact .recorded (still.of_same rfl rfl)
    · exact .recorded still
  | proceed number => exact touches_proceed sound.tables (sessions number) number now
  | breakDown number =>
    simp only [System.step, System.change, brokeDown]
    split
    · exact .recorded still
    · split
      · exact .recorded still
      · exact .recorded (still.of_same rfl rfl)
  | cancel runId => exact .recorded (still.of_same rfl rfl)
  | createProject name => exact .recorded (.createProject sound.tables now name)
  | createTestCase projectId title lines =>
    exact .recorded (.createTestCase sound.tables now projectId title lines)
  | updateSteps testCaseId lines =>
    exact .recorded (.updateSteps sound.tables now testCaseId lines)
  | deleteProject id => exact .deleted (.project id)
  | deleteTestCase id => exact .deleted (.testCase id)
  | read path variant => exact .read path variant
  | install change => exact .recorded (still.of_same rfl rfl)

end Turns

end Engine

end StepRunner
