import StepRunner.Proofs.Engine.Clock
import StepRunner.Proofs.Store.Lives

/-!
This file says which state and which error a run has when its task ends.
Nothing else than the end of a task ends a run in the store, unless it fails the run.
-/

namespace StepRunner

namespace Engine

variable {before middle after engine : Engine}

/-- The tables are clean if they were, and each new state of a run is plain. -/
def Follows (before after : Engine) : Prop :=
  before.store.tables.Follows after.store.tables

namespace Follows

section Pieces

theorem refl : engine.Follows engine := Tables.Follows.refl

theorem trans (first : before.Follows middle) (second : middle.Follows after) :
    before.Follows after :=
  Tables.Follows.trans first second

/-- The engine that comes with an answer is the one after the call. -/
theorem of_eq {Answer : Type} {outcome : Answer × Engine} {answer : Answer}
    (follows : before.Follows outcome.2) (same : outcome = (answer, after)) :
    before.Follows after := by
  rw [same] at follows
  exact follows

theorem write {α : Type} {change : Store → Except StoreError (α × Store)}
    (operation : Store.Operation) (plain : operation.IsPlain)
    (accords : engine.store.accepting ((change engine.store).map Prod.snd) =
      engine.store.perform operation) : engine.Follows (engine.write change).2 := by
  cases condition : engine.refusals.headD false with
  | true =>
    rw [write_of_faulty condition]
    exact refl
  | false =>
    rw [write_of_healthy condition, accords]
    exact Store.follows_perform engine.store plain

theorem writeOnly {change : Store → Except StoreError Store} (operation : Store.Operation)
    (plain : operation.IsPlain)
    (accords : engine.store.accepting (change engine.store) = engine.store.perform operation) :
    engine.Follows (engine.writeOnly change).2 := by
  refine write operation plain ?_
  rw [← accords]
  cases change engine.store <;> rfl

theorem mint (engine : Engine) : engine.Follows engine.mint.2 := refl

end Pieces

section Starts

theorem isPlain_queuedRun (id : String) (call : StartCall) (now : Int) :
    (queuedRun id call now).IsPlain :=
  .inr ⟨rfl, rfl⟩

/-- A start leaves a run that is running, or queued, or none. -/
theorem storeRun (engine : Engine) (call : StartCall) (now : Int) :
    engine.Follows (engine.storeRun call now).2 := by
  unfold Engine.storeRun
  simp only
  have inserts : engine.Follows
      (engine.mint.2.writeOnly (·.insertRun (queuedRun engine.mint.1 call now))).2 :=
    (mint engine).trans
      (writeOnly (.insertRun (queuedRun engine.mint.1 call now)) (isPlain_queuedRun _ call now) rfl)
  split
  · next outcome => exact inserts.of_eq outcome
  · next middle outcome =>
    have moves : middle.Follows (middle.write (·.moveRun now engine.mint.1 .running none)).2 :=
      write (.moveRun now engine.mint.1 .running none) (.inr ⟨rfl, rfl⟩) rfl
    have inserts := inserts.of_eq outcome
    split
    · next outcome =>
      have moves := inserts.trans (moves.of_eq outcome)
      exact moves.trans (write (.deleteQueuedRun engine.mint.1) trivial rfl)
    · next outcome => exact inserts.trans (moves.of_eq outcome)

theorem conclude (engine : Engine) (call : StartCall) (installed : Except String Unit)
    (now : Int) : engine.Follows (engine.conclude call installed now).2 := by
  have stores := storeRun engine call now
  unfold Engine.conclude
  split
  · exact refl
  · split
    all_goals
      next outcome =>
      have stores := stores.of_eq outcome
      exact stores

end Starts

section Catalogue

theorem createProject (engine : Engine) (now : Int) (name : String) :
    engine.Follows (engine.createProject now name).2 :=
  write (.createProject now name) trivial rfl

theorem createTestCase (engine : Engine) (now : Int) (projectId title : String)
    (lines : List String) :
    engine.Follows (engine.createTestCase now projectId title lines).2 := by
  unfold Engine.createTestCase
  split
  · exact refl
  · next drafts _ => exact write (.createTestCase now projectId title drafts) trivial rfl

theorem updateSteps (engine : Engine) (now : Int) (testCaseId : String) (lines : List String) :
    engine.Follows (engine.updateSteps now testCaseId lines).2 := by
  unfold Engine.updateSteps
  split
  · exact refl
  · next drafts _ => exact write (.replaceSteps now testCaseId drafts) trivial rfl

theorem delete {remove : Store → Bool × Store} (operation : Store.Operation)
    (plain : operation.IsPlain)
    (accords : (remove engine.store).2 = engine.store.perform operation)
    (check : Except EngineError Unit) (missing : EngineError) (runIds : List String) :
    engine.Follows (engine.delete check missing runIds remove).2 := by
  unfold Engine.delete
  have removes : engine.Follows (engine.writeAlways remove).2 := write operation plain accords
  split
  · exact refl
  · split
    all_goals
      next outcome =>
      have removes := removes.of_eq outcome
      exact removes

end Catalogue

section Steps

variable {number : Nat} {task : RunTask} {now : Int}

theorem beginStep (engine : Engine) (step : Step) (rest : List Step) :
    engine.Follows (engine.beginStep number task step rest now) := by
  unfold Engine.beginStep
  simp only
  have inserts {result : StepResult} :
      engine.Follows (engine.mint.2.writeOnly (·.insertResult result)).2 :=
    (mint engine).trans (writeOnly (.insertResult result) trivial rfl)
  split
  · next outcome =>
    have inserts := inserts.of_eq outcome
    exact inserts
  · next outcome =>
    have inserts := inserts.of_eq outcome
    split
    · exact inserts
    · exact inserts

theorem endStep (engine : Engine) (result : StepResult) (failure path : Option String)
    (rest : List Step) :
    engine.Follows (engine.endStep number task result failure path rest now) := by
  unfold Engine.endStep
  simp only
  have finishes {outcome : StepResult} :
      engine.Follows (engine.writeOnly (·.finishResult outcome)).2 :=
    writeOnly (.finishResult outcome) trivial rfl
  split
  all_goals
    next outcome =>
    have finishes := finishes.of_eq outcome
    exact finishes

/-- A task that proceeds without an end of its run adds no state that is not plain. -/
theorem proceed (found : engine.task? number = some task) {session : Session}
    (unclosed : ∀ fault, task.stage ≠ .closing fault)
    (launches : ∀ error, session.launch = .error error → task.stage ≠ .launching) :
    engine.Follows (engine.proceed session number now) := by
  simp only [Engine.proceed, found]
  cases stage : task.stage with
  | launching =>
    simp only [launched, found, stage]
    split
    · next error fails => exact absurd stage (launches error fails)
    · exact refl
  | ready rest =>
    simp only [advance, found, stage]
    cases rest with
    | nil => exact refl
    | cons step rest =>
      simp only
      split
      · exact refl
      · exact beginStep engine step rest
  | acting result action rest =>
    simp only [acted, found, stage]
    exact refl
  | photographing result failure rest =>
    simp only [photographed, found, stage]
    split
    · exact refl
    · exact endStep engine _ _ _ _
  | storing result failure picture rest =>
    simp only [stored, found, stage]
    have same (artifacts : Artifacts) : engine.Follows { engine with artifacts } := refl
    exact (same _).trans (endStep _ _ _ _ _)
  | closing fault => exact absurd stage (unclosed fault)
  | ended run => exact refl
  | panicked => exact refl

end Steps

end Follows

end Engine

/-- The last state of the run of a task that ends, and why its steps were given up, if they were. -/
structure Run.EndsAs (last : Run) (task : RunTask) (cancelled failed : Bool)
    (fatal : Option String) : Prop where
  id : last.id = task.run.id
  status : last.status = Engine.finalStatus cancelled (fatal.isSome || failed)
  error : last.error = fatal

/-- A task ends after its launch has failed, or when it is closed. -/
inductive RunTask.EndsFor (session : Session) (task : RunTask) : Option String → Prop where
  | launch {error : SessionError} (stage : task.stage = .launching)
      (answer : session.launch = .error error) : EndsFor session task (some error.message)
  | close {fault : Option String} (stage : task.stage = .closing fault) : EndsFor session task fault

namespace Engine

variable {engine after : Engine} {number : Nat} {task : RunTask} {session : Session}

/-- A run has ended with its task, and only its row has changed. -/
structure Concludes (engine : Engine) (number : Nat) (task : RunTask) (cancelled failed : Bool)
    (fatal : Option String) (last : Run) (after : Engine) : Prop where
  found : after.task? number = some { task with stage := .ended last }
  ends : last.EndsAs task cancelled failed fatal
  clean : after.store.tables.Clean
  rows : ∀ row ∈ after.store.tables.runs,
    row ∈ engine.store.tables.runs ∨ row.IsPlain ∨ row = last

/-- The end of a run that the store accepts changes the row of the run. -/
theorem rows_of_moved {store stored : Store} {now : Int} {id : String}
    {status : RunStatus}
    {fatal : Option String} {last : Run} (clean : store.tables.Clean)
    (terminal : status.isTerminal = true)
    (moves : store.moveRun now id status fatal = .ok (last, stored)) :
    last.id = id ∧ last.status = status ∧ last.error = fatal ∧ stored.tables.Clean ∧
      ∀ row ∈ stored.tables.runs, row ∈ store.tables.runs ∨ row = last := by
  have sound : stored.tables.Sound := by
    have kept := Store.tables_perform clean.sound (.moveRun now id status fatal)
    rwa [Store.perform, moves] at kept
  have rows : ∀ row ∈ stored.tables.runs, row ∈ store.tables.runs ∨ row = last := by
    intro row present
    obtain ⟨old, found, -, rfl, -⟩ := Store.moveRun_eq moves
    rcases (Store.alters_moveRun clean.sound moves).origin row present with
      ⟨run, among, changes⟩ | ⟨call, -⟩
    · cases changes with
      | kept => exact .inl among
      | moved =>
        obtain ⟨known, named⟩ := clean.sound.keyed.run?_eq_some_iff.1 found
        obtain rfl := Rows.eq_of_key_eq clean.sound.keyed.runs among known named.symm
        exact .inr rfl
    · cases call
  obtain ⟨old, found, edge, same, -⟩ := Store.moveRun_eq moves
  obtain ⟨present, named⟩ := clean.sound.keyed.run?_eq_some_iff.1 found
  have unblamed : old.error = none :=
    clean.blameless old present (RunStatus.canMoveTo_iff_edge.1 edge).unended
  have unended : ∀ row ∈ stored.tables.runs, row.status.isTerminal = false → row.error = none := by
    intro row present unended
    rcases rows row present with old | rfl
    · exact clean.blameless row old unended
    · rw [same] at unended
      exact absurd terminal (by simpa [Store.moved] using unended)
  refine ⟨?_, ?_, ?_, ⟨sound, unended⟩, rows⟩
  · rw [same]
    exact named
  · rw [same]
    rfl
  · rw [same]
    show (fatal <|> old.error) = fatal
    rw [unblamed]
    cases fatal <;> rfl

/-- A run that is finalized ends as its task says, whether its end can be stored or not. -/
theorem concludes_finalize (clean : engine.store.tables.Clean)
    (found : engine.task? number = some task) (fatal : Option String) (failed : Bool) (now : Int) :
    ∃ last, engine.Concludes number task (engine.registry.cancelRequested task.active) failed fatal
      last (engine.finalize number task fatal failed now) := by
  let status :=
    finalStatus (engine.registry.cancelRequested task.active) (fatal.isSome || failed)
  have terminal : status.isTerminal = true := finalStatus_isTerminal _ _
  have ended {middle : Engine} (tasks : middle.tasks = engine.tasks) (last : Run) :
      (middle.setStage number (.ended last)).task? number =
        some { task with stage := .ended last } := by
    rw [setStage, task?_updateTask, if_pos rfl, task?, tasks]
    exact congrArg (Option.map _) found
  unfold Engine.finalize
  simp only
  rcases engine.write_cases (·.moveRun now task.run.id status fatal) with
    ⟨error, written⟩ | ⟨run, store, -, moves, written⟩
  · simp only [status] at written
    rw [written]
    refine ⟨_, ended ?_ _, ⟨rfl, rfl, rfl⟩, clean, fun row present => .inl present⟩
    rfl
  · obtain ⟨named, verdict, reason, stored, rows⟩ := rows_of_moved clean terminal moves
    simp only [status] at written verdict
    rw [written]
    refine ⟨run, ended ?_ _, ⟨named, verdict, reason⟩, stored, fun row present => ?_⟩
    · rfl
    · rcases rows row present with old | same
      · exact .inl old
      · exact .inr (.inr same)

/-- A task that proceeds goes on, or its run ends. -/
inductive Proceeding (engine : Engine) (number : Nat) (task : RunTask) (session : Session)
    (after : Engine) : Prop where
  | goes {next : RunTask} (found : after.task? number = some next) (busy : next.isOver = false)
      (same : task.SameRun next) (unclosed : ∀ fault, task.stage ≠ .closing fault)
      (launches : ∀ error, session.launch = .error error → task.stage ≠ .launching)
      (follows : engine.Follows after) : Proceeding engine number task session after
  | ends {fatal : Option String} {failed : Bool} {last : Run} (cause : task.EndsFor session fatal)
      (concludes : engine.Concludes number task (engine.registry.cancelRequested task.active) failed
        fatal last after) : Proceeding engine number task session after

/-- A task that is not over goes on unless its launch fails or it is closed. -/
theorem Proceeding.of_unclosed (found : engine.task? number = some task)
    (busy : task.isOver = false) (now : Int) (unclosed : ∀ fault, task.stage ≠ .closing fault)
    (launches : ∀ error, session.launch = .error error → task.stage ≠ .launching) :
    engine.Proceeding number task session (engine.proceed session number now) := by
  obtain ⟨next, reached, same, onward⟩ := brings_proceed found busy session now
  have busy : next.isOver = false := by
    unfold RunTask.isOver
    generalize next.stage = stage at onward
    cases onward with
    | unlaunched stage answer => exact absurd stage (launches _ answer)
    | closed stage => exact absurd stage (unclosed _)
    | _ => rfl
  exact .goes reached busy same unclosed launches (.proceed found unclosed launches)

/-- A task that is not over goes on when it proceeds, or its run ends for a reason. -/
theorem proceeding (clean : engine.store.tables.Clean) (found : engine.task? number = some task)
    (busy : task.isOver = false) (session : Session) (now : Int) :
    engine.Proceeding number task session (engine.proceed session number now) := by
  cases stage : task.stage with
  | launching =>
    cases answer : session.launch with
    | error error =>
      obtain ⟨last, concludes⟩ := concludes_finalize clean found (some error.message) false now
      have turn : engine.proceed session number now =
          engine.finalize number task (some error.message) false now := by
        simp only [proceed, found, stage, launched, answer]
      rw [turn]
      exact .ends (.launch stage answer) concludes
    | ok _ => exact .of_unclosed found busy now (by simp [stage]) (by simp [answer])
  | closing fault =>
    cases fault with
    | none =>
      obtain ⟨last, concludes⟩ := concludes_finalize clean found none task.anyFailed now
      have turn : engine.proceed session number now =
          engine.finalize number task none task.anyFailed now := by
        simp only [proceed, found, stage, closed]
      rw [turn]
      exact .ends (.close stage) concludes
    | some fault =>
      let middle := (engine.writeAlways (·.failPending now task.run.id fault)).2
      have turn : engine.proceed session number now =
          middle.finalize number task (some fault) true now := by
        simp only [proceed, found, stage, closed, middle]
      have follows : engine.Follows middle :=
        .write (.failPending now task.run.id fault) trivial rfl
      have rests : engine.Rests middle :=
        .writeAlways (.failPending now task.run.id fault) rfl
      have present : middle.task? number = some task := by
        rw [task?, rests.tasks]
        exact found
      obtain ⟨clean, early⟩ := follows clean
      obtain ⟨last, concludes⟩ := concludes_finalize clean present (some fault) true now
      rw [rests.registry] at concludes
      rw [turn]
      refine .ends (.close stage) { concludes with rows := fun row late => ?_ }
      rcases concludes.rows row late with old | new
      · exact (early row old).imp_right .inl
      · exact .inr new
  | _ => exact .of_unclosed found busy now (by simp [stage]) (by simp [stage])

end Engine

end StepRunner
