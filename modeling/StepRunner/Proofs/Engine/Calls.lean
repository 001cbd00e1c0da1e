import StepRunner.Proofs.Engine.Coherence
import StepRunner.Proofs.Engine.Turns
import StepRunner.Proofs.Store.Origins

/-!
This file says which calls of the store a turn makes, whatever the disk refuses.
Whatever each of these calls keeps is kept by the turn.
-/

namespace StepRunner

/-- A call that neither writes a script nor inserts a row of a run nor withdraws a run. -/
def Store.Operation.IsTame : Store.Operation → Prop
  | .createTestCase _ _ _ _ | .replaceSteps _ _ _ | .insertRun _ | .deleteQueuedRun _
  | .insertResult _ => False
  | _ => True

/-- A store that comes from another one by calls of a kind. -/
inductive Store.Comes (makes : Store → Operation → Prop) (first : Store) : Store → Prop where
  | refl : Comes makes first first
  | call {store : Store} {operation : Operation} (comes : Comes makes first store)
      (made : makes store operation) : Comes makes first (store.perform operation)

/-- What a task is there for: the run and the steps. -/
def RunTask.errand (task : RunTask) : String × List Step := (task.run.id, task.steps)

/-- The runs and the steps of the tasks. -/
def Engine.errands (engine : Engine) : List (String × List Step) :=
  engine.tasks.map RunTask.errand

namespace System

/-- A start reads the steps of its test case in a turn. -/
def Reads (system : System) (turn : Turn) (call : StartCall) : Prop :=
  ∃ id browser options engine, turn.move = .begin id browser options ∧
    system.engine.prepare id browser options = .ok (call, engine)

/-- A turn ends the wait of a start and gives it a new id for its run. -/
def Gives (system : System) (turn : Turn) (call : StartCall) (runId : String) : Prop :=
  (∃ index installed, turn.move = .conclude index installed ∧
    system.waiting[index]? = some call) ∧
  ∃ number, system.engine.store.minted ≤ number ∧ runId = Store.idOf number

/-- A call of the store that a turn makes. -/
inductive Makes (system : System) (turn : Turn) (store : Store) : Store.Operation → Prop where
  | tame {operation : Store.Operation} (tame : operation.IsTame) : Makes system turn store operation
  | creates {projectId title : String} {lines : List String} {drafts : List StepDraft}
      (read : StepDraft.ofLines lines = .ok drafts) :
      Makes system turn store (.createTestCase turn.now projectId title drafts)
  | rewrites {id : String} {lines : List String} {drafts : List StepDraft} {steps : List Step}
      (move : turn.move = .updateSteps id lines) (read : StepDraft.ofLines lines = .ok drafts)
      (answer : (system.engine.updateSteps turn.now id lines).1 = .ok steps) :
      Makes system turn store (.replaceSteps turn.now id drafts)
  | inserts {call : StartCall} {number : Nat} (early : number < store.minted)
      (gives : system.Gives turn call (Store.idOf number)) :
      Makes system turn store (.insertRun (Engine.queuedRun (Store.idOf number) call turn.now))
  | withdraws {number : Nat} (new : system.engine.store.minted ≤ number) :
      Makes system turn store (.deleteQueuedRun (Store.idOf number))
  | begins {task : RunTask} {step : Step} {rest : List Step} {number : Nat}
      (among : task ∈ system.engine.tasks) (stage : task.stage = .ready (step :: rest))
      (same : store.tables = system.engine.store.tables) (early : number < store.minted) :
      Makes system turn store
        (.insertResult (Engine.pendingResult (Store.idOf number) task.run step turn.now))

/-- An engine that a turn comes to before it creates a task. -/
structure Reaches (system : System) (turn : Turn) (engine : Engine) : Prop where
  calls : system.engine.store.Comes (system.Makes turn) engine.store
  errands : engine.errands = system.engine.errands

/-- What a turn makes of a system, whatever the disk refuses. -/
structure Turns (system : System) (turn : Turn) (later : System) : Prop where
  calls : system.engine.store.Comes (system.Makes turn) later.engine.store
  /-- A new task has the steps of the start whose wait is over. -/
  errands : ∀ errand ∈ later.engine.errands, errand ∈ system.engine.errands ∨
    ∃ call, system.Gives turn call errand.1 ∧ errand.2 = call.steps
  waiting : ∀ call ∈ later.waiting, call ∈ system.waiting ∨ system.Reads turn call

variable {system : System} {turn : Turn} {engine after : Engine}

namespace Reaches

section Pieces

theorem refl : system.Reaches turn system.engine := ⟨.refl, rfl⟩

/-- A change that concerns neither the store nor the tasks. -/
theorem of_same (reaches : system.Reaches turn engine) (store : after.store = engine.store)
    (tasks : after.tasks = engine.tasks) : system.Reaches turn after where
  calls := store ▸ reaches.calls
  errands := by
    rw [Engine.errands, tasks]
    exact reaches.errands

/-- The engine that comes with an answer is the one after the call. -/
theorem of_eq {Answer : Type} {outcome : Answer × Engine} {answer : Answer}
    (reaches : system.Reaches turn outcome.2) (same : outcome = (answer, after)) :
    system.Reaches turn after := by
  rw [same] at reaches
  exact reaches

theorem call (reaches : system.Reaches turn engine) {operation : Store.Operation}
    (made : system.Makes turn engine.store operation)
    (store : after.store = engine.store.perform operation) (tasks : after.tasks = engine.tasks) :
    system.Reaches turn after where
  calls := store ▸ reaches.calls.call made
  errands := by
    rw [Engine.errands, tasks]
    exact reaches.errands

theorem write {α : Type} {change : Store → Except StoreError (α × Store)}
    (reaches : system.Reaches turn engine) (operation : Store.Operation)
    (accords : engine.store.accepting ((change engine.store).map Prod.snd) =
      engine.store.perform operation) (made : system.Makes turn engine.store operation) :
    system.Reaches turn (engine.write change).2 := by
  cases condition : engine.refusals.headD false with
  | true =>
    rw [Engine.write_of_faulty condition]
    exact reaches.of_same rfl rfl
  | false =>
    rw [Engine.write_of_healthy condition]
    exact reaches.call made accords rfl

theorem writeOnly {change : Store → Except StoreError Store} (reaches : system.Reaches turn engine)
    (operation : Store.Operation)
    (accords : engine.store.accepting (change engine.store) = engine.store.perform operation)
    (made : system.Makes turn engine.store operation) :
    system.Reaches turn (engine.writeOnly change).2 := by
  refine reaches.write operation ?_ made
  rw [← accords]
  cases change engine.store <;> rfl

theorem mint (reaches : system.Reaches turn engine) : system.Reaches turn engine.mint.2 := by
  have made : system.Makes turn engine.store .mint := .tame trivial
  exact reaches.call made rfl rfl

theorem updateTask (reaches : system.Reaches turn engine) (number : Nat)
    {change : RunTask → RunTask} (same : ∀ task, (change task).errand = task.errand) :
    system.Reaches turn (engine.updateTask number change) where
  calls := reaches.calls
  errands := (engine.map_updateTask RunTask.errand number same).trans reaches.errands

theorem setStage (reaches : system.Reaches turn engine) (number : Nat) (stage : Stage) :
    system.Reaches turn (engine.setStage number stage) :=
  reaches.updateTask number fun _ => rfl

end Pieces

section Runs

variable {number : Nat} {task : RunTask}

theorem finalize (reaches : system.Reaches turn engine) (fatal : Option String) (failed : Bool)
    (now : Int) : system.Reaches turn (engine.finalize number task fatal failed now) := by
  unfold Engine.finalize
  have moves {status : RunStatus} :
      system.Reaches turn (engine.write (·.moveRun now task.run.id status fatal)).2 :=
    reaches.write (.moveRun now task.run.id status fatal) rfl (.tame trivial)
  apply setStage
  exact moves.of_same rfl rfl

/-- A step that begins is the next one of its task. -/
theorem beginStep (among : task ∈ system.engine.tasks) {step : Step} {rest : List Step}
    (stage : task.stage = .ready (step :: rest)) :
    system.Reaches turn (system.engine.beginStep number task step rest turn.now) := by
  unfold Engine.beginStep
  simp only
  have inserts : system.Reaches turn (system.engine.mint.2.writeOnly
      (·.insertResult (Engine.pendingResult system.engine.mint.1 task.run step turn.now))).2 :=
    refl.mint.writeOnly
      (.insertResult (Engine.pendingResult system.engine.mint.1 task.run step turn.now)) rfl
      (.begins among stage rfl (Nat.lt_succ_self _))
  split
  · next outcome => exact (inserts.of_eq outcome).setStage number _
  · next outcome =>
    have inserted := inserts.of_eq outcome
    split
    · apply setStage
      exact inserted.of_same rfl rfl
    · apply setStage
      exact inserted.of_same rfl rfl

theorem endStep (reaches : system.Reaches turn engine) (result : StepResult)
    (failure path : Option String) (rest : List Step) (now : Int) :
    system.Reaches turn (engine.endStep number task result failure path rest now) := by
  unfold Engine.endStep
  simp only
  have finishes {outcome : StepResult} :
      system.Reaches turn (engine.writeOnly (·.finishResult outcome)).2 :=
    reaches.writeOnly (.finishResult outcome) rfl (.tame trivial)
  split
  · next outcome => exact (finishes.of_eq outcome).setStage number _
  · next outcome =>
    have finished := finishes.of_eq outcome
    refine updateTask ?_ number fun _ => rfl
    exact finished.of_same rfl rfl

/-- The next stage of a run. -/
theorem proceed (session : Session) (number : Nat) :
    system.Reaches turn (system.engine.proceed session number turn.now) := by
  have still : system.Reaches turn system.engine := refl
  unfold Engine.proceed
  split
  · exact still
  · next task found =>
    have among : task ∈ system.engine.tasks := List.mem_of_getElem? found
    cases stage : task.stage with
    | launching =>
      simp only [Engine.launched, found, stage]
      split
      · exact still.finalize _ _ _
      · exact still.setStage number _
    | ready rest =>
      simp only [Engine.advance, found, stage]
      cases rest with
      | nil => exact still.setStage number _
      | cons step rest =>
        simp only
        split
        · exact still.setStage number _
        · exact beginStep among stage
    | acting result action rest =>
      simp only [Engine.acted, found, stage]
      exact still.setStage number _
    | photographing result failure rest =>
      simp only [Engine.photographed, found, stage]
      split
      · exact still.setStage number _
      · exact still.endStep _ _ _ _ _
    | storing result failure picture rest =>
      simp only [Engine.stored, found, stage]
      apply endStep
      exact still.of_same rfl rfl
    | closing fault =>
      simp only [Engine.closed, found, stage]
      cases fault with
      | none => exact still.finalize _ _ _
      | some fault =>
        have fails : system.Reaches turn
            (system.engine.writeAlways (·.failPending turn.now task.run.id fault)).2 :=
          still.write (.failPending turn.now task.run.id fault) rfl (.tame trivial)
        exact fails.finalize _ _ _
    | ended run => exact still
    | panicked => exact still

end Runs

section Catalogue

theorem createProject (name : String) :
    system.Reaches turn (system.engine.createProject turn.now name).2 :=
  refl.write (.createProject turn.now name) rfl (.tame trivial)

theorem createTestCase (projectId title : String) (lines : List String) :
    system.Reaches turn (system.engine.createTestCase turn.now projectId title lines).2 := by
  unfold Engine.createTestCase
  split
  · exact refl
  · next drafts read =>
    exact refl.write (.createTestCase turn.now projectId title drafts) rfl (.creates read)

/-- A script is written only if the answer says so. -/
theorem updateSteps {id : String} {lines : List String} (move : turn.move = .updateSteps id lines) :
    system.Reaches turn (system.engine.updateSteps turn.now id lines).2 := by
  cases read : StepDraft.ofLines lines with
  | error complaint =>
    simp only [Engine.updateSteps, read]
    exact refl
  | ok drafts =>
    have outcome : system.engine.updateSteps turn.now id lines =
        Engine.answered (system.engine.write (·.replaceSteps turn.now id drafts)) := by
      simp only [Engine.updateSteps, read]
    rcases system.engine.write_cases (·.replaceSteps turn.now id drafts) with
      ⟨error, refused⟩ | ⟨steps, store, -, replaced, written⟩
    · rw [outcome, refused]
      exact refl.of_same rfl rfl
    · have answer : (system.engine.updateSteps turn.now id lines).1 = .ok steps := by
        rw [outcome, written]
        rfl
      rw [outcome, written]
      refine refl.call (.rewrites move read answer) ?_ rfl
      rw [Store.perform, replaced]
      rfl

theorem delete {remove : Store → Bool × Store} (operation : Store.Operation)
    (tame : operation.IsTame)
    (accords : (remove system.engine.store).2 = system.engine.store.perform operation)
    (check : Except EngineError Unit) (missing : EngineError) (runIds : List String) :
    system.Reaches turn (system.engine.delete check missing runIds remove).2 := by
  unfold Engine.delete
  have removes : system.Reaches turn (system.engine.writeAlways remove).2 :=
    refl.write operation accords (.tame tame)
  split
  · exact refl
  · split
    · next outcome => exact removes.of_eq outcome
    · next outcome => exact removes.of_eq outcome
    · next outcome => exact (removes.of_eq outcome).of_same rfl rfl

end Catalogue

section Starts

variable {call : StartCall}

/-- A start that is completed may store its run, and may withdraw it again. -/
theorem storeRun {index : Nat} {installed : Except String Unit}
    (move : turn.move = .conclude index installed) (waits : system.waiting[index]? = some call) :
    system.Reaches turn (system.engine.storeRun call turn.now).2 := by
  unfold Engine.storeRun
  simp only
  have inserts : system.Reaches turn (system.engine.mint.2.writeOnly
      (·.insertRun (Engine.queuedRun system.engine.mint.1 call turn.now))).2 :=
    refl.mint.writeOnly (.insertRun (Engine.queuedRun system.engine.mint.1 call turn.now)) rfl
      (.inserts (Nat.lt_succ_self _) ⟨⟨index, installed, move, waits⟩, _, le_rfl, rfl⟩)
  split
  · next outcome => exact inserts.of_eq outcome
  · next middle outcome =>
    have moves : system.Reaches turn
        (middle.write (·.moveRun turn.now system.engine.mint.1 .running none)).2 :=
      (inserts.of_eq outcome).write (.moveRun turn.now system.engine.mint.1 .running none) rfl
        (.tame trivial)
    split
    · next outcome =>
      exact (moves.of_eq outcome).write (.deleteQueuedRun system.engine.mint.1) rfl
        (.withdraws le_rfl)
    · next outcome => exact moves.of_eq outcome

end Starts

end Reaches

namespace Turns

/-- A turn that creates no task and lets nobody wait. -/
theorem of_reaches (reaches : system.Reaches turn engine) {waiting : List StartCall}
    (fewer : waiting ⊆ system.waiting) : system.Turns turn ⟨engine, waiting⟩ where
  calls := reaches.calls
  errands := fun _ among => .inl (reaches.errands ▸ among)
  waiting := fun _ among => .inl (fewer among)

/-- A run that a start has stored has the id that was handed out for it. -/
theorem id_of_stored {call : StartCall} {now : Int} {run : Run}
    (stores : engine.storeRun call now = (.ok run, after)) :
    run.id = Store.idOf engine.store.minted := by
  rcases Engine.storeRun_writes engine call now with ⟨error, refusals, fails⟩ |
    ⟨store, refusals, -, ⟨error, fails⟩ | ⟨other, moves, outcome⟩⟩
  · rw [stores] at fails
    cases fails
  · rw [stores] at fails
    cases fails
  · rw [stores] at outcome
    obtain rfl := Except.ok.inj (Prod.mk.inj outcome).1
    exact Engine.id_of_moved (Prod.ext moves rfl)

/-- A start that ends its wait leaves at most one new task, for its steps. -/
theorem conclude {call : StartCall} {index : Nat} {installed : Except String Unit}
    (move : turn.move = .conclude index installed) (waits : system.waiting[index]? = some call) :
    system.Turns turn
      ⟨(system.engine.conclude call installed turn.now).2, system.waiting.eraseIdx index⟩ := by
  have fewer : system.waiting.eraseIdx index ⊆ system.waiting :=
    (List.eraseIdx_sublist _ _).subset
  have reaches : system.Reaches turn (system.engine.storeRun call turn.now).2 :=
    .storeRun move waits
  unfold Engine.conclude
  split
  · refine of_reaches ?_ fewer
    exact Reaches.refl.of_same rfl rfl
  · split
    · next outcome =>
      refine of_reaches ?_ fewer
      exact (reaches.of_eq outcome).of_same rfl rfl
    · next run after outcome =>
      have stored := reaches.of_eq outcome
      refine ⟨stored.calls, fun errand among => ?_, fun call among => .inl (fewer among)⟩
      have tasks : errand ∈ after.errands ++ [(run.id, call.steps)] := by
        simpa [Engine.errands, Engine.spawn, Engine.emit, RunTask.errand] using among
      rcases List.mem_append.1 tasks with old | new
      · exact .inl (stored.errands ▸ old)
      · obtain rfl := List.mem_singleton.1 new
        exact .inr ⟨call, ⟨⟨index, _, move, waits⟩, _, le_rfl, id_of_stored outcome⟩, rfl⟩

end Turns

/-- What each turn makes of a system. -/
theorem turns_step (sessions : Nat → Session) (system : System) (turn : Turn) :
    system.Turns turn (system.step sessions turn) := by
  have still {waiting : List StartCall} (fewer : waiting ⊆ system.waiting) :
      system.Turns turn ⟨system.engine, waiting⟩ :=
    .of_reaches .refl fewer
  have all : system.waiting ⊆ system.waiting := List.Subset.refl _
  obtain ⟨now, move⟩ := turn
  cases move with
  | begin testCaseId browser options =>
    simp only [System.step]
    split
    · next call engine prepared =>
      obtain ⟨-, -, -, -, -, -, registry, -, rfl⟩ := Engine.prepare_eq prepared
      refine ⟨.refl, fun errand among => .inl among, fun other waits => ?_⟩
      rcases List.mem_append.1 waits with old | new
      · exact .inl old
      · obtain rfl := List.mem_singleton.1 new
        exact .inr ⟨_, _, _, _, rfl, prepared⟩
    · exact still all
  | conclude index installed =>
    simp only [System.step]
    split
    · next call waits => exact .conclude rfl waits
    · exact still all
  | abandon index =>
    simp only [System.step]
    split
    · refine .of_reaches ?_ (List.eraseIdx_sublist _ _).subset
      exact Reaches.refl.of_same rfl rfl
    · exact still all
  | proceed number => exact .of_reaches (.proceed (sessions number) number) all
  | breakDown number =>
    simp only [System.step, System.change, Engine.brokeDown]
    split
    · exact still all
    · split
      · exact still all
      · refine .of_reaches (.setStage ?_ number _) all
        exact Reaches.refl.of_same rfl rfl
  | cancel runId =>
    refine .of_reaches ?_ all
    exact Reaches.refl.of_same rfl rfl
  | createProject name => exact .of_reaches (.createProject name) all
  | createTestCase projectId title lines =>
    exact .of_reaches (.createTestCase projectId title lines) all
  | updateSteps testCaseId lines => exact .of_reaches (.updateSteps rfl) all
  | deleteProject id => exact .of_reaches (.delete (.deleteProject id) trivial rfl _ _ _) all
  | deleteTestCase id => exact .of_reaches (.delete (.deleteTestCase id) trivial rfl _ _ _) all
  | read path variant =>
    refine .of_reaches ?_ all
    exact Reaches.refl.of_same rfl rfl
  | install change =>
    refine .of_reaches ?_ all
    exact Reaches.refl.of_same rfl rfl

end System

end StepRunner
