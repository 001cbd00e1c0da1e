import StepRunner.Engine.Catalog
import StepRunner.Engine.Run
import StepRunner.Engine.Start
import StepRunner.Proofs.Registry
import StepRunner.Proofs.Store.Sparing

/-!
This file computes what the pieces of a run do to an engine whose disk refuses no write.
-/

namespace StepRunner

namespace Engine

variable {engine : Engine}

/-- A write that the store accepts replaces the store. -/
theorem write_of_accepted {α : Type} (reliable : engine.refusals = [])
    {change : Store → Except StoreError (α × Store)} {value : α} {store : Store}
    (accepted : change engine.store = .ok (value, store)) :
    engine.write change = (.ok value, { engine with store }) := by
  simp [write, reliable, accepted]

/-- A write that the store refuses changes nothing. -/
theorem write_of_refused {α : Type} (reliable : engine.refusals = [])
    {change : Store → Except StoreError (α × Store)} {error : StoreError}
    (refused : change engine.store = .error error) :
    engine.write change = (.error error, engine) := by
  obtain ⟨store, registry, installs, artifacts, options, tasks, announcements, refusals⟩ := engine
  subst reliable
  simp_all [write]

theorem writeOnly_of_accepted (reliable : engine.refusals = [])
    {change : Store → Except StoreError Store} {store : Store}
    (accepted : change engine.store = .ok store) :
    engine.writeOnly change = (.ok (), { engine with store }) := by
  apply write_of_accepted reliable
  simp [accepted, Except.map]

theorem events_emit (event : RunEvent) : (engine.emit event).events = engine.events ++ [event] := by
  simp [events, emit]

section Starts

/-- The run that a start stores. -/
def startedRun (engine : Engine) (call : StartCall) (now : Int) : Run :=
  Store.moved (queuedRun engine.store.mint.1 call now) now .running none

/-- The store after a start has stored its run. -/
def startedStore (engine : Engine) (call : StartCall) (now : Int) : Store :=
  Store.writeMove
    ⟨{ engine.store.tables with
        runs := engine.store.tables.runs ++ [queuedRun engine.store.mint.1 call now] },
      engine.store.minted + 1⟩
    (engine.startedRun call now)

/-- A start of a test case that exists stores its run. -/
theorem storeRun_eq (reliable : engine.refusals = []) (sound : engine.store.Sound)
    {call : StartCall} {projectId : String}
    (owned : engine.store.tables.Owns projectId call.testCase.id) (now : Int) :
    engine.storeRun call now =
      (.ok (engine.startedRun call now),
        { engine with store := engine.startedStore call now }) := by
  obtain ⟨testCase, present, same, -⟩ := owned
  let run := queuedRun engine.store.mint.1 call now
  obtain ⟨inserted, later⟩ :=
    Store.insertRun_of_minted sound run rfl ⟨testCase, present, same⟩
  have added : run ∈ engine.store.tables.runs ++ [run] := by simp
  have edge : run.status.canMoveTo .running = true := rfl
  have moves := Store.moveRun_of_mem later added edge now none
  simp only [storeRun, mint]
  rw [writeOnly_of_accepted (by exact reliable) inserted]
  simp only
  rw [write_of_accepted (by exact reliable) moves]
  rfl

variable {call : StartCall} {now : Int}

@[simp] theorem startedRun_id : (engine.startedRun call now).id = Store.idOf engine.store.minted :=
  rfl

@[simp] theorem startedStore_results :
    (engine.startedStore call now).tables.results = engine.store.tables.results := rfl

theorem startedStore_sound (sound : engine.store.Sound) {projectId : String}
    (owned : engine.store.tables.Owns projectId call.testCase.id) :
    (engine.startedStore call now).Sound := by
  obtain ⟨testCase, present, same, -⟩ := owned
  exact (Store.insertRun_of_minted sound (queuedRun engine.store.mint.1 call now) rfl
    ⟨testCase, present, same⟩).2.writeMove _

theorem minted_notMem_runs (sound : engine.store.Sound) :
    Store.idOf engine.store.minted ∉ engine.store.tables.runs.map Run.id := by
  intro present
  exact sound.fresh _ le_rfl (by simp [Tables.ids, present])

/-- A start adds one run and changes no other. -/
theorem mem_startedStore_runs (sound : engine.store.Sound) {projectId : String}
    (owned : engine.store.tables.Owns projectId call.testCase.id) {row : Run} :
    row ∈ (engine.startedStore call now).tables.runs ↔
      row = engine.startedRun call now ∨ row ∈ engine.store.tables.runs := by
  obtain ⟨testCase, present, same, -⟩ := owned
  have later := (Store.insertRun_of_minted sound (queuedRun engine.store.mint.1 call now) rfl
    ⟨testCase, present, same⟩).2
  rw [startedStore, startedRun, Store.mem_runs_writeMove later (by simp)]
  refine or_congr_right ⟨?_, fun among => ⟨List.mem_append_left _ among, ?_⟩⟩
  · rintro ⟨among, other⟩
    rcases List.mem_append.1 among with old | added
    · exact old
    · exact absurd (congrArg Run.id (List.mem_singleton.1 added)) other
  · intro equal
    exact minted_notMem_runs sound (List.mem_map.2 ⟨row, among, equal⟩)

/-- A new run has no step results. -/
theorem startedStore_resultsOf (sound : engine.store.Sound) :
    (engine.startedStore call now).tables.resultsOf (engine.startedRun call now).id = [] := by
  simp only [Tables.resultsOf, startedStore_results, List.filter_eq_nil_iff, decide_eq_true_eq]
  intro result present same
  obtain ⟨run, among, named⟩ := sound.tables.linked.results result present
  exact minted_notMem_runs sound (List.mem_map.2 ⟨run, among, named.trans same⟩)

/-- The task of a run that has just started. -/
def startedTask (engine : Engine) (call : StartCall) (now : Int) : RunTask where
  run := engine.startedRun call now
  steps := call.steps
  options := call.options
  active := (engine.registry.activate call.reservation (engine.startedRun call now).id).1
  anyFailed := false
  stage := .launching

/-- The engine after a start. -/
def started (engine : Engine) (call : StartCall) (now : Int) : Engine :=
  let run := engine.startedRun call now
  let registry := (engine.registry.activate call.reservation run.id).2
  let told := { engine with store := engine.startedStore call now, registry }.emit
    (.runStarted run.id call.testCase.id call.browser)
  { told with tasks := engine.tasks ++ [engine.startedTask call now] }

/-- A start of a test case that exists gives a run once the browser engine is installed. -/
theorem conclude_of_installed (reliable : engine.refusals = []) (sound : engine.store.Sound)
    {projectId : String} (owned : engine.store.tables.Owns projectId call.testCase.id) :
    engine.conclude call (.ok ()) now =
      (.ok (engine.tasks.length, engine.startedRun call now), engine.started call now) := by
  simp only [conclude, storeRun_eq reliable sound owned now]
  rfl

end Starts

section Tasks

theorem task?_updateTask (number other : Nat) (change : RunTask → RunTask) :
    (engine.updateTask number change).task? other =
      if number = other then (engine.task? other).map change else engine.task? other := by
  simp only [task?, updateTask, List.getElem?_modify]
  split <;> simp

/-- What a change of a task keeps is the same for all tasks as before. -/
theorem map_updateTask {α : Type} (view : RunTask → α) (number : Nat) {change : RunTask → RunTask}
    (kept : ∀ task, view (change task) = view task) :
    (engine.updateTask number change).tasks.map view = engine.tasks.map view := by
  apply List.ext_getElem?
  intro index
  simp only [updateTask, List.getElem?_map, List.getElem?_modify]
  cases engine.tasks[index]? with
  | none => rfl
  | some task => by_cases same : number = index <;> simp [same, kept]

theorem map_run_updateTask (number : Nat) {change : RunTask → RunTask}
    (kept : ∀ task, (change task).run = task.run) :
    (engine.updateTask number change).tasks.map RunTask.run = engine.tasks.map RunTask.run :=
  engine.map_updateTask RunTask.run number kept

end Tasks

section Steps

/-- The pending result of a step that begins. -/
def begunResult (engine : Engine) (task : RunTask) (step : Step) (now : Int) : StepResult :=
  pendingResult engine.store.mint.1 task.run step now

/-- The store after a step has begun. -/
def begunStore (engine : Engine) (task : RunTask) (step : Step) (now : Int) : Store :=
  ⟨{ engine.store.tables with
      results := engine.store.tables.results ++ [engine.begunResult task step now] },
    engine.store.minted + 1⟩

/-- The stage of a step that has begun. -/
def begunStage (result : StepResult) (step : Step) (rest : List Step) : Stage :=
  match step.action? with
  | some action => .acting result action rest
  | none => .photographing result (some StepReading.blankMessage) rest

variable {task : RunTask} {number : Nat} {now : Int}

/-- The engine after a step has begun. -/
def begun (engine : Engine) (number : Nat) (task : RunTask) (step : Step) (rest : List Step)
    (now : Int) : Engine :=
  ({ engine with store := engine.begunStore task step now }.emit
    (.stepStarted task.run.id step.id step.order)).setStage number
      (begunStage (engine.begunResult task step now) step rest)

/-- A step of a stored run begins with a pending result. -/
theorem beginStep_eq (reliable : engine.refusals = []) (sound : engine.store.Sound)
    (stored : task.run ∈ engine.store.tables.runs) (step : Step) (rest : List Step) :
    engine.beginStep number task step rest now = engine.begun number task step rest now := by
  have inserted := (Store.insertResult_of_minted sound (engine.begunResult task step now) rfl
    ⟨task.run, stored, rfl⟩).1
  simp only [beginStep, mint]
  rw [writeOnly_of_accepted (by exact reliable) inserted]
  cases read : step.action? with
  | none => simp only [begun, begunStage, read]; rfl
  | some action => simp only [begun, begunStage, read]; rfl

theorem begunStore_sound (sound : engine.store.Sound)
    (stored : task.run ∈ engine.store.tables.runs) (step : Step) :
    (engine.begunStore task step now).Sound :=
  (Store.insertResult_of_minted sound (engine.begunResult task step now) rfl
    ⟨task.run, stored, rfl⟩).2

theorem begunStore_resultsOf (step : Step) :
    (engine.begunStore task step now).tables.resultsOf task.run.id =
      engine.store.tables.resultsOf task.run.id ++ [engine.begunResult task step now] := by
  have added := Store.resultsOf_append engine.store.tables task.run.id
    (engine.begunResult task step now)
  rw [if_pos (show (engine.begunResult task step now).runId = task.run.id from rfl)] at added
  exact added

/-- The result of a step with its outcome. -/
def decidedResult (cancelled : Bool) (result : StepResult) (failure path : Option String)
    (now : Int) : StepResult :=
  { result with
    status := stepStatus cancelled failure.isSome
    errorText := if stepStatus cancelled failure.isSome = .failed then failure else none
    screenshotPath := path
    endedAt := some now }

/-- The task of a run after a step with an outcome. -/
def afterStep (status : StepStatus) (rest : List Step) (task : RunTask) : RunTask :=
  { task with
    anyFailed := task.anyFailed || status = .failed
    stage := stageAfter task.options status rest }

/-- The engine after a step of a run has ended with an outcome in a store. -/
def decided (engine : Engine) (number : Nat) (task : RunTask) (outcome : StepResult)
    (rest : List Step) (store : Store) : Engine :=
  ({ engine with store }.emit
    (.stepFinished task.run.id outcome.stepId outcome.order outcome.status)).updateTask number
      (afterStep outcome.status rest)

/-- A step whose result is the last one of its run, and pending, ends with its outcome. -/
theorem endStep_eq (reliable : engine.refusals = []) (sound : engine.store.Sound) (number : Nat)
    (task : RunTask) {result : StepResult} {finished : List StepResult}
    (rows : engine.store.tables.resultsOf result.runId = finished ++ [result])
    (decided : ∀ row ∈ finished, row.status ≠ .pending) (pending : result.status = .pending)
    (failure path : Option String) (rest : List Step) (now : Int) :
    let outcome :=
      decidedResult (engine.registry.cancelRequested task.active) result failure path now
    ∃ store : Store,
      engine.endStep number task result failure path rest now =
        engine.decided number task outcome rest store ∧
      store.Sound ∧ store.minted = engine.store.minted ∧
      store.tables.testCases = engine.store.tables.testCases ∧
      store.tables.runs = engine.store.tables.runs ∧
      store.tables.resultsOf result.runId = finished ++ [outcome] := by
  intro outcome
  have same : outcome.id = result.id := rfl
  obtain ⟨store, accepted, after, minted, testCases, runs, results⟩ :=
    Store.finishResult_of_pending sound rows decided pending same
  refine ⟨store, ?_, after, minted, testCases, runs, results⟩
  have written : engine.writeOnly (·.finishResult outcome) = (.ok (), { engine with store }) :=
    writeOnly_of_accepted reliable accepted
  simp only [outcome, decidedResult] at written
  simp only [endStep, written]
  rfl

end Steps

section Ends

variable {task : RunTask} {number : Nat}

/-- The run of a task at its end. -/
def endedRun (engine : Engine) (task : RunTask) (fatal : Option String) (failed : Bool)
    (now : Int) : Run :=
  Store.moved task.run now
    (finalStatus (engine.registry.cancelRequested task.active) (fatal.isSome || failed)) fatal

theorem finalStatus_isTerminal (cancelled failed : Bool) :
    (finalStatus cancelled failed).isTerminal = true := by
  cases cancelled <;> cases failed <;> rfl

/-- The engine after a run has ended. -/
def ended (engine : Engine) (number : Nat) (task : RunTask) (fatal : Option String)
    (failed : Bool) (now : Int) : Engine :=
  let run := engine.endedRun task fatal failed now
  let store := engine.store.writeMove run
  ({ engine with store, registry := engine.registry.freed }.emit
    (.runFinished task.run.id run.status)).setStage number (.ended run)

/-- The run that has the slot ends: its end is stored and the slot is free. -/
theorem finalize_eq (reliable : engine.refusals = []) (sound : engine.store.Sound)
    (stored : task.run ∈ engine.store.tables.runs) (running : task.run.status = .running)
    (held : engine.registry.slot = .active task.active.ticket task.active.context)
    (fatal : Option String) (failed : Bool) (now : Int) :
    engine.finalize number task fatal failed now = engine.ended number task fatal failed now := by
  let status :=
    finalStatus (engine.registry.cancelRequested task.active) (fatal.isSome || failed)
  let run := engine.endedRun task fatal failed now
  have edge : task.run.status.canMoveTo status = true := by
    rw [running]
    exact RunStatus.running_canMoveTo (finalStatus_isTerminal _ _)
  have moves : engine.write (·.moveRun now task.run.id status fatal) =
      (.ok run, { engine with store := engine.store.writeMove run }) :=
    write_of_accepted reliable (Store.moveRun_of_mem sound stored edge now fatal)
  simp only [status] at moves
  simp only [finalize, moves, Registry.finish_of_held held]
  rfl

end Ends

end Engine

end StepRunner
