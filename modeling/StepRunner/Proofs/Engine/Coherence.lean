import StepRunner.Proofs.Engine.Frames
import StepRunner.Proofs.Store.Results

/-!
This file relates the tasks of an engine to what the store has recorded of their runs.
The relation stays in every piece of a run, whatever the disk refuses.
-/

namespace StepRunner

/-- The steps that a task has not begun come after those that have a result. -/
structure RunTask.Tracks (task : RunTask) (store : Store) : Prop where
  numbered : task.steps.map Step.order = List.range' 1 task.steps.length
  minted : ∃ number < store.minted, task.run.id = Store.idOf number
  rest : task.run.id ∈ store.tables.runs.map Run.id → ∀ rest ∈ task.rest?,
    rest = task.steps.drop (store.tables.resultsOf task.run.id).length

/-- A call neither adds a result to a run nor takes results from it, unless the run goes too. -/
def Store.Operation.Spares (runId : String) : Store.Operation → Prop
  | .insertRun run => run.id ≠ runId
  | .insertResult result => result.runId ≠ runId
  | .deleteQueuedRun id => id ≠ runId
  | _ => True

/-- The store is faithful, and each task has a run of its own that it tracks. -/
structure Coherent (store : Store) (tasks : List RunTask) : Prop where
  faithful : store.Faithful
  apart : (tasks.map (·.run.id)).Nodup
  tracks : ∀ task ∈ tasks, task.Tracks store

variable {store after : Store} {tasks : List RunTask} {task : RunTask} {number : Nat}

section Calls

/-- A task tracks its run through the calls that spare the run. -/
theorem RunTask.Tracks.perform (tracks : task.Tracks store) (sound : store.tables.Sound)
    {operation : Store.Operation} (spares : operation.Spares task.run.id) :
    task.Tracks (store.perform operation) where
  numbered := tracks.numbered
  minted := by
    obtain ⟨number, early, same⟩ := tracks.minted
    exact ⟨number, early.trans_le (Store.minted_le_perform store operation), same⟩
  rest present := by
    have before : task.run.id ∈ store.tables.runs.map Run.id := by
      obtain ⟨row, among, same⟩ := List.mem_map.1 present
      rcases (Store.alters_perform sound operation).origin row among with
        ⟨run, stored, changes⟩ | ⟨rfl, -⟩
      · exact List.mem_map.2 ⟨run, stored, changes.id_eq.symm.trans same⟩
      · exact absurd same spares
    have lengths : ((store.perform operation).tables.resultsOf task.run.id).length =
        (store.tables.resultsOf task.run.id).length := by
      cases Store.leaves_perform sound operation task.run.id with
      | kept orders => simpa using congrArg List.length orders
      | added result call own results =>
        subst call
        exact absurd own spares
      | cleared results gone =>
        rcases gone with gone | rfl
        · exact absurd present gone
        · exact absurd rfl spares
    rw [lengths]
    exact tracks.rest before

/-- A fitting call that spares the runs of all tasks keeps an engine coherent. -/
theorem Coherent.perform (coherent : Coherent store tasks) (operation : Store.Operation)
    (fits : operation.Fits store.tables)
    (spares : ∀ task ∈ tasks, operation.Spares task.run.id) :
    Coherent (store.perform operation) tasks where
  faithful := coherent.faithful.perform fits
  apart := coherent.apart
  tracks task present :=
    (coherent.tracks task present).perform coherent.faithful.sound (spares task present)

/-- A task goes on while the other tasks track their runs. -/
theorem Coherent.modify (coherent : Coherent store tasks) (found : tasks[number]? = some task)
    {change : RunTask → RunTask} (faithful : after.Faithful)
    (others : ∀ other ∈ tasks, other.run.id ≠ task.run.id → other.Tracks after)
    (sameRun : (change task).run = task.run) (own : (change task).Tracks after) :
    Coherent after (tasks.modify number change) := by
  obtain ⟨inside, held⟩ := List.getElem?_eq_some_iff.1 found
  have ids : (tasks.modify number change).map (·.run.id) = tasks.map (·.run.id) := by
    apply List.ext_getElem?
    intro index
    rw [List.getElem?_map, List.getElem?_map, List.getElem?_modify]
    by_cases same : number = index
    · subst same
      simp [found, sameRun]
    · simp [same]
  refine ⟨faithful, ids ▸ coherent.apart, fun other present => ?_⟩
  obtain ⟨index, placed⟩ := List.mem_iff_getElem?.1 present
  rw [List.getElem?_modify] at placed
  by_cases same : number = index
  · subst same
    have changed : change task = other := by simpa [found] using placed
    exact changed ▸ own
  · have stays : tasks[index]? = some other := by simpa [same] using placed
    refine others other (List.mem_of_getElem? stays) fun equal => same ?_
    -- Two tasks at different places have different runs.
    have first : (tasks.map (·.run.id))[number]? = some task.run.id := by simp [found]
    have second : (tasks.map (·.run.id))[index]? = some task.run.id := by simp [stays, equal]
    exact (List.getElem?_inj (by simpa using inside) coherent.apart).1 (first.trans second.symm)

/-- A task goes on in a store that stays as it is. -/
theorem Coherent.updateTask (coherent : Coherent store tasks) (found : tasks[number]? = some task)
    {change : RunTask → RunTask} (sameRun : (change task).run = task.run)
    (own : (change task).Tracks store) : Coherent store (tasks.modify number change) :=
  coherent.modify found coherent.faithful (fun other present _ => coherent.tracks other present)
    sameRun own

/-- A task that stays at the same steps tracks its run as before. -/
theorem RunTask.Tracks.of_rest (tracks : task.Tracks store) {next : RunTask}
    (steps : next.steps = task.steps) (run : next.run.id = task.run.id)
    (rest : ∀ rest ∈ next.rest?, rest ∈ task.rest?) : next.Tracks store where
  numbered := by
    rw [steps]
    exact tracks.numbered
  minted := by
    rw [run]
    exact tracks.minted
  rest := by
    rw [steps, run]
    exact fun present left among => tracks.rest present left (rest left among)

/-- A new task with a run of its own joins the others. -/
theorem Coherent.add (coherent : Coherent store tasks) (tracks : task.Tracks store)
    (new : ∀ other ∈ tasks, other.run.id ≠ task.run.id) : Coherent store (tasks ++ [task]) where
  faithful := coherent.faithful
  apart := by
    rw [List.map_append, List.map_singleton]
    refine List.nodup_append.2 ⟨coherent.apart, List.nodup_singleton _, ?_⟩
    intro id present other same
    obtain ⟨holder, among, rfl⟩ := List.mem_map.1 present
    rw [List.mem_singleton.1 same]
    exact new holder among
  tracks other present := by
    rcases List.mem_append.1 present with old | added
    · exact coherent.tracks other old
    · obtain rfl := List.mem_singleton.1 added
      exact tracks

end Calls

section Newcomers

variable {run : Run}

/-- A new task tracks the run that is inserted for it. -/
theorem RunTask.Tracks.of_inserted (sound : store.tables.Sound)
    (inserted : store.insertRun run = .ok after) (same : task.run.id = run.id)
    (stage : task.stage = .launching)
    (numbered : task.steps.map Step.order = List.range' 1 task.steps.length)
    (minted : ∃ number < store.minted, task.run.id = Store.idOf number) : task.Tracks after := by
  obtain ⟨new, -, rfl⟩ := Store.insertRun_eq inserted
  refine ⟨numbered, minted, fun _ rest left => ?_⟩
  have none : store.tables.resultsOf task.run.id = [] := by
    simp only [Tables.resultsOf, List.filter_eq_nil_iff, decide_eq_true_eq]
    intro result present own
    obtain ⟨owner, among, named⟩ := sound.linked.results result present
    exact new (List.mem_map.2 ⟨owner, among, named.trans (own.trans same)⟩)
  have whole : rest = task.steps := by simpa [rest?, stage, eq_comm] using left
  have results : (store.withTables
      { store.tables with runs := store.tables.runs ++ [run] }).tables.resultsOf task.run.id =
        store.tables.resultsOf task.run.id := rfl
  rw [results, none, List.length_nil, List.drop_zero, whole]

/-- The step that begins next has the number after those of the results. -/
theorem RunTask.Tracks.order_eq (tracks : task.Tracks store)
    (present : task.run.id ∈ store.tables.runs.map Run.id) {step : Step} {rest : List Step}
    (left : task.rest? = some (step :: rest)) :
    step.order = (store.tables.resultsOf task.run.id).length + 1 := by
  have next : task.steps[(store.tables.resultsOf task.run.id).length]? = some step := by
    rw [← List.head?_drop, ← tracks.rest present _ left]
    rfl
  have order := congrArg (·[(store.tables.resultsOf task.run.id).length]?) tracks.numbered
  obtain ⟨inside, rfl⟩ := List.getElem?_eq_some_iff.1 next
  simpa [inside, Nat.add_comm] using order

/-- A task that begins a step tracks its run with the result of the step. -/
theorem RunTask.Tracks.begun (tracks : task.Tracks store) {result : StepResult}
    (inserted : store.insertResult result = .ok after) (own : result.runId = task.run.id)
    {step : Step} {rest : List Step} (left : task.rest? = some (step :: rest)) {stage : Stage}
    (goes : rest? { task with stage } = some rest) : Tracks { task with stage } after := by
  obtain ⟨-, -, rfl⟩ := Store.insertResult_eq inserted
  refine ⟨tracks.numbered, tracks.minted, fun present next among => ?_⟩
  have before := tracks.rest present _ left
  have rows := Store.resultsOf_append store.tables task.run.id result
  rw [if_pos own] at rows
  obtain rfl : rest = next := Option.some.inj (goes.symm.trans among)
  change rest = task.steps.drop (Tables.resultsOf _ task.run.id).length
  rw [Store.withTables, rows, List.length_append, List.length_singleton, ← List.tail_drop, ← before]
  rfl

end Newcomers

section Writes

variable {engine after : Engine} {α : Type} {change : Store → Except StoreError (α × Store)}

/-- A write that does what a fitting call does keeps an engine coherent, refused or not. -/
theorem Coherent.write (coherent : Coherent engine.store tasks) (operation : Store.Operation)
    (accords : engine.store.accepting ((change engine.store).map Prod.snd) =
      engine.store.perform operation) (fits : operation.Fits engine.store.tables)
    (spares : ∀ task ∈ tasks, operation.Spares task.run.id) :
    Coherent (engine.write change).2.store tasks := by
  cases condition : engine.refusals.headD false with
  | true =>
    rw [Engine.write_of_faulty condition]
    exact coherent
  | false =>
    rw [Engine.write_of_healthy condition, accords]
    exact coherent.perform operation fits spares

theorem Store.accepting_eq {outcome : Except StoreError Store} {after : Store}
    (accepted : outcome = .ok after) : store.accepting outcome = after := by
  rw [accepted]
  rfl

/-- A write leaves the tasks alone. -/
@[simp] theorem Engine.tasks_write : (engine.write change).2.tasks = engine.tasks := by
  cases condition : engine.refusals.headD false with
  | true => rw [write_of_faulty condition]
  | false => rw [write_of_healthy condition]

/-- A write that gives a value is a call that the store accepts. -/
theorem Engine.write_eq_ok {value : α} (writes : engine.write change = (.ok value, after)) :
    ∃ store, change engine.store = .ok (value, store) := by
  cases condition : engine.refusals.headD false with
  | true =>
    rw [write_of_faulty condition] at writes
    cases writes
  | false =>
    rw [write_of_healthy condition] at writes
    obtain ⟨⟨found, store⟩, accepted, rfl⟩ := map_eq_ok_iff.1 (Prod.mk.inj writes).1
    exact ⟨store, accepted⟩

theorem Coherent.createTestCase (coherent : Coherent engine.store tasks) (now : Int)
    (projectId title : String) (lines : List String) :
    Coherent (engine.createTestCase now projectId title lines).2.store tasks := by
  unfold Engine.createTestCase
  split
  · exact coherent
  · next drafts _ =>
    exact coherent.write (.createTestCase now projectId title drafts) rfl trivial
      fun _ _ => trivial

theorem Coherent.updateSteps (coherent : Coherent engine.store tasks) (now : Int)
    (testCaseId : String) (lines : List String) :
    Coherent (engine.updateSteps now testCaseId lines).2.store tasks := by
  unfold Engine.updateSteps
  split
  · exact coherent
  · next drafts _ =>
    exact coherent.write (.replaceSteps now testCaseId drafts) rfl trivial fun _ _ => trivial

/-- A deletion keeps an engine coherent, whether it is allowed or not. -/
theorem Coherent.delete (coherent : Coherent engine.store tasks) (operation : Store.Operation)
    {remove : Store → Bool × Store}
    (accords : (remove engine.store).2 = engine.store.perform operation)
    (fits : operation.Fits engine.store.tables)
    (spares : ∀ task ∈ tasks, operation.Spares task.run.id) (check : Except EngineError Unit)
    (missing : EngineError) (runIds : List String) :
    Coherent (engine.delete check missing runIds remove).2.store tasks := by
  have removed : Coherent (engine.writeAlways remove).2.store tasks :=
    coherent.write operation accords fits spares
  unfold Engine.delete
  split
  · exact coherent
  · split
    · next outcome =>
      rw [outcome] at removed
      exact removed
    · next outcome =>
      rw [outcome] at removed
      exact removed
    · next outcome =>
      rw [outcome] at removed
      exact removed

end Writes

section Starts

variable {engine after : Engine} {call : StartCall} {now : Int}

theorem Coherent.mint (coherent : Coherent engine.store tasks) :
    Coherent engine.mint.2.store tasks :=
  coherent.perform .mint trivial fun _ _ => trivial

/-- No task has a run with the id that is handed out next. -/
theorem Coherent.mint_ne (coherent : Coherent engine.store tasks) :
    ∀ task ∈ tasks, engine.mint.1 ≠ task.run.id := by
  intro task present same
  obtain ⟨number, early, own⟩ := (coherent.tracks task present).minted
  exact early.ne' (Store.idOf_injective (same.trans own))

/-- A run that is inserted makes room for a task. -/
theorem Coherent.inserted (coherent : Coherent engine.store tasks)
    (inserted : engine.mint.2.store.insertRun (Engine.queuedRun engine.mint.1 call now) =
      .ok store) :
    Coherent store tasks ∧ ∀ task : RunTask, task.run.id = engine.mint.1 →
      task.stage = .launching → task.steps.map Step.order = List.range' 1 task.steps.length →
        Coherent store (tasks ++ [task]) := by
  let run := Engine.queuedRun engine.mint.1 call now
  have same : engine.mint.2.store.perform (.insertRun run) = store :=
    Store.accepting_eq inserted
  have queued : Coherent store tasks :=
    same ▸ coherent.mint.perform (.insertRun run) ⟨rfl, rfl⟩ coherent.mint_ne
  refine ⟨queued, fun task own stage numbered => queued.add ?_ fun other among => ?_⟩
  · exact .of_inserted coherent.mint.faithful.sound inserted own stage numbered
      ⟨engine.store.minted, Nat.lt_succ_self _, own⟩
  · rw [own]
    exact (coherent.mint_ne other among).symm

/-- A run that is moved has the id that was asked for. -/
theorem Engine.id_of_moved {id : String} {next : RunStatus} {error : Option String} {run : Run}
    (moves : engine.write (·.moveRun now id next error) = (.ok run, after)) : run.id = id := by
  obtain ⟨store, accepted⟩ := write_eq_ok moves
  obtain ⟨old, found, -, rfl, -⟩ := Store.moveRun_eq accepted
  have named : old.id = id := by simpa using List.find?_some found
  exact named

/-- A start inserts its run and moves it on, or the run that cannot be moved is deleted again. -/
theorem Engine.storeRun_writes (engine : Engine) (call : StartCall) (now : Int) :
    (∃ error refusals,
      engine.storeRun call now = (.error error, { engine.mint.2 with refusals })) ∨
    ∃ store refusals, engine.mint.2.store.insertRun (queuedRun engine.mint.1 call now) = .ok store ∧
      let moved := ({ engine.mint.2 with store, refusals } : Engine).write
        (·.moveRun now engine.mint.1 .running none)
      (∃ error, engine.storeRun call now =
        (.error error, (moved.2.writeAlways (·.deleteQueuedRun engine.mint.1)).2)) ∨
      ∃ run, moved.1 = .ok run ∧ engine.storeRun call now = (.ok run, moved.2) := by
  unfold storeRun
  simp only
  rcases writeOnly_cases engine.mint.2 (·.insertRun (queuedRun engine.mint.1 call now)) with
    ⟨error, refused⟩ | ⟨store, -, inserted, accepted⟩
  · rw [refused]
    exact .inl ⟨_, _, rfl⟩
  · rw [accepted]
    refine .inr ⟨store, engine.mint.2.refusals.tail, inserted, ?_⟩
    simp only
    split
    · next error last outcome =>
      rw [outcome]
      exact .inl ⟨_, rfl⟩
    · next run last outcome =>
      rw [outcome]
      exact .inr ⟨run, rfl, rfl⟩

/-- A start that concludes keeps an engine coherent, whether it gives a run or not. -/
theorem Coherent.conclude (coherent : Coherent engine.store engine.tasks)
    (numbered : call.steps.map Step.order = List.range' 1 call.steps.length)
    (installed : Except String Unit) :
    Coherent (engine.conclude call installed now).2.store
      (engine.conclude call installed now).2.tasks := by
  have moved {engine : Engine} {tasks : List RunTask} {id : String}
      (coherent : Coherent engine.store tasks) :
      Coherent (engine.write (·.moveRun now id .running none)).2.store tasks :=
    coherent.write (.moveRun now id .running none) rfl trivial fun _ _ => trivial
  unfold Engine.conclude
  split
  · exact coherent
  · rcases Engine.storeRun_writes engine call now with ⟨error, refusals, outcome⟩ |
      ⟨store, refusals, inserted, ⟨error, outcome⟩ | ⟨run, given, outcome⟩⟩
    · rw [outcome]
      exact coherent.mint
    · rw [outcome]
      have queued := (coherent.inserted inserted).1
      simp only [Engine.abandon, Engine.writeAlways, Engine.tasks_write]
      exact (moved queued).write (.deleteQueuedRun engine.mint.1) rfl trivial coherent.mint_ne
    · rw [outcome]
      simp only [Engine.spawn, Engine.emit, Engine.tasks_write]
      -- The move keeps the tasks coherent together with the new one.
      refine moved ((coherent.inserted inserted).2 _ ?_ rfl numbered)
      exact Engine.id_of_moved (Prod.ext given rfl)

end Starts

section Tasks

variable {engine : Engine} {now : Int}

/-- A task goes on to a stage with no other steps left. -/
theorem Coherent.setStage (coherent : Coherent engine.store engine.tasks)
    (found : engine.task? number = some task) (stage : Stage)
    (rest : ∀ rest ∈ RunTask.rest? { task with stage }, rest ∈ task.rest?) :
    Coherent (engine.setStage number stage).store (engine.setStage number stage).tasks := by
  have tracks := coherent.tracks task (List.mem_of_getElem? found)
  have own : RunTask.Tracks { task with stage } engine.store := tracks.of_rest rfl rfl rest
  exact coherent.updateTask found rfl own

theorem Coherent.finalize (coherent : Coherent engine.store engine.tasks)
    (found : engine.task? number = some task) (fatal : Option String) (failed : Bool) :
    Coherent (engine.finalize number task fatal failed now).store
      (engine.finalize number task fatal failed now).tasks := by
  let status :=
    Engine.finalStatus (engine.registry.cancelRequested task.active) (fatal.isSome || failed)
  let moved := (engine.write (·.moveRun now task.run.id status fatal)).2
  have same : moved.tasks = engine.tasks := Engine.tasks_write
  have kept : Coherent moved.store moved.tasks := by
    rw [same]
    exact coherent.write (.moveRun now task.run.id status fatal) rfl trivial fun _ _ => trivial
  have still : moved.task? number = some task := by rw [Engine.task?, same, ← found, Engine.task?]
  exact kept.setStage still _ fun _ among => by cases among

/-- A step that begins gets the number after those of the results of its run. -/
theorem Coherent.beginStep (coherent : Coherent engine.store engine.tasks)
    (found : engine.task? number = some task) {step : Step} {rest : List Step}
    (stage : task.stage = .ready (step :: rest)) :
    Coherent (engine.beginStep number task step rest now).store
      (engine.beginStep number task step rest now).tasks := by
  let result := Engine.pendingResult engine.mint.1 task.run step now
  have minted : Coherent engine.mint.2.store engine.tasks := coherent.mint
  have tracks := minted.tracks task (List.mem_of_getElem? found)
  have left : task.rest? = some (step :: rest) := by simp [RunTask.rest?, stage]
  unfold Engine.beginStep
  simp only
  rcases Engine.writeOnly_cases engine.mint.2 (·.insertResult result) with
    ⟨error, refused⟩ | ⟨store, -, inserted, accepted⟩
  · rw [refused]
    exact minted.setStage found _ fun _ among => by cases among
  · rw [accepted]
    have fits : Store.Operation.Fits engine.mint.2.store.tables (.insertResult result) :=
      ⟨rfl, fun present => tracks.order_eq present left⟩
    have same : engine.mint.2.store.perform (.insertResult result) = store :=
      Store.accepting_eq inserted
    have begun {stage : Stage} (goes : RunTask.rest? { task with stage } = some rest) :
        Coherent store (engine.tasks.modify number fun task => { task with stage }) := by
      refine minted.modify found ?_ ?_ rfl ?_
      · exact same ▸ minted.faithful.perform fits
      · intro other among different
        rw [← same]
        exact (minted.tracks other among).perform minted.faithful.sound different.symm
      · exact tracks.begun inserted rfl left goes
    simp only
    split
    · exact begun rfl
    · exact begun rfl

/-- A step that ends is recorded with its end. -/
theorem Coherent.endStep (coherent : Coherent engine.store engine.tasks)
    (found : engine.task? number = some task) {result : StepResult} {failure path : Option String}
    {rest : List Step} (left : task.rest? = some rest) :
    Coherent (engine.endStep number task result failure path rest now).store
      (engine.endStep number task result failure path rest now).tasks := by
  let status := Engine.stepStatus (engine.registry.cancelRequested task.active) failure.isSome
  let outcome : StepResult :=
    { result with
      status
      errorText := if status = .failed then failure else none
      screenshotPath := path
      endedAt := some now }
  unfold Engine.endStep
  simp only
  rcases Engine.writeOnly_cases engine (·.finishResult outcome) with
    ⟨error, refused⟩ | ⟨store, -, finished, accepted⟩
  · rw [refused]
    exact coherent.setStage found _ nofun
  · rw [accepted]
    have same : engine.store.perform (.finishResult outcome) = store :=
      Store.accepting_eq finished
    have kept : Coherent store engine.tasks :=
      same ▸ coherent.perform (.finishResult outcome) rfl fun _ _ => trivial
    have tracks := kept.tracks task (List.mem_of_getElem? found)
    refine kept.updateTask found rfl (tracks.of_rest rfl rfl fun next among => ?_)
    rcases Engine.stageAfter_cases task.options status rest with goes | stops
    · have whole : rest = next := by simpa [RunTask.rest?, status, goes] using among
      exact whole ▸ left
    · simp [RunTask.rest?, status, stops] at among

/-- A task that goes on keeps an engine coherent, whatever its browser does. -/
theorem Coherent.proceed (coherent : Coherent engine.store engine.tasks) (session : Session)
    (number : Nat) (now : Int) :
    Coherent (engine.proceed session number now).store
      (engine.proceed session number now).tasks := by
  unfold Engine.proceed
  split
  · exact coherent
  · next task found =>
    cases stage : task.stage with
    | launching =>
      simp only [Engine.launched, found, stage]
      split
      · exact coherent.finalize found _ _
      · exact coherent.setStage found _ (by simp [RunTask.rest?, stage])
    | ready rest =>
      simp only [Engine.advance, found, stage]
      cases rest with
      | nil => exact coherent.setStage found _ fun _ among => by cases among
      | cons step rest =>
        simp only
        split
        · exact coherent.setStage found _ fun _ among => by cases among
        · exact coherent.beginStep found stage
    | acting result action rest =>
      simp only [Engine.acted, found, stage]
      exact coherent.setStage found _ (by simp [RunTask.rest?, stage])
    | photographing result failure rest =>
      simp only [Engine.photographed, found, stage]
      split
      · exact coherent.setStage found _ (by simp [RunTask.rest?, stage])
      · exact coherent.endStep found (by simp [RunTask.rest?, stage])
    | storing result failure picture rest =>
      simp only [Engine.stored, found, stage]
      have left : task.rest? = some rest := by simp [RunTask.rest?, stage]
      have kept (artifacts : Artifacts) :
          Coherent ({ engine with artifacts } : Engine).store engine.tasks := coherent
      exact (kept (engine.artifacts.capture task.run.id result.stepId picture).2).endStep found left
    | closing fault =>
      simp only [Engine.closed, found, stage]
      cases fault with
      | none => exact coherent.finalize found _ _
      | some fault =>
        have failed : Coherent (engine.writeAlways (·.failPending now task.run.id fault)).2.store
            (engine.writeAlways (·.failPending now task.run.id fault)).2.tasks := by
          rw [Engine.writeAlways, Engine.tasks_write]
          exact coherent.write (.failPending now task.run.id fault) rfl trivial fun _ _ => trivial
        refine failed.finalize ?_ _ _
        rw [Engine.task?, Engine.writeAlways, Engine.tasks_write]
        exact found
    | ended run => exact coherent
    | panicked => exact coherent

theorem Coherent.brokeDown (coherent : Coherent engine.store engine.tasks) (number : Nat) :
    Coherent (engine.brokeDown number).store (engine.brokeDown number).tasks := by
  unfold Engine.brokeDown
  split
  · exact coherent
  · next task found =>
    split
    · exact coherent
    · exact coherent.setStage found _ nofun

end Tasks

end StepRunner
