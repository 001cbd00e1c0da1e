import StepRunner.Proofs.Engine.Turns

/-!
This file shows that every turn keeps the system consistent.
-/

namespace StepRunner

/-- A step that ends is followed by the next step or by the end of the run. -/
theorem Engine.stageAfter_cases (options : RunOptions) (status : StepStatus) (rest : List Step) :
    stageAfter options status rest = .ready rest ∨
      stageAfter options status rest = .closing none := by
  unfold stageAfter
  split
  · split <;> simp
  · exact .inr rfl
  · exact .inl rfl
  · exact .inl rfl

namespace RunTask

variable {task : RunTask} {finished : List StepResult}

/-- The step that begins next is the first one without a result. -/
theorem Trail.step_of_ready (trail : task.Trail finished) {step : Step} {rest : List Step}
    (stage : task.stage = .ready (step :: rest)) :
    task.steps[finished.length]? = some step ∧ rest = task.steps.drop (finished.length + 1) := by
  have left := trail.rest (step :: rest) (by simp [rest?, stage])
  simp only [rows, pending?, stage, Option.toList_none, List.append_nil] at left
  constructor
  · rw [← List.head?_drop, ← left]
    rfl
  · rw [← List.tail_drop, ← left]
    rfl

/-- A task that passes to another stage without a word keeps its trail. -/
theorem Trail.passes (trail : task.Trail finished) {session : Session} {cancelled : Bool}
    {stage : Stage} (passes : task.Passes session cancelled stage) :
    Trail { task with stage } finished ∧
      rows { task with stage } finished = task.rows finished := by
  have kept := passes.pending?_eq
  have same : rows { task with stage } finished = task.rows finished := by
    simp only [rows, kept]
  refine ⟨?_, same⟩
  exact
    { decided := trail.decided
      pending := kept ▸ trail.pending
      places := same ▸ trail.places
      rest := by
        rw [same]
        intro rest left
        apply trail.rest
        cases passes <;> simp_all [rest?]
      failed := trail.failed
      faultless := by
        cases passes <;> simp }

theorem pending?_begun (task : RunTask) (result : StepResult) (step : Step) (rest : List Step) :
    pending? { task with stage := Engine.begunStage result step rest } = some result := by
  unfold Engine.begunStage
  cases step.action? <;> rfl

theorem pending?_afterStep (task : RunTask) (status : StepStatus) (rest : List Step) :
    pending? (Engine.afterStep status rest task) = none := by
  rcases Engine.stageAfter_cases task.options status rest with goes | stops
  · simp only [pending?, Engine.afterStep, goes]
  · simp only [pending?, Engine.afterStep, stops]

/-- The pending result of the next step goes on with the trail. -/
theorem Trail.begun (trail : task.Trail finished) (result : StepResult) {step : Step}
    {rest : List Step} (stage : task.stage = .ready (step :: rest))
    (pending : result.status = .pending) (own : result.runId = task.run.id)
    (place : result.place = step.place) :
    Trail { task with stage := Engine.begunStage result step rest } finished ∧
      rows { task with stage := Engine.begunStage result step rest } finished =
        task.rows finished ++ [result] := by
  obtain ⟨next, left⟩ := trail.step_of_ready stage
  have before : task.rows finished = finished := by simp [rows, pending?, stage]
  have busy := pending?_begun task result step rest
  have after : rows { task with stage := Engine.begunStage result step rest } finished =
      finished ++ [result] := by
    simp only [rows, busy, Option.toList_some]
  have places := trail.places
  rw [before] at places ⊢
  refine ⟨?_, after⟩
  exact
    { decided := trail.decided
      pending := by
        rw [busy]
        rintro _ ⟨⟩
        exact ⟨pending, own⟩
      places := by
        rw [after, List.map_append, places, List.length_append, List.length_singleton,
          List.take_add_one, next, List.map_append, List.map_singleton, place]
        rfl
      rest := by
        rw [after, List.length_append, List.length_singleton, ← left]
        intro other same
        unfold Engine.begunStage at same
        cases read : step.action? <;> simp_all [rest?]
      failed := trail.failed
      faultless := by
        intro fault
        simp only [Engine.begunStage]
        split <;> simp }

/-- The outcome of the pending step goes on with the trail. -/
theorem Trail.decided_step (trail : task.Trail finished) {result outcome : StepResult}
    {failure : Option String} {rest : List Step} (decides : task.Decides result failure rest)
    (place : outcome.place = result.place) (status : outcome.status ≠ .pending)
    (ended : outcome.endedAt.isSome = true) :
    Trail (Engine.afterStep outcome.status rest task) (finished ++ [outcome]) ∧
      rows (Engine.afterStep outcome.status rest task) (finished ++ [outcome]) =
        finished ++ [outcome] := by
  have before : task.rows finished = finished ++ [result] := by
    simp [rows, decides.pending?_eq]
  have next := Engine.stageAfter_cases task.options outcome.status rest
  have idle := pending?_afterStep task outcome.status rest
  have after : rows (Engine.afterStep outcome.status rest task) (finished ++ [outcome]) =
      finished ++ [outcome] := by
    simp only [rows, idle, Option.toList_none, List.append_nil]
  have left : task.rest? = some rest := by
    cases decides with
    | bare stage => simp [rest?, stage]
    | pictured stage => simp [rest?, stage]
  have drop := trail.rest rest left
  have places := trail.places
  rw [before] at places drop
  refine ⟨?_, after⟩
  exact
    { decided := by
        intro row among
        rcases List.mem_append.1 among with old | new
        · exact trail.decided row old
        · rw [List.mem_singleton.1 new]
          exact ⟨status, ended⟩
      pending := by simp [idle]
      places := by
        rw [after]
        simpa [place, Engine.afterStep] using places
      rest := by
        rw [after]
        intro other same
        have equal : other = rest := by
          rcases next with goes | stops
          · simpa [rest?, Engine.afterStep, goes, eq_comm] using same
          · simp [rest?, Engine.afterStep, stops] at same
        rw [equal, drop]
        simp [Engine.afterStep]
      failed := by simp [Engine.afterStep, trail.failed]
      faultless := by
        intro fault
        rcases next with goes | stops
        · simp [Engine.afterStep, goes]
        · simp [Engine.afterStep, stops] }

end RunTask

namespace System

variable {system : System} {engine : Engine}

section Holders

/-- A start that claims the free slot holds it. -/
theorem Idle.claimed (idle : system.Idle) (tickets : system.engine.registry.Ordered)
    {call : StartCall} (ticket : call.reservation.ticket = system.engine.registry.nextTicket)
    (testCaseId : call.reservation.testCaseId = call.testCase.id)
    (owned : system.engine.store.tables.Owns call.reservation.projectId call.testCase.id)
    (numbered : call.steps.map Step.order = List.range' 1 call.steps.length) :
    Starting ⟨{ system.engine with
      registry := ⟨.reserved call.reservation.ticket call.reservation.projectId
        call.reservation.testCaseId, call.reservation.ticket + 1,
        system.engine.registry.cancelled⟩ }, [call]⟩ call where
  held := rfl
  waiting := rfl
  ceased := idle.ceased
  sound :=
    { testCaseId
      owned
      numbered
      fresh := fun stopped => Nat.lt_irrefl _ (tickets.cancelled _ (ticket ▸ stopped)) }

/-- A start keeps the slot while others change the rest of the engine. -/
theorem Starting.beside {call : StartCall} (starting : system.Starting call)
    (beside : system.engine.Beside engine) : (system.change fun _ => engine).Starting call := by
  obtain ⟨store, installs, artifacts, aside, rfl⟩ := beside
  have sound := starting.sound
  have spared := aside.spared call.reservation.projectId call.reservation.testCaseId
    (by simp [Registry.holdsProject, starting.held])
    (by simp [Registry.holdsTestCase, starting.held]) (sound.testCaseId ▸ sound.owned)
  exact
    { held := starting.held
      waiting := starting.waiting
      ceased := starting.ceased
      sound :=
        { testCaseId := sound.testCaseId
          owned := by
            have owned := spared.owns (sound.testCaseId ▸ sound.owned)
            rwa [sound.testCaseId] at owned
          numbered := sound.numbered
          fresh := sound.fresh } }

variable {number : Nat} {task : RunTask} {finished : List StepResult}

/-- A run keeps the slot while others change the rest of the engine. -/
theorem Running.beside (running : system.Running number task finished)
    (beside : system.engine.Beside engine) :
    (system.change fun _ => engine).Running number task finished := by
  obtain ⟨store, installs, artifacts, aside, rfl⟩ := beside
  have sound := running.sound
  have spared := aside.spared task.active.context.projectId task.active.context.testCaseId
    (by simp [Registry.holdsProject, running.held])
    (by simp [Registry.holdsTestCase, running.held]) (sound.testCaseId ▸ sound.owned)
  rw [sound.testCaseId] at spared
  exact
    { held := running.held
      waiting := running.waiting
      found := running.found
      busy := running.busy
      ceased := running.ceased
      sound :=
        { sound with
          owned := spared.owns sound.owned
          stored := spared.run_mem task.run sound.stored rfl
          results := (spared.resultsOf task.run sound.stored rfl).trans sound.results } }

/-- The results of a run that observers see are those of its task, in their order. -/
theorem Running.listResults_eq (running : system.Running number task finished) :
    system.engine.store.tables.listResults task.run.id = task.rows finished := by
  have sorted : ((task.rows finished).map StepResult.order).Pairwise (· ≤ ·) := by
    rw [running.sound.orders]
    exact List.pairwise_le_range'
  rw [List.pairwise_map] at sorted
  rw [Tables.listResults_eq, running.sound.results]
  exact List.mergeSort_of_pairwise (sorted.imp (by simp))

/-- The other tasks stay over when a task changes. -/
theorem Running.over_updateTask (running : system.Running number task finished)
    (change : RunTask → RunTask) :
    ∀ other found, (system.engine.updateTask number change).task? other = some found →
      other ≠ number → found.isOver = true := by
  intro other found present different
  rw [Engine.task?_updateTask, if_neg (Ne.symm different)] at present
  exact running.ceased other found present different

/-- The changed task is found under its number. -/
theorem Running.found_updateTask (running : system.Running number task finished)
    (change : RunTask → RunTask) :
    (system.engine.updateTask number change).task? number = some (change task) := by
  rw [Engine.task?_updateTask, if_pos rfl, running.found]
  rfl

/-- All tasks are over once the task that holds the slot is. -/
theorem Running.over_of_changed (running : system.Running number task finished)
    {change : RunTask → RunTask} (ceased : (change task).isOver = true) :
    ∀ other found, (system.engine.updateTask number change).task? other = some found →
      found.isOver = true := by
  intro other found present
  by_cases same : other = number
  · subst same
    rw [running.found_updateTask change] at present
    cases present
    exact ceased
  · exact running.over_updateTask change other found present same

theorem Running.passed (running : system.Running number task finished) {session : Session}
    {cancelled : Bool} {stage : Stage} (passes : task.Passes session cancelled stage) :
    (system.change (·.setStage number stage)).Running number { task with stage } finished := by
  obtain ⟨trail, rows⟩ := running.sound.trail.passes passes
  exact
    { held := running.held
      waiting := running.waiting
      found := running.found_updateTask _
      busy := by cases passes <;> rfl
      ceased := running.over_updateTask _
      sound :=
        { running.sound with
          trail
          results := running.sound.results.trans rows.symm } }

theorem Running.begun (running : system.Running number task finished) {step : Step}
    {rest : List Step} (stage : task.stage = .ready (step :: rest)) (now : Int) :
    (system.change (·.begun number task step rest now)).Running number
      { task with
        stage := Engine.begunStage (system.engine.begunResult task step now) step rest }
      finished := by
  obtain ⟨trail, rows⟩ :=
    running.sound.trail.begun (system.engine.begunResult task step now) stage rfl rfl rfl
  exact
    { held := running.held
      waiting := running.waiting
      found := running.found_updateTask _
      busy := by
        simp only [RunTask.isOver, Engine.begunStage]
        cases step.action? <;> rfl
      ceased := running.over_updateTask _
      sound :=
        { running.sound with
          trail
          results := by
            rw [rows, ← running.sound.results]
            exact Engine.begunStore_resultsOf step } }

theorem Running.decided (running : system.Running number task finished)
    {result outcome : StepResult} {failure path : Option String} {rest : List Step}
    (decides : task.Decides result failure rest) {cancelled : Bool} {now : Int}
    (made : outcome = Engine.decidedResult cancelled result failure path now)
    (artifacts : Artifacts) {store : Store}
    (testCases : store.tables.testCases = system.engine.store.tables.testCases)
    (runs : store.tables.runs = system.engine.store.tables.runs)
    (results : store.tables.resultsOf task.run.id = finished ++ [outcome]) :
    (system.change fun engine =>
      { engine with artifacts }.decided number task outcome rest store).Running number
        (Engine.afterStep outcome.status rest task) (finished ++ [outcome]) := by
  have status : outcome.status ≠ .pending := by
    rw [made]
    simp only [Engine.decidedResult, Engine.stepStatus]
    split
    · simp
    · split <;> simp
  have place : outcome.place = result.place := by
    rw [made]
    rfl
  have ended : outcome.endedAt.isSome = true := by
    rw [made]
    rfl
  obtain ⟨trail, rows⟩ := running.sound.trail.decided_step decides place status ended
  exact
    { held := running.held
      waiting := running.waiting
      found := running.found_updateTask _
      busy := by
        rcases Engine.stageAfter_cases task.options outcome.status rest with goes | stops
        · simp only [RunTask.isOver, Engine.afterStep, goes]
        · simp only [RunTask.isOver, Engine.afterStep, stops]
      ceased := running.over_updateTask _
      sound :=
        { runId := running.sound.runId
          testCaseId := running.sound.testCaseId
          owned := by
            obtain ⟨testCase, present, facts⟩ := running.sound.owned
            exact ⟨testCase, testCases ▸ present, facts⟩
          stored := by
            have stored := running.sound.stored
            rwa [← runs] at stored
          running := running.sound.running
          unended := running.sound.unended
          unfailed := running.sound.unfailed
          numbered := running.sound.numbered
          trail
          results := results.trans rows.symm } }

theorem Running.stopped (running : system.Running number task finished) (cancelled : List Nat) :
    (system.change fun engine =>
      { engine with registry := { engine.registry with cancelled } }).Running number task
        finished where
  held := running.held
  waiting := running.waiting
  found := running.found
  busy := running.busy
  ceased := running.ceased
  sound := running.sound

/-- The task of a start that ends well holds the slot. -/
theorem Starting.started {call : StartCall} (starting : system.Starting call)
    (sound : system.engine.store.Sound) (now : Int) :
    Running ⟨system.engine.started call now, []⟩ system.engine.tasks.length
      (system.engine.startedTask call now) [] where
  held := rfl
  waiting := rfl
  found := List.getElem?_concat_length
  busy := rfl
  ceased := by
    intro other found present different
    simp only [Engine.started, Engine.emit, Engine.task?, List.getElem?_append] at present
    split at present
    · exact starting.ceased other found present
    · next beyond =>
      rw [List.getElem?_singleton, if_neg (by omega)] at present
      cases present
  sound :=
    { runId := rfl
      testCaseId := starting.sound.testCaseId
      owned := starting.sound.owned
      stored := (Engine.mem_startedStore_runs sound starting.sound.owned).2 (.inl rfl)
      running := rfl
      unended := rfl
      unfailed := rfl
      numbered := starting.sound.numbered
      trail :=
        { decided := by simp
          pending := by simp [RunTask.pending?, Engine.startedTask]
          places := rfl
          rest := by simp [RunTask.rest?, RunTask.rows, RunTask.pending?, Engine.startedTask]
          failed := rfl
          faultless := by simp [Engine.startedTask] }
      results := Engine.startedStore_resultsOf sound }

end Holders

theorem runIds_updateTask {change : RunTask → RunTask} (number : Nat)
    (kept : ∀ task, (change task).run = task.run) :
    (engine.updateTask number change).runIds = engine.runIds :=
  congrArg (List.map Run.id) (engine.map_run_updateTask number kept)

variable {later : System}

/-- A turn that starts no run keeps the runs of the tasks distinct. -/
theorem Consistent.next (consistent : system.Consistent) (phase : later.Phase)
    (reliable : later.engine.refusals = system.engine.refusals) (store : later.engine.store.Sound)
    (tickets : later.engine.registry.Ordered)
    (runIds : later.engine.runIds = system.engine.runIds)
    (minted : system.engine.store.minted ≤ later.engine.store.minted) : later.Consistent where
  reliable := reliable.trans consistent.reliable
  store := store
  tickets := tickets
  distinct := runIds ▸ consistent.distinct
  minted := by
    rw [runIds]
    intro id present
    obtain ⟨number, early, same⟩ := consistent.minted id present
    exact ⟨number, lt_of_lt_of_le early minted, same⟩
  phase := phase

theorem Consistent.aside (consistent : system.Consistent) (beside : system.engine.Beside engine) :
    (system.change fun _ => engine).Consistent := by
  have phase : (system.change fun _ => engine).Phase := by
    rcases consistent.phase with idle | ⟨call, starting⟩ | ⟨number, task, finished, running⟩
    · obtain ⟨store, installs, artifacts, aside, rfl⟩ := beside
      exact .idle ⟨idle.free, idle.waiting, idle.ceased⟩
    · exact .starting call (starting.beside beside)
    · exact .running number task finished (running.beside beside)
  obtain ⟨store, installs, artifacts, aside, rfl⟩ := beside
  exact consistent.next phase rfl aside.sound consistent.tickets rfl aside.minted

theorem runIds_started (call : StartCall) (now : Int) :
    (engine.started call now).runIds = engine.runIds ++ [Store.idOf engine.store.minted] := by
  simp [Engine.runIds, Engine.started, Engine.startedTask, Engine.emit]

/-- The id of the next run is no id of a run before. -/
theorem Consistent.minted_notMem_runIds (consistent : system.Consistent) :
    Store.idOf system.engine.store.minted ∉ system.engine.runIds := by
  intro present
  obtain ⟨number, early, same⟩ := consistent.minted _ present
  have equal := Store.idOf_injective same
  omega

theorem Running.mem_runIds (running : system.Running number task finished) :
    task.run.id ∈ system.engine.runIds :=
  List.mem_map_of_mem (List.mem_map_of_mem (List.mem_of_getElem? running.found))

/-- The run at its end is stored, and all its step results are decided. -/
theorem Running.ended (running : system.Running number task finished)
    (consistent : system.Consistent) {session : Session} {fatal : Option String} {failed : Bool}
    (ends : task.Ends session fatal failed) (now : Int) :
    let run := system.engine.endedRun task fatal failed now
    let tables := (system.engine.ended number task fatal failed now).store.tables
    tables.run? task.run.id = some run ∧ run.status.isTerminal = true ∧
      run.endedAt.isSome = true ∧ tables.listResults task.run.id = finished := by
  intro run tables
  have terminal := Engine.finalStatus_isTerminal
    (system.engine.registry.cancelRequested task.active) (fatal.isSome || failed)
  have keyed := (consistent.store.writeMove run).tables.keyed
  have stored : run ∈ tables.runs :=
    (Store.mem_runs_writeMove consistent.store running.sound.stored _ _ _).2 (.inl rfl)
  have rows : task.rows finished = finished := by simp [RunTask.rows, ends.pending?_eq]
  refine ⟨keyed.run?_eq_some_iff.2 ⟨stored, rfl⟩, terminal, ?_, running.listResults_eq.trans rows⟩
  simp [run, Engine.endedRun, Store.moved, terminal]

/-- The run that a start gives is a new one. -/
theorem Consistent.started (consistent : system.Consistent) {call : StartCall}
    (starting : system.Starting call) (now : Int) :
    Consistent ⟨system.engine.started call now, []⟩ where
  reliable := consistent.reliable
  store := Engine.startedStore_sound consistent.store starting.sound.owned
  tickets := consistent.tickets.activated (by simp [starting.held, Slot.ticket?]) _
  distinct := by
    rw [runIds_started, List.nodup_append_comm]
    exact List.nodup_cons.2 ⟨consistent.minted_notMem_runIds, consistent.distinct⟩
  minted := by
    rw [runIds_started]
    intro id present
    rcases List.mem_append.1 present with old | added
    · obtain ⟨number, early, same⟩ := consistent.minted id old
      exact ⟨number, Nat.lt_succ_of_lt early, same⟩
    · exact ⟨_, Nat.lt_succ_self _, List.mem_singleton.1 added⟩
  phase := .running _ _ _ (starting.started consistent.store now)

variable {sessions : Nat → Session} {turn : Turn}

/-- A transition keeps the system consistent. -/
theorem Transition.consistent (transition : Transition sessions system turn later)
    (consistent : system.Consistent) : later.Consistent := by
  cases transition with
  | aside unmoved beside => exact consistent.aside beside
  | claimed idle call ticket testCaseId owned numbered =>
    have starting := idle.claimed consistent.tickets ticket testCaseId owned numbered
    have tickets := consistent.tickets.reserved call.reservation.projectId
      call.reservation.testCaseId
    rw [← ticket] at tickets
    exact consistent.next (.starting call starting) rfl consistent.store tickets rfl le_rfl
  | dropped call starting settles =>
    exact consistent.next (.idle ⟨rfl, rfl, starting.ceased⟩) rfl consistent.store
      consistent.tickets.freed rfl le_rfl
  | started call starting settles => exact consistent.started starting turn.now
  | stopped running asked =>
    exact consistent.next (.running _ _ _ (running.stopped _)) rfl consistent.store
      (consistent.tickets.stopped (by simp [running.held, Slot.ticket?])) rfl le_rfl
  | passed running own passes =>
    exact consistent.next (.running _ _ _ (running.passed passes)) rfl consistent.store
      consistent.tickets (runIds_updateTask _ fun _ => rfl) le_rfl
  | begun running own stage goes =>
    exact consistent.next (.running _ _ _ (running.begun stage turn.now)) rfl
      (Engine.begunStore_sound consistent.store running.sound.stored _)
      consistent.tickets (runIds_updateTask _ fun _ => rfl) (Nat.le_succ _)
  | decided running own decides made artifacts store sound minted testCases runs results =>
    exact consistent.next
      (.running _ _ _ (running.decided decides made artifacts testCases runs results)) rfl sound
      consistent.tickets (runIds_updateTask _ fun _ => rfl) minted.ge
  | ended running own ends =>
    exact consistent.next (.idle ⟨rfl, running.waiting, running.over_of_changed rfl⟩) rfl
      (consistent.store.writeMove _) consistent.tickets.freed
      (runIds_updateTask _ fun _ => rfl) le_rfl
  | brokeDown running fault =>
    exact consistent.next (.idle ⟨rfl, running.waiting, running.over_of_changed rfl⟩) rfl
      consistent.store consistent.tickets.freed (runIds_updateTask _ fun _ => rfl) le_rfl

theorem Consistent.step (consistent : system.Consistent) (sessions : Nat → Session) (turn : Turn) :
    (system.step sessions turn).Consistent :=
  (consistent.transition sessions turn).consistent consistent

/-- Every history keeps the system consistent. -/
theorem Consistent.after (consistent : system.Consistent) (sessions : Nat → Session)
    (history : List Turn) : (system.after sessions history).Consistent := by
  induction history generalizing system with
  | nil => exact consistent
  | cons turn history inductionHypothesis =>
    exact inductionHypothesis (consistent.step sessions turn)

end System

end StepRunner
