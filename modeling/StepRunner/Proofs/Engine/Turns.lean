import StepRunner.Proofs.Engine.Catalogue
import StepRunner.Proofs.Engine.Consistency

/-!
This file lists all that a turn can do to a consistent system, and shows that each turn is one of
these transitions.
-/

namespace StepRunner

/-- The task of a run comes from its stage to the next, unseen by the store and the observers. -/
inductive RunTask.Passes (session : Session) (cancelled : Bool) (task : RunTask) :
    Stage → Prop where
  | launched (stage : task.stage = .launching) (answer : session.launch = .ok ()) :
      Passes session cancelled task (.ready task.steps)
  | exhausted (stage : task.stage = .ready []) : Passes session cancelled task (.closing none)
  | stopped {step : Step} {rest : List Step} (stage : task.stage = .ready (step :: rest))
      (stop : cancelled = true) : Passes session cancelled task (.closing none)
  | acted {result : StepResult} {action : Action} {rest : List Step}
      (stage : task.stage = .acting result action rest) :
      Passes session cancelled task <| .photographing result
        ((ActEnding.ofOutcome? <| Reply.within? (some (task.budget action)) <|
          session.act result.order).failure? (task.budget action)) rest
  | photographed {result : StepResult} {failure : Option String} {rest : List Step}
      {picture : Bytes} (stage : task.stage = .photographing result failure rest) :
      Passes session cancelled task (.storing result failure picture rest)

/-- A task is about to decide the outcome of a step with a result. -/
inductive RunTask.Decides (task : RunTask) (result : StepResult) (failure : Option String)
    (rest : List Step) : Prop where
  | bare (stage : task.stage = .photographing result failure rest)
  | pictured {picture : Bytes} (stage : task.stage = .storing result failure picture rest)

/-- A task that decides the outcome of a step has its pending result. -/
theorem RunTask.Decides.pending?_eq {task : RunTask} {result : StepResult}
    {failure : Option String} {rest : List Step} (decides : task.Decides result failure rest) :
    task.pending? = some result := by
  cases decides with
  | bare stage => simp [RunTask.pending?, stage]
  | pictured stage => simp [RunTask.pending?, stage]

/-- A run ends, since its browser failed to launch or since it is closed. -/
inductive RunTask.Ends (session : Session) (task : RunTask) : Option String → Bool → Prop where
  | unlaunched {error : SessionError} (stage : task.stage = .launching)
      (answer : session.launch = .error error) : Ends session task (some error.message) false
  | closed (stage : task.stage = .closing none) : Ends session task none task.anyFailed

theorem RunTask.Ends.pending?_eq {task : RunTask} {session : Session} {fatal : Option String}
    {failed : Bool} (ends : task.Ends session fatal failed) : task.pending? = none := by
  cases ends with
  | unlaunched stage answer => simp [RunTask.pending?, stage]
  | closed stage => simp [RunTask.pending?, stage]

theorem RunTask.Passes.pending?_eq {task : RunTask} {session : Session} {cancelled : Bool}
    {stage : Stage} (passes : task.Passes session cancelled stage) :
    RunTask.pending? { task with stage } = task.pending? := by
  cases passes <;> simp_all [RunTask.pending?]

namespace System

/-- A turn neither advances a task nor asks the run in progress to stop. -/
structure Unmoved (system : System) (turn : Turn) : Prop where
  proceed : ∀ number task, turn.move = .proceed number →
    system.engine.task? number = some task → task.isOver = true
  cancel : ∀ runId, turn.move = .cancel runId → (system.engine.cancel runId).1 = false

/-- The system after a turn. -/
inductive Transition (sessions : Nat → Session) (system : System) (turn : Turn) :
    System → Prop where
  | aside {engine : Engine} (unmoved : system.Unmoved turn)
      (beside : system.engine.Beside engine) :
      Transition sessions system turn (system.change fun _ => engine)
  | claimed (idle : system.Idle) (call : StartCall)
      (ticket : call.reservation.ticket = system.engine.registry.nextTicket)
      (testCaseId : call.reservation.testCaseId = call.testCase.id)
      (owned : system.engine.store.tables.Owns call.reservation.projectId call.testCase.id)
      (numbered : call.steps.map Step.order = List.range' 1 call.steps.length) :
      Transition sessions system turn
        ⟨{ system.engine with
            registry := ⟨.reserved call.reservation.ticket call.reservation.projectId
              call.reservation.testCaseId, call.reservation.ticket + 1,
              system.engine.registry.cancelled⟩ }, [call]⟩
  | dropped (call : StartCall) (starting : system.Starting call) (settles : turn.settles = true) :
      Transition sessions system turn
        ⟨{ system.engine with registry := system.engine.registry.freed }, []⟩
  | started (call : StartCall) (starting : system.Starting call) (settles : turn.settles = true) :
      Transition sessions system turn ⟨system.engine.started call turn.now, []⟩
  | stopped {number : Nat} {task : RunTask} {finished : List StepResult}
      (running : system.Running number task finished) (asked : turn.move = .cancel task.run.id) :
      Transition sessions system turn
        (system.change fun engine =>
          { engine with
            registry :=
              { engine.registry with
                cancelled := task.active.ticket :: engine.registry.cancelled } })
  | passed {number : Nat} {task : RunTask} {finished : List StepResult}
      (running : system.Running number task finished) (own : turn.move = .proceed number)
      {stage : Stage} (passes : task.Passes (sessions number)
        (system.engine.registry.cancelRequested task.active) stage) :
      Transition sessions system turn (system.change (·.setStage number stage))
  | begun {number : Nat} {task : RunTask} {finished : List StepResult}
      (running : system.Running number task finished) (own : turn.move = .proceed number)
      {step : Step} {rest : List Step} (stage : task.stage = .ready (step :: rest))
      (goes : system.engine.registry.cancelRequested task.active = false) :
      Transition sessions system turn (system.change (·.begun number task step rest turn.now))
  | decided {number : Nat} {task : RunTask} {finished : List StepResult}
      (running : system.Running number task finished) (own : turn.move = .proceed number)
      {result outcome : StepResult} {failure path : Option String} {rest : List Step}
      (decides : task.Decides result failure rest)
      (made : outcome = Engine.decidedResult
        (system.engine.registry.cancelRequested task.active) result failure path turn.now)
      (artifacts : Artifacts) (store : Store) (sound : store.Sound)
      (minted : store.minted = system.engine.store.minted)
      (testCases : store.tables.testCases = system.engine.store.tables.testCases)
      (runs : store.tables.runs = system.engine.store.tables.runs)
      (results : store.tables.resultsOf task.run.id = finished ++ [outcome]) :
      Transition sessions system turn
        (system.change fun engine =>
          { engine with artifacts }.decided number task outcome rest store)
  | ended {number : Nat} {task : RunTask} {finished : List StepResult}
      (running : system.Running number task finished) (own : turn.move = .proceed number)
      {fatal : Option String} {failed : Bool} (ends : task.Ends (sessions number) fatal failed) :
      Transition sessions system turn
        (system.change (·.ended number task fatal failed turn.now))
  | brokeDown {number : Nat} {task : RunTask} {finished : List StepResult}
      (running : system.Running number task finished) (fault : turn.move = .breakDown number) :
      Transition sessions system turn
        (system.change fun engine =>
          { engine with registry := engine.registry.freed }.setStage number .panicked)

end System

namespace Engine

/-- A start that claims the slot has read a test case with steps. -/
theorem prepare_eq {engine after : Engine} {testCaseId : String} {browser : Browser}
    {options : RunOptions} {call : StartCall}
    (prepared : engine.prepare testCaseId browser options = .ok (call, after)) :
    options.check = .ok () ∧ engine.store.tables.testCase? testCaseId = some call.testCase ∧
      call.steps = engine.store.tables.listSteps testCaseId ∧ call.steps ≠ [] ∧
      call.browser = browser ∧ call.options = options ∧
      ∃ registry, engine.registry.reserve call.testCase.projectId call.testCase.id =
        .ok (call.reservation, registry) ∧ after = { engine with registry } := by
  obtain ⟨⟨⟩, checked, prepared⟩ := bind_eq_ok_iff.1 prepared
  cases found : engine.store.tables.testCase? testCaseId with
  | none =>
    rw [found] at prepared
    cases prepared
  | some testCase =>
    rw [found] at prepared
    obtain ⟨filled, prepared⟩ := refuse_eq_ok_iff.1 prepared
    obtain ⟨⟨reservation, registry⟩, reserved, made⟩ := bind_eq_ok_iff.1 prepared
    obtain ⟨rfl, rfl⟩ := Prod.mk.inj (pure_eq_ok_iff.1 made)
    have named : testCase.id = testCaseId := by simpa using List.find?_some found
    refine ⟨checked, rfl, by rw [named], ?_, rfl, rfl, registry, reserved, rfl⟩
    simpa using filled

end Engine

namespace System

variable {sessions : Nat → Session} {system : System}

theorem Transition.stays (consistent : system.Consistent) {turn : Turn}
    (unmoved : system.Unmoved turn) : Transition sessions system turn system :=
  .aside unmoved (.refl consistent.store)

/-- Only a task that proceeds and a request to stop may concern the run in progress. -/
theorem Unmoved.of_other {turn : Turn} (proceed : ∀ number, turn.move ≠ .proceed number)
    (cancel : ∀ runId, turn.move ≠ .cancel runId) : system.Unmoved turn :=
  ⟨fun number _ same => absurd same (proceed number), fun runId same => absurd same (cancel runId)⟩

/-- A change beside the start or the run with the slot is a transition. -/
theorem Transition.beside {turn : Turn} (proceed : ∀ number, turn.move ≠ .proceed number)
    (cancel : ∀ runId, turn.move ≠ .cancel runId) {engine : Engine}
    (beside : system.engine.Beside engine) :
    Transition sessions system turn (system.change fun _ => engine) :=
  .aside (.of_other proceed cancel) beside

namespace Consistent

/-- A start that is let in claims the free slot for its test case. -/
theorem claim (consistent : system.Consistent) {testCaseId : String} {browser : Browser}
    {options : RunOptions} {call : StartCall} {after : Engine}
    (prepared : system.engine.prepare testCaseId browser options = .ok (call, after)) :
    system.Idle ∧ call.reservation.ticket = system.engine.registry.nextTicket ∧
      call.reservation.testCaseId = call.testCase.id ∧
      system.engine.store.tables.Owns call.reservation.projectId call.testCase.id ∧
      call.steps.map Step.order = List.range' 1 call.steps.length ∧
      System.mk after (system.waiting ++ [call]) =
        ⟨{ system.engine with
            registry := ⟨.reserved call.reservation.ticket call.reservation.projectId
              call.reservation.testCaseId, call.reservation.ticket + 1,
              system.engine.registry.cancelled⟩ }, [call]⟩ := by
  obtain ⟨-, found, steps, -, -, -, registry, reserved, rfl⟩ := Engine.prepare_eq prepared
  obtain ⟨free, reservation, rfl⟩ := Registry.reserve_eq_ok_iff.1 reserved
  obtain ⟨present, rfl⟩ := consistent.store.tables.keyed.testCase?_eq_some_iff.1 found
  have idle : system.Idle := by
    rcases consistent.phase with idle | ⟨call, starting⟩ | ⟨number, task, finished, running⟩
    · exact idle
    · simp [starting.held] at free
    · simp [running.held] at free
  rw [reservation, idle.waiting]
  exact ⟨idle, rfl, rfl, ⟨call.testCase, present, rfl, rfl⟩,
    steps ▸ consistent.store.tables.numbered _, rfl⟩

theorem begin_transition (consistent : system.Consistent) (now : Int) (testCaseId : String)
    (browser : Browser) (options : RunOptions) :
    Transition sessions system ⟨now, .begin testCaseId browser options⟩
      (system.step sessions ⟨now, .begin testCaseId browser options⟩) := by
  simp only [step]
  cases prepared : system.engine.prepare testCaseId browser options with
  | error error => exact .stays consistent (.of_other (by simp) (by simp))
  | ok result =>
    obtain ⟨idle, ticket, testCaseId, owned, numbered, same⟩ := consistent.claim prepared
    simp only [same]
    exact .claimed idle result.1 ticket testCaseId owned numbered

/-- A start that waits is the one that holds the slot. -/
theorem starting_of_waiting (consistent : system.Consistent) {index : Nat} {call : StartCall}
    (waits : system.waiting[index]? = some call) :
    system.Starting call ∧ system.waiting.eraseIdx index = [] := by
  rcases consistent.phase with idle | ⟨holder, starting⟩ | ⟨number, task, finished, running⟩
  · simp [idle.waiting] at waits
  · rw [starting.waiting] at waits ⊢
    obtain ⟨rfl, rfl⟩ : index = 0 ∧ holder = call := by simpa [List.getElem?_singleton] using waits
    exact ⟨starting, rfl⟩
  · simp [running.waiting] at waits

theorem abandon_transition (consistent : system.Consistent) (now : Int) (index : Nat) :
    Transition sessions system ⟨now, .abandon index⟩
      (system.step sessions ⟨now, .abandon index⟩) := by
  simp only [step]
  split
  · next call waits =>
    obtain ⟨starting, left⟩ := consistent.starting_of_waiting waits
    rw [left, Engine.abandon, Registry.release_of_held starting.held]
    exact .dropped call starting rfl
  · exact .stays consistent (.of_other (by simp) (by simp))

/-- A start whose browser engine is installed gives a run. -/
theorem step_conclude (consistent : system.Consistent) {index : Nat} {call : StartCall}
    (waits : system.waiting[index]? = some call) (now : Int) :
    system.step sessions ⟨now, .conclude index (.ok ())⟩ =
      ⟨system.engine.started call now, []⟩ := by
  obtain ⟨starting, left⟩ := consistent.starting_of_waiting waits
  simp only [step, waits, left,
    Engine.conclude_of_installed consistent.reliable consistent.store starting.sound.owned]

theorem conclude_transition (consistent : system.Consistent) (now : Int) (index : Nat)
    (installed : Except String Unit) :
    Transition sessions system ⟨now, .conclude index installed⟩
      (system.step sessions ⟨now, .conclude index installed⟩) := by
  cases waits : system.waiting[index]? with
  | none =>
    simp only [step, waits]
    exact .stays consistent (.of_other (by simp) (by simp))
  | some call =>
    obtain ⟨starting, left⟩ := consistent.starting_of_waiting waits
    cases installed with
    | error reason =>
      simp only [step, waits, left, Engine.conclude, Engine.abandon,
        Registry.release_of_held starting.held]
      exact .dropped call starting rfl
    | ok _ =>
      rw [consistent.step_conclude waits now]
      exact .started call starting rfl

theorem cancel_transition (consistent : system.Consistent) (now : Int) (runId : String) :
    Transition sessions system ⟨now, .cancel runId⟩
      (system.step sessions ⟨now, .cancel runId⟩) := by
  have refused (outcome : system.engine.registry.requestCancel runId =
      (false, system.engine.registry)) : Transition sessions system ⟨now, .cancel runId⟩
        (system.change fun engine => (engine.cancel runId).2) := by
    have unmoved : system.Unmoved ⟨now, .cancel runId⟩ := by
      refine ⟨by simp, ?_⟩
      rintro _ ⟨⟩
      simp only [Engine.cancel, outcome]
    rw [change, Engine.cancel, outcome]
    exact .stays consistent unmoved
  simp only [step]
  rcases consistent.phase with idle | ⟨call, starting⟩ | ⟨number, task, finished, running⟩
  · exact refused (Registry.requestCancel_of_inactive runId (by simp [idle.free]))
  · exact refused (Registry.requestCancel_of_inactive runId (by simp [starting.held]))
  · have outcome := Registry.requestCancel_of_held runId running.held
    rw [running.sound.runId] at outcome
    by_cases own : task.run.id = runId
    · subst own
      rw [if_pos rfl] at outcome
      rw [change, Engine.cancel, outcome]
      exact .stopped running rfl
    · rw [if_neg own] at outcome
      exact refused outcome

/-- A step of the run in progress ends. -/
theorem decided_transition (consistent : system.Consistent) {number : Nat} {task : RunTask}
    {finished : List StepResult} (running : system.Running number task finished)
    {result : StepResult} {failure : Option String} {rest : List Step}
    (decides : task.Decides result failure rest) (path : Option String) (artifacts : Artifacts)
    (now : Int) :
    Transition sessions system ⟨now, .proceed number⟩
      (system.change fun engine =>
        { engine with artifacts }.endStep number task result failure path rest now) := by
  have pending := decides.pending?_eq
  obtain ⟨undecided, own⟩ := running.sound.trail.pending result pending
  have rows : system.engine.store.tables.resultsOf result.runId = finished ++ [result] := by
    rw [own, running.sound.results, RunTask.rows, pending]
    rfl
  let engine : Engine := { system.engine with artifacts }
  have reliable : engine.refusals = [] := consistent.reliable
  have sound : engine.store.Sound := consistent.store
  obtain ⟨store, turned, sound, minted, testCases, runs, results⟩ :=
    Engine.endStep_eq reliable sound number task rows
      (fun row among => (running.sound.trail.decided row among).1) undecided failure path rest now
  rw [change, turned]
  exact .decided running rfl decides rfl artifacts store sound minted testCases runs (own ▸ results)

theorem proceed_transition (consistent : system.Consistent) (now : Int) (number : Nat) :
    Transition sessions system ⟨now, .proceed number⟩
      (system.step sessions ⟨now, .proceed number⟩) := by
  simp only [step, change, Engine.proceed]
  have still (ceased : ∀ task, system.engine.task? number = some task → task.isOver = true) :
      Transition sessions system ⟨now, .proceed number⟩ system := by
    refine .stays consistent ⟨?_, by simp⟩
    rintro _ task ⟨⟩
    exact ceased task
  cases found : system.engine.task? number with
  | none => exact still (by simp [found])
  | some task =>
    by_cases busy : task.isOver = false
    · obtain ⟨finished, running⟩ := consistent.running_of_busy found busy
      have sound := running.sound
      have ends {fatal : Option String} {failed : Bool}
          (ends : task.Ends (sessions number) fatal failed) :
          Transition sessions system ⟨now, .proceed number⟩
            (system.change (·.finalize number task fatal failed now)) := by
        rw [change, Engine.finalize_eq consistent.reliable consistent.store sound.stored
          sound.running running.held]
        exact .ended running rfl ends
      cases stage : task.stage with
      | launching =>
        simp only [Engine.launched, found, stage]
        cases answer : (sessions number).launch with
        | error error => exact ends (.unlaunched stage answer)
        | ok _ => exact .passed running rfl (.launched stage answer)
      | ready rest =>
        simp only [Engine.advance, found, stage]
        cases rest with
        | nil => exact .passed running rfl (.exhausted stage)
        | cons step rest =>
          cases stop : system.engine.registry.cancelRequested task.active with
          | true => exact .passed running rfl (.stopped stage stop)
          | false =>
            simp only [Bool.false_eq_true, if_false]
            rw [Engine.beginStep_eq consistent.reliable consistent.store sound.stored]
            exact .begun running rfl stage stop
      | acting result action rest =>
        simp only [Engine.acted, found, stage, RunTask.limit?]
        exact .passed running rfl (.acted stage)
      | photographing result failure rest =>
        simp only [Engine.photographed, found, stage]
        split
        · exact .passed running rfl (.photographed stage)
        · exact consistent.decided_transition running (.bare stage) none _ now
      | storing result failure picture rest =>
        simp only [Engine.stored, found, stage]
        exact consistent.decided_transition running (.pictured stage) _ _ now
      | closing fault =>
        cases fault with
        | none =>
          simp only [Engine.closed, found, stage]
          exact ends (.closed stage)
        | some fault => exact absurd stage (sound.trail.faultless fault)
      | ended run => simp [RunTask.isOver, stage] at busy
      | panicked => simp [RunTask.isOver, stage] at busy
    · have ceased : ∀ other, system.engine.task? number = some other → other.isOver = true := by
        intro other present
        obtain rfl := Option.some.inj (found.symm.trans present)
        simpa using busy
      cases stage : task.stage with
      | ended run =>
        simp only [stage]
        exact still ceased
      | panicked =>
        simp only [stage]
        exact still ceased
      | _ => simp [RunTask.isOver, stage] at busy

theorem breakDown_transition (consistent : system.Consistent) (now : Int) (number : Nat) :
    Transition sessions system ⟨now, .breakDown number⟩
      (system.step sessions ⟨now, .breakDown number⟩) := by
  simp only [step, change, Engine.brokeDown]
  cases found : system.engine.task? number with
  | none => exact .stays consistent (.of_other (by simp) (by simp))
  | some task =>
    cases busy : task.isOver with
    | true =>
      simp only [busy, if_true]
      exact .stays consistent (.of_other (by simp) (by simp))
    | false =>
      obtain ⟨finished, running⟩ := consistent.running_of_busy found busy
      simp only [busy, Bool.false_eq_true, if_false, Registry.finish_of_held running.held]
      exact .brokeDown running rfl

/-- Each turn of a consistent system is a transition. -/
theorem transition (consistent : system.Consistent) (sessions : Nat → Session) (turn : Turn) :
    Transition sessions system turn (system.step sessions turn) := by
  obtain ⟨now, move⟩ := turn
  have reliable := consistent.reliable
  have sound := consistent.store
  cases move with
  | begin testCaseId browser options =>
    exact consistent.begin_transition now testCaseId browser options
  | conclude index installed => exact consistent.conclude_transition now index installed
  | abandon index => exact consistent.abandon_transition now index
  | proceed number => exact consistent.proceed_transition now number
  | breakDown number => exact consistent.breakDown_transition now number
  | cancel runId => exact consistent.cancel_transition now runId
  | createProject name => exact .beside (by simp) (by simp) (.createProject reliable sound now name)
  | createTestCase projectId title lines =>
    exact .beside (by simp) (by simp) (.createTestCase reliable sound now projectId title lines)
  | updateSteps testCaseId lines =>
    exact .beside (by simp) (by simp) (.updateSteps reliable sound now testCaseId lines)
  | deleteProject id => exact .beside (by simp) (by simp) (.deleteProject reliable sound id)
  | deleteTestCase id => exact .beside (by simp) (by simp) (.deleteTestCase reliable sound id)
  | read path variant => exact .beside (by simp) (by simp) ⟨_, _, _, .refl sound, rfl⟩
  | install change => exact .beside (by simp) (by simp) ⟨_, _, _, .refl sound, rfl⟩

end Consistent

end System

end StepRunner
