import StepRunner.Proofs.Engine.Continuing
import StepRunner.Proofs.Engine.Outcome
import StepRunner.Proofs.Engine.Starts

/-!
This file says how long the task of a run may stay in each of its stages.
The browser answers each call after some ticks of the clock, or never.
The engine gives up on an action and on a screenshot, but it waits for a launch and for a close.
-/

namespace StepRunner

/-- The ticks after which a caller with a limit has an answer or gives up. -/
def Reply.wait {α : Type} (limit : Duration) : Option (Reply α) → Nat
  | some reply => min reply.ticks limit.timerTicks
  | none => limit.timerTicks

theorem Reply.wait_le {α : Type} (limit : Duration) (reply : Option (Reply α)) :
    wait limit reply ≤ limit.timerTicks := by
  cases reply with
  | none => exact le_rfl
  | some reply => exact Nat.min_le_right _ _

/-- The ticks of the calls of a browser that nobody gives up; a close without ticks hangs. -/
structure Pace where
  launch : Nat
  close : Option Nat

namespace RunTask

variable {task : RunTask} {session : Session} {pace : Pace}

/-- The ticks that a step may take: its action with the wait it asks for, and its screenshot. -/
def stepTicks (options : RunOptions) (step : Step) : Nat :=
  (step.action?.elim 0 fun action =>
      (options.stepTimeout.add action.requestedWait).timerTicks) +
    options.stepTimeout.timerTicks

/-- The ticks that steps may take, together with the close of the browser. -/
def ticksFor (options : RunOptions) (pace : Pace) (steps : List Step) : Nat :=
  (steps.map (stepTicks options)).sum + pace.close.getD 0

/-- The ticks that a task stays in its stage, if it does not stay for ever. -/
def stay? (task : RunTask) (session : Session) (pace : Pace) : Option Nat :=
  match task.stage with
  | .launching => some pace.launch
  | .ready _ | .storing _ _ _ _ => some 0
  | .acting result action _ => some (Reply.wait (task.budget action) (session.act result.order))
  | .photographing result _ _ =>
    some (Reply.wait task.options.stepTimeout (session.photograph result.order))
  | .closing _ => pace.close
  | .ended _ | .panicked => none

/-- A bound for the ticks from the moment at which a task has come to its stage to its end. -/
def ticksLeft (task : RunTask) (pace : Pace) : Nat :=
  match task.stage with
  | .launching => pace.launch + ticksFor task.options pace task.steps
  | .ready rest | .storing _ _ _ rest => ticksFor task.options pace rest
  | .acting _ action rest =>
    (task.budget action).timerTicks + task.options.stepTimeout.timerTicks +
      ticksFor task.options pace rest
  | .photographing _ _ rest =>
    task.options.stepTimeout.timerTicks + ticksFor task.options pace rest
  | .closing _ => pace.close.getD 0
  | .ended _ | .panicked => 0

theorem close_le_ticksFor (options : RunOptions) (pace : Pace) (steps : List Step) :
    pace.close.getD 0 ≤ ticksFor options pace steps :=
  Nat.le_add_left _ _

theorem ticksFor_cons (options : RunOptions) (pace : Pace) (step : Step) (rest : List Step) :
    ticksFor options pace (step :: rest) = stepTicks options step + ticksFor options pace rest := by
  simp only [ticksFor, List.map_cons, List.sum_cons]
  omega

/-- The ticks of a step whose action is known. -/
theorem stepTicks_of_reads {step : Step} {action : Action} (reads : step.action? = some action) :
    stepTicks task.options step =
      (task.budget action).timerTicks + task.options.stepTimeout.timerTicks := by
  rw [stepTicks, reads, Option.elim_some, budget]

theorem budget_of_options {next : RunTask} (options : next.options = task.options)
    (action : Action) : next.budget action = task.budget action := by
  rw [budget, options, budget]

/-- A task that does not stay for ever stays no longer than it may take to its end. -/
theorem stay_le_ticksLeft {ticks : Nat} (stays : task.stay? session pace = some ticks) :
    ticks ≤ task.ticksLeft pace := by
  unfold stay? at stays
  unfold ticksLeft
  split at stays
  · obtain rfl := Option.some.inj stays
    exact Nat.le_add_right _ _
  · obtain rfl := Option.some.inj stays
    exact Nat.zero_le _
  · obtain rfl := Option.some.inj stays
    exact Nat.zero_le _
  · next result action rest stage =>
    obtain rfl := Option.some.inj stays
    have short := Reply.wait_le (task.budget action) (session.act result.order)
    omega
  · next result failure rest stage =>
    obtain rfl := Option.some.inj stays
    have short := Reply.wait_le task.options.stepTimeout (session.photograph result.order)
    omega
  · rw [stays]
    exact le_rfl
  · cases stays
  · cases stays

/--
The stages to which a task may come from its stage, whatever the disk refuses and whatever others
have done to the store.
-/
inductive Onward (session : Session) (task : RunTask) : Stage → Prop where
  | launched (stage : task.stage = .launching) (answer : session.launch = .ok ()) :
      Onward session task (.ready task.steps)
  | unlaunched (stage : task.stage = .launching) {error : SessionError}
      (answer : session.launch = .error error) {last : Run}
      (final : last.status.isTerminal = true) : Onward session task (.ended last)
  | begun {step : Step} {rest : List Step} {action : Action} (result : StepResult)
      (stage : task.stage = .ready (step :: rest)) (reads : step.action? = some action) :
      Onward session task (.acting result action rest)
  | unread {step : Step} {rest : List Step} (result : StepResult) (failure : Option String)
      (stage : task.stage = .ready (step :: rest)) :
      Onward session task (.photographing result failure rest)
  | halted {rest : List Step} (fault : Option String) (stage : task.stage = .ready rest) :
      Onward session task (.closing fault)
  | acted {result : StepResult} {action : Action} {rest : List Step} (failure : Option String)
      (stage : task.stage = .acting result action rest) :
      Onward session task (.photographing result failure rest)
  | photographed {result : StepResult} {failure : Option String} {rest : List Step}
      (picture : Bytes) (stage : task.stage = .photographing result failure rest) :
      Onward session task (.storing result failure picture rest)
  | decided {result : StepResult} {failure : Option String} {rest : List Step}
      (decides : task.Decides result failure rest) : Onward session task (.ready rest)
  | stopped {result : StepResult} {failure : Option String} {rest : List Step}
      (fault : Option String) (decides : task.Decides result failure rest) :
      Onward session task (.closing fault)
  | closed {fault : Option String} (stage : task.stage = .closing fault) {last : Run}
      (final : last.status.isTerminal = true) : Onward session task (.ended last)

/-- A task of the same run, with the same steps and options. -/
structure SameRun (task next : RunTask) : Prop where
  run : next.run = task.run
  steps : next.steps = task.steps
  options : next.options = task.options
  active : next.active = task.active

/-- Each stage takes its ticks off the bound. -/
theorem Onward.ticksLeft_le {next : RunTask} (onward : task.Onward session next.stage)
    (same : task.SameRun next) {ticks : Nat} (stays : task.stay? session pace = some ticks) :
    ticks + next.ticksLeft pace ≤ task.ticksLeft pace := by
  have options := same.options
  generalize reached : next.stage = stage at onward
  cases onward with
  | launched stage =>
    simp only [stay?, stage, Option.some.injEq] at stays
    simp only [ticksLeft, reached, stage, options, stays]
    exact le_rfl
  | unlaunched stage =>
    simp only [stay?, stage, Option.some.injEq] at stays
    simp only [ticksLeft, reached, stage, stays]
    omega
  | @begun step rest action result stage reads =>
    simp only [stay?, stage, Option.some.injEq] at stays
    simp only [ticksLeft, reached, stage, options, ticksFor_cons, stepTicks_of_reads reads,
      budget_of_options options]
    omega
  | @unread step rest result failure stage =>
    simp only [stay?, stage, Option.some.injEq] at stays
    simp only [ticksLeft, reached, stage, options, ticksFor_cons, stepTicks]
    omega
  | @halted rest fault stage =>
    have least := close_le_ticksFor task.options pace rest
    simp only [stay?, stage, Option.some.injEq] at stays
    simp only [ticksLeft, reached, stage]
    omega
  | @acted result action rest failure stage =>
    have short := Reply.wait_le (task.budget action) (session.act result.order)
    simp only [stay?, stage, Option.some.injEq] at stays
    simp only [ticksLeft, reached, stage, options]
    omega
  | @photographed result failure rest picture stage =>
    have short := Reply.wait_le task.options.stepTimeout (session.photograph result.order)
    simp only [stay?, stage, Option.some.injEq] at stays
    simp only [ticksLeft, reached, stage, options]
    omega
  | @decided result failure rest decides =>
    have short := Reply.wait_le task.options.stepTimeout (session.photograph result.order)
    cases decides with
    | bare stage | pictured stage =>
      simp only [stay?, stage, Option.some.injEq] at stays
      simp only [ticksLeft, reached, stage, options]
      omega
  | @stopped result failure rest fault decides =>
    have short := Reply.wait_le task.options.stepTimeout (session.photograph result.order)
    have least := close_le_ticksFor task.options pace rest
    cases decides with
    | bare stage | pictured stage =>
      simp only [stay?, stage, Option.some.injEq] at stays
      simp only [ticksLeft, reached, stage]
      omega
  | closed stage =>
    simp only [stay?, stage] at stays
    simp only [ticksLeft, reached, stage, stays, Option.getD_some]
    omega

/-- Each stage takes a turn off the turns that are left. -/
theorem Onward.turnsLeft_lt {next : RunTask} (onward : task.Onward session next.stage) :
    next.turnsLeft < task.turnsLeft := by
  generalize reached : next.stage = stage at onward
  cases onward with
  | launched stage | unlaunched stage | begun _ stage | unread _ _ stage | halted _ stage
  | acted _ stage | photographed _ stage | closed stage =>
    simp only [turnsLeft, reached, stage, List.length_cons]
    omega
  | decided decides | stopped _ decides =>
    cases decides with
    | bare stage | pictured stage =>
      simp only [turnsLeft, reached, stage]
      omega

/-- A task goes on to its steps when its browser was launched. -/
theorem Onward.launch_eq {next : RunTask} (onward : task.Onward session next.stage)
    (busy : next.isOver = false) (launching : task.stage = .launching) :
    session.launch = .ok () := by
  unfold isOver at busy
  generalize next.stage = stage at onward busy
  cases onward with
  | launched _ answer => exact answer
  | unlaunched => cases busy
  | begun _ stage | unread _ _ stage | halted _ stage | acted _ stage | photographed _ stage
  | closed stage => simp [stage] at launching
  | decided decides | stopped _ decides =>
    cases decides with
    | bare stage | pictured stage => simp [stage] at launching

/-- A task ends after its browser has failed to launch, or when it is closed. -/
theorem Onward.ended {next : RunTask} (onward : task.Onward session next.stage)
    (finished : next.isOver = true) :
    ∃ last, next.stage = .ended last ∧ last.status.isTerminal = true ∧
      ((∃ error, session.launch = .error error) ∨ ∃ fault, task.stage = .closing fault) := by
  unfold isOver at finished
  generalize next.stage = stage at onward finished
  cases onward with
  | unlaunched stage answer final => exact ⟨_, rfl, final, .inl ⟨_, answer⟩⟩
  | closed stage final => exact ⟨_, rfl, final, .inr ⟨_, stage⟩⟩
  | _ => cases finished

end RunTask

namespace Engine

variable {engine middle : Engine} {number : Nat} {task : RunTask} {session : Session}

/-- A task has come onward, and its engine has it in a new stage. -/
def Brings (engine : Engine) (number : Nat) (task : RunTask) (session : Session) : Prop :=
  ∃ next, engine.task? number = some next ∧ task.SameRun next ∧ task.Onward session next.stage

theorem brings_updateTask (tasks : middle.tasks = engine.tasks)
    (found : engine.task? number = some task) {change : RunTask → RunTask}
    (same : task.SameRun (change task)) (onward : task.Onward session (change task).stage) :
    (middle.updateTask number change).Brings number task session := by
  refine ⟨change task, ?_, same, onward⟩
  rw [task?_updateTask, if_pos rfl, task?, tasks]
  exact congrArg (Option.map _) found

/-- A task that is told its stage comes there. -/
theorem brings_setStage (tasks : middle.tasks = engine.tasks)
    (found : engine.task? number = some task) {stage : Stage}
    (onward : task.Onward session stage) :
    (middle.setStage number stage).Brings number task session :=
  brings_updateTask tasks found ⟨rfl, rfl, rfl, rfl⟩ onward

/-- A run that is finalized has a last state. -/
theorem brings_finalize (tasks : middle.tasks = engine.tasks)
    (found : engine.task? number = some task) (fatal : Option String) (failed : Bool) (now : Int)
    (onward : ∀ last : Run, last.status.isTerminal = true → task.Onward session (.ended last)) :
    (middle.finalize number task fatal failed now).Brings number task session := by
  let status :=
    finalStatus (middle.registry.cancelRequested task.active) (fatal.isSome || failed)
  have final : status.isTerminal = true := finalStatus_isTerminal _ _
  have rests : middle.Rests (middle.write (·.moveRun now task.run.id status fatal)).2 :=
    .write (.moveRun now task.run.id status fatal) rfl
  have kept := rests.tasks.trans tasks
  unfold Engine.finalize
  simp only
  rcases middle.write_cases (·.moveRun now task.run.id status fatal) with
    ⟨error, written⟩ | ⟨run, store, -, moved, written⟩
  · simp only [status] at written kept final
    rw [written] at kept ⊢
    refine brings_setStage ?_ found (onward _ final)
    exact kept
  · obtain ⟨row, -, -, rfl, -⟩ := Store.moveRun_eq moved
    simp only [status] at written kept final
    rw [written] at kept ⊢
    refine brings_setStage ?_ found (onward _ final)
    exact kept

/-- A step that begins comes to its action or its screenshot, or the run is closed. -/
theorem brings_beginStep (found : engine.task? number = some task) {step : Step}
    {rest : List Step} (stage : task.stage = .ready (step :: rest)) (now : Int) :
    (engine.beginStep number task step rest now).Brings number task session := by
  unfold Engine.beginStep
  simp only
  have rests {result : StepResult} :
      engine.Rests (engine.mint.2.writeOnly (·.insertResult result)).2 :=
    (Rests.mint engine).trans (.writeOnly (.insertResult result) rfl)
  split
  · next outcome => exact brings_setStage (rests.of_eq outcome).tasks found (.halted _ stage)
  · next outcome =>
    have tasks := (rests.of_eq outcome).tasks
    split
    · next action reads => exact brings_setStage tasks found (.begun _ stage reads)
    · exact brings_setStage tasks found (.unread _ _ stage)

/-- A step that ends lets the run go on, or the run is closed. -/
theorem brings_endStep (tasks : middle.tasks = engine.tasks)
    (found : engine.task? number = some task) {result : StepResult} {failure : Option String}
    {rest : List Step} (decides : task.Decides result failure rest) (path : Option String)
    (now : Int) :
    (middle.endStep number task result failure path rest now).Brings number task session := by
  unfold Engine.endStep
  simp only
  have rests {outcome : StepResult} :
      middle.Rests (middle.writeOnly (·.finishResult outcome)).2 :=
    .writeOnly (.finishResult outcome) rfl
  split
  · next outcome =>
    have kept := (rests.of_eq outcome).tasks.trans tasks
    exact brings_setStage kept found (.stopped _ decides)
  · next outcome =>
    have kept := (rests.of_eq outcome).tasks.trans tasks
    refine brings_updateTask kept found ⟨rfl, rfl, rfl, rfl⟩ ?_
    rcases stageAfter_cases task.options
      (stepStatus (middle.registry.cancelRequested task.active) failure.isSome) rest with
      goes | stops
    · simp only [goes]
      exact .decided decides
    · simp only [stops]
      exact .stopped _ decides

/-- A task that is not over comes onward when it proceeds, whatever its browser does. -/
theorem brings_proceed (found : engine.task? number = some task) (busy : task.isOver = false)
    (session : Session) (now : Int) :
    (engine.proceed session number now).Brings number task session := by
  simp only [Engine.proceed, found]
  cases stage : task.stage with
  | launching =>
    simp only [launched, found, stage]
    cases answer : session.launch with
    | error error =>
      exact brings_finalize rfl found _ _ now fun last final => .unlaunched stage answer final
    | ok _ => exact brings_setStage rfl found (.launched stage answer)
  | ready rest =>
    simp only [advance, found, stage]
    cases rest with
    | nil => exact brings_setStage rfl found (.halted _ stage)
    | cons step rest =>
      simp only
      split
      · exact brings_setStage rfl found (.halted _ stage)
      · exact brings_beginStep found stage now
  | acting result action rest =>
    simp only [acted, found, stage]
    exact brings_setStage rfl found (.acted _ stage)
  | photographing result failure rest =>
    simp only [photographed, found, stage]
    split
    · exact brings_setStage rfl found (.photographed _ stage)
    · exact brings_endStep rfl found (.bare stage) _ now
  | storing result failure picture rest =>
    simp only [stored, found, stage]
    refine brings_endStep ?_ found (.pictured stage) _ now
    rfl
  | closing fault =>
    simp only [closed, found, stage]
    cases fault with
    | none => exact brings_finalize rfl found _ _ now fun last final => .closed stage final
    | some fault =>
      have rests : engine.Rests (engine.writeAlways (·.failPending now task.run.id fault)).2 :=
        .writeAlways (.failPending now task.run.id fault) rfl
      exact brings_finalize rests.tasks found _ _ now fun last final => .closed stage final
  | ended run => simp [RunTask.isOver, stage] at busy
  | panicked => simp [RunTask.isOver, stage] at busy

end Engine

end StepRunner
