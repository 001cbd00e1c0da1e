import StepRunner.Proofs.Engine.Pace

/-!
This file gives the turns of a system a clock.
A task goes on from its stage at its moment, while others take their turns at any time; each episode
leaves the task in time, or the task has ended and has freed its slot.
-/

namespace StepRunner

/-- The task with a number proceeds. -/
def Incident.proceeds (number : Nat) : Incident → Bool
  | .turn taken => taken.proceeds number
  | .store _ | .disk _ => false

/-- The browser of the task with a number breaks down. -/
def Incident.breaks (number : Nat) : Incident → Bool
  | .turn ⟨_, .breakDown other⟩ => other = number
  | _ => false

/-- What happens in time: the clock goes on, or something happens at an instant. -/
inductive Episode where
  | pass (ticks : Nat)
  | meet (incident : Incident)

/-- A system, the time, and the moment at which a task has come to its stage. -/
structure Timed where
  system : System
  time : Nat := 0
  since : Nat := 0

/-- A browser that launches is closed in some time. -/
def Closes (session : Session) (pace : Pace) : Prop :=
  (∃ error, session.launch = .error error) ∨ ∃ ticks, pace.close = some ticks

/-- A run has ended, and anybody may start the next one. -/
structure System.Freed (system : System) (number : Nat) (run : Run) : Prop where
  ended : ∃ task last, system.engine.task? number = some task ∧ task.run = run ∧
    task.stage = .ended last ∧ last.status.isTerminal = true
  free : system.engine.registry.slot = .empty
  startable : ∀ testCaseId browser options testCase, options.check = .ok () →
    system.engine.store.tables.testCase? testCaseId = some testCase →
    system.engine.store.tables.listSteps testCase.id ≠ [] →
    ∃ call engine, system.engine.prepare testCaseId browser options = .ok (call, engine)

/-- A run has not ended, and nobody may start another one. -/
structure System.Blocked (system : System) (number : Nat) (run : Run) : Prop where
  busy : ∃ task, system.engine.task? number = some task ∧ task.run = run ∧ task.isOver = false
  held : system.engine.registry.context?.map ActiveContext.runId = some run.id
  refused : ∀ testCaseId browser options call engine,
    system.engine.prepare testCaseId browser options ≠ .ok (call, engine)

namespace Timed

variable (sessions : Nat → Session) (pace : Pace) (number : Nat)

/-- The moment at which the task goes on from its stage, if there is one. -/
def due? (timed : Timed) : Option Nat :=
  (timed.system.engine.task? number).bind fun task =>
    (task.stay? (sessions number) pace).map (timed.since + ·)

/-- What an episode makes of a system in time. -/
def on (timed : Timed) : Episode → Timed
  | .pass ticks => { timed with time := timed.time + ticks }
  | .meet incident =>
    { timed with
      system := timed.system.meet sessions incident
      since := if incident.proceeds number then timed.time else timed.since }

/--
The clock does not run past the moment at which the task goes on, the task goes on at that moment
only, and its browser does not break down.
-/
def Allows (timed : Timed) : Episode → Prop
  | .pass ticks => ∀ due, timed.due? sessions pace number = some due → timed.time + ticks ≤ due
  | .meet incident =>
    incident.breaks number = false ∧
      (incident.proceeds number = true → ∀ task, timed.system.engine.task? number = some task →
        task.isOver = false → timed.due? sessions pace number = some timed.time)

/-- The system in time after several episodes. -/
def after (timed : Timed) (history : List Episode) : Timed :=
  history.foldl (on sessions number) timed

/-- Each episode of a history is allowed when it happens. -/
def Timely (timed : Timed) : List Episode → Prop
  | [] => True
  | episode :: rest =>
    timed.Allows sessions pace number episode ∧ (timed.on sessions number episode).Timely rest

end Timed

section Others

variable {sessions : Nat → Session} {system : System} {number : Nat} {task : RunTask}

theorem task?_of_modify {engine after : Engine} {other : Nat} {change : RunTask → RunTask}
    (tasks : after.tasks = engine.tasks.modify other change) (different : other ≠ number) :
    after.task? number = engine.task? number := by
  simp only [Engine.task?, tasks, List.getElem?_modify, if_neg different]
  cases engine.tasks[number]? <;> rfl

theorem task?_conclude (found : system.engine.task? number = some task) (call : StartCall)
    (installed : Except String Unit) (now : Int) :
    (system.engine.conclude call installed now).2.task? number = some task := by
  have rests := Engine.Rests.storeRun system.engine call now
  have kept {engine : Engine} (tasks : engine.tasks = system.engine.tasks) :
      engine.task? number = some task := by
    rw [Engine.task?, tasks]
    exact found
  unfold Engine.conclude
  split
  · exact kept rfl
  · split
    · next outcome => exact kept (rests.of_eq outcome).tasks
    · next outcome =>
      have inside := (List.getElem?_eq_some_iff.1 (kept (rests.of_eq outcome).tasks)).1
      simp only [Engine.spawn, Engine.task?, Engine.emit]
      rw [List.getElem?_append_left inside]
      exact kept (rests.of_eq outcome).tasks

/-- What others do leaves a task as it is. -/
theorem System.task?_meet (found : system.engine.task? number = some task) {incident : Incident}
    (other : incident.proceeds number = false) (calm : incident.breaks number = false) :
    (system.meet sessions incident).engine.task? number = some task := by
  have kept {engine : Engine} (rests : system.engine.Rests engine) :
      engine.task? number = some task := by
    rw [Engine.task?, rests.tasks]
    exact found
  cases incident with
  | store operation => exact found
  | disk refusals => exact found
  | turn turn =>
    obtain ⟨now, move⟩ := turn
    cases move with
    | begin testCaseId browser options =>
      simp only [System.meet, System.step]
      split
      · next prepared =>
        obtain ⟨-, -, -, -, -, -, registry, -, rfl⟩ := Engine.prepare_eq prepared
        exact found
      · exact found
    | conclude index installed =>
      simp only [System.meet, System.step]
      split
      · next call _ => exact task?_conclude found call installed now
      · exact found
    | abandon index =>
      simp only [System.meet, System.step]
      split
      · exact found
      · exact found
    | proceed rival =>
      have different : rival ≠ number := by simpa [Incident.proceeds, Turn.proceeds] using other
      cases present : system.engine.task? rival with
      | none => simpa [System.meet, System.step, change, Engine.proceed, present] using found
      | some mine =>
        cases busy : mine.isOver with
        | true =>
          have idle := Engine.proceed_of_over
            (fun task again => by rw [present] at again; exact Option.some.inj again ▸ busy)
            (sessions rival) now
          simpa [System.meet, System.step, change, idle] using found
        | false =>
          obtain ⟨change, tasks, -⟩ :=
            (Engine.Advances.proceed system.engine present busy (sessions rival) now).moved
          exact (task?_of_modify tasks different).trans found
    | breakDown rival =>
      have different : rival ≠ number := by simpa [Incident.breaks] using calm
      simp only [System.meet, System.step, change, Engine.brokeDown]
      split
      · exact found
      · split
        · exact found
        · exact (task?_of_modify rfl different).trans found
    | cancel runId => exact found
    | createProject name => exact kept (.createProject system.engine now name)
    | createTestCase projectId title lines =>
      exact kept (.createTestCase system.engine now projectId title lines)
    | updateSteps testCaseId lines =>
      exact kept (.updateSteps system.engine now testCaseId lines)
    | deleteProject id => exact kept (.delete (.deleteProject id) rfl _ _ _)
    | deleteTestCase id => exact kept (.delete (.deleteTestCase id) rfl _ _ _)
    | read path variant => exact found
    | install change => exact found

end Others

namespace Timed

variable {sessions : Nat → Session} {pace : Pace} {number : Nat} {timed : Timed}
  {task : RunTask} {deadline : Nat}

/-- A task that is not over is in time. -/
structure Live (sessions : Nat → Session) (pace : Pace) (number : Nat) (timed : Timed)
    (task : RunTask) (deadline : Nat) : Prop where
  orderly : timed.system.Orderly
  found : timed.system.engine.task? number = some task
  busy : task.isOver = false
  /-- The task ends by the deadline. -/
  within : timed.since + task.ticksLeft pace ≤ deadline
  /-- The task goes on from its stage later or now. -/
  patient : ∀ due, timed.due? sessions pace number = some due → timed.time ≤ due
  /-- A browser that fails to launch does nothing else. -/
  unlaunched : ∀ error, (sessions number).launch = .error error → task.stage = .launching

section Runs

theorem after_append (timed : Timed) (early late : List Episode) :
    timed.after sessions number (early ++ late) =
      (timed.after sessions number early).after sessions number late :=
  List.foldl_append

theorem timely_append {early late : List Episode} :
    timed.Timely sessions pace number (early ++ late) ↔
      timed.Timely sessions pace number early ∧
        (timed.after sessions number early).Timely sessions pace number late := by
  induction early generalizing timed with
  | nil => exact ⟨fun timely => ⟨trivial, timely⟩, And.right⟩
  | cons episode early inductionHypothesis =>
    simp only [List.cons_append, Timely, inductionHypothesis, and_assoc]
    rfl

end Runs

section Steps

theorem due?_of_found (found : timed.system.engine.task? number = some task) :
    timed.due? sessions pace number =
      (task.stay? (sessions number) pace).map (timed.since + ·) := by
  rw [due?, found]
  rfl

/-- The slot belongs to a task that is not over. -/
theorem Live.held (live : timed.Live sessions pace number task deadline) :
    timed.system.engine.registry.slot = .active task.active.ticket task.active.context := by
  refine (live.orderly.serves.held_iff (.active task.active)).2 ?_
  refine List.mem_append_right _ (List.mem_map.2 ⟨task, ?_, rfl⟩)
  exact List.mem_filter.2 ⟨List.mem_of_getElem? live.found, by simp [live.busy]⟩

/-- Nobody may start a run while a task is not over. -/
theorem Live.refused (live : timed.Live sessions pace number task deadline) {testCaseId : String}
    {browser : Browser} {options : RunOptions} {call : StartCall} {engine : Engine} :
    timed.system.engine.prepare testCaseId browser options ≠ .ok (call, engine) := by
  intro prepared
  obtain ⟨-, -, -, -, -, -, registry, reserved, -⟩ := Engine.prepare_eq prepared
  have free := (Registry.reserve_eq_ok_iff.1 reserved).1
  rw [live.held] at free
  cases free

theorem Live.blocked (live : timed.Live sessions pace number task deadline)
    (named : task.active.context.runId = task.run.id) :
    timed.system.Blocked number task.run where
  busy := ⟨task, live.found, rfl, live.busy⟩
  held := by simp [Registry.context?, live.held, named]
  refused := fun _ _ _ _ _ => live.refused

/-- The time is not over before a task that goes on some time has ended. -/
theorem Live.time_le (live : timed.Live sessions pace number task deadline) {due : Nat}
    (goes : timed.due? sessions pace number = some due) : timed.time ≤ deadline := by
  have early := live.patient due goes
  rw [due?_of_found live.found, Option.map_eq_some_iff] at goes
  obtain ⟨ticks, stays, rfl⟩ := goes
  have least := RunTask.stay_le_ticksLeft stays
  have within := live.within
  omega

/-- The clock goes on while a task stays in its stage. -/
theorem Live.pass (live : timed.Live sessions pace number task deadline) {ticks : Nat}
    (allowed : timed.Allows sessions pace number (.pass ticks)) :
    (timed.on sessions number (.pass ticks)).Live sessions pace number task deadline :=
  { orderly := live.orderly
    found := live.found
    busy := live.busy
    within := live.within
    patient := fun due goes => allowed due goes
    unlaunched := live.unlaunched }

/-- What others do leaves a task in time. -/
theorem Live.aside (live : timed.Live sessions pace number task deadline) {incident : Incident}
    (calm : incident.breaks number = false) (other : incident.proceeds number = false) :
    (timed.on sessions number (.meet incident)).Live sessions pace number task deadline := by
  have found : (timed.system.meet sessions incident).engine.task? number = some task :=
    System.task?_meet live.found other calm
  have since : (timed.on sessions number (.meet incident)).since = timed.since := by
    simp [on, other]
  exact
    { orderly := live.orderly.meet sessions incident
      found := found
      busy := live.busy
      within := by rw [since]; exact live.within
      patient := by
        intro due goes
        rw [due?_of_found found, since, ← due?_of_found live.found] at goes
        exact live.patient due goes
      unlaunched := live.unlaunched }

/-- A free slot lets anybody start a run. -/
theorem prepare_of_free {engine : Engine} (free : engine.registry.slot = .empty)
    {testCaseId : String} {browser : Browser} {options : RunOptions} {testCase : TestCase}
    (valid : options.check = .ok ())
    (found : engine.store.tables.testCase? testCaseId = some testCase)
    (filled : engine.store.tables.listSteps testCase.id ≠ []) :
    ∃ call after, engine.prepare testCaseId browser options = .ok (call, after) := by
  obtain ⟨reservation, registry, reserved⟩ : ∃ reservation registry,
      engine.registry.reserve testCase.projectId testCase.id = .ok (reservation, registry) :=
    ⟨_, _, Registry.reserve_eq_ok_iff.2 ⟨free, rfl, rfl⟩⟩
  refine ⟨⟨testCase, engine.store.tables.listSteps testCase.id, browser, options, reservation⟩,
    { engine with registry }, bind_eq_ok_iff.2 ⟨(), valid, ?_⟩⟩
  rw [found]
  exact refuse_eq_ok_iff.2 ⟨by simpa using filled, bind_eq_ok_iff.2 ⟨_, reserved, rfl⟩⟩

/-- A task that comes to its end gives up the slot. -/
theorem Live.freed (live : timed.Live sessions pace number task deadline) {next : RunTask}
    {now : Int} {session : Session}
    (reached : (timed.system.engine.proceed session number now).task? number = some next)
    (finished : next.isOver = true) :
    (timed.system.engine.proceed session number now).registry.slot = .empty := by
  obtain ⟨change, tasks, -, registry⟩ :=
    (Engine.Advances.proceed timed.system.engine live.found live.busy session now).moved
  have changed : change task = next := by
    rw [Engine.task?, tasks, List.getElem?_modify_eq,
      show timed.system.engine.tasks[number]? = some task from live.found] at reached
    exact Option.some.inj reached
  rw [changed, finished, if_pos rfl, Registry.finish_of_held live.held] at registry
  exact congrArg Registry.slot registry

/--
A task that goes on at its moment is in time, or it has ended and has freed its slot.
-/
theorem Live.proceed (live : timed.Live sessions pace number task deadline)
    (due : timed.due? sessions pace number = some timed.time) (now : Int) :
    (∃ next, (timed.on sessions number (.meet (.turn ⟨now, .proceed number⟩))).Live sessions pace
        number next deadline ∧ task.SameRun next ∧ next.turnsLeft < task.turnsLeft) ∨
      (timed.on sessions number (.meet (.turn ⟨now, .proceed number⟩))).system.Freed number
          task.run ∧ Closes (sessions number) pace := by
  obtain ⟨next, reached, same, onward⟩ :=
    Engine.brings_proceed live.found live.busy (sessions number) now
  obtain ⟨ticks, stays, moment⟩ : ∃ ticks, task.stay? (sessions number) pace = some ticks ∧
      timed.since + ticks = timed.time := by
    rw [due?_of_found live.found] at due
    exact Option.map_eq_some_iff.1 due
  have fewer := onward.ticksLeft_le same stays
  have within := live.within
  cases finished : next.isOver with
  | false =>
    refine .inl ⟨next, ?_, same, onward.turnsLeft_lt⟩
    have since : (timed.on sessions number (.meet (.turn ⟨now, .proceed number⟩))).since =
        timed.time := by simp [on, Incident.proceeds, Turn.proceeds]
    exact
      { orderly := live.orderly.meet sessions (.turn ⟨now, .proceed number⟩)
        found := reached
        busy := finished
        within := by rw [since]; omega
        patient := by
          intro due goes
          rw [due?_of_found reached, since, Option.map_eq_some_iff] at goes
          obtain ⟨later, -, rfl⟩ := goes
          exact Nat.le_add_right _ _
        unlaunched := by
          intro error fails
          have launched := onward.launch_eq finished (live.unlaunched error fails)
          rw [fails] at launched
          cases launched }
  | true =>
    obtain ⟨last, ended, final, cause⟩ := onward.ended finished
    have free := live.freed reached finished
    refine .inr ⟨⟨⟨next, last, reached, same.run, ended, final⟩, free, fun _ _ _ _ =>
      prepare_of_free free⟩, ?_⟩
    rcases cause with fails | ⟨fault, closing⟩
    · exact .inl fails
    · exact .inr ⟨ticks, by simpa [RunTask.stay?, closing] using stays⟩

/-- An allowed episode leaves a task in time, or the task has ended by then. -/
theorem Live.step (live : timed.Live sessions pace number task deadline) {episode : Episode}
    (allowed : timed.Allows sessions pace number episode) :
    (∃ next, (timed.on sessions number episode).Live sessions pace number next deadline ∧
        task.SameRun next) ∨
      (timed.on sessions number episode).time ≤ deadline ∧
        (timed.on sessions number episode).system.Freed number task.run ∧
        Closes (sessions number) pace := by
  cases episode with
  | pass ticks => exact .inl ⟨task, live.pass allowed, ⟨rfl, rfl, rfl, rfl⟩⟩
  | meet incident =>
    obtain ⟨calm, punctual⟩ := allowed
    cases own : incident.proceeds number with
    | false => exact .inl ⟨task, live.aside calm own, ⟨rfl, rfl, rfl, rfl⟩⟩
    | true =>
      have due := punctual own task live.found live.busy
      obtain ⟨now, rfl⟩ : ∃ now, incident = .turn ⟨now, .proceed number⟩ := by
        cases incident with
        | turn turn =>
          obtain ⟨now, move⟩ := turn
          cases move with
          | proceed other =>
            obtain rfl : other = number := of_decide_eq_true own
            exact ⟨now, rfl⟩
          | _ => cases own
        | store operation => cases own
        | disk refusals => cases own
      rcases live.proceed due now with ⟨next, alive, same, -⟩ | ⟨freed, closes⟩
      · exact .inl ⟨next, alive, same⟩
      · exact .inr ⟨live.time_le due, freed, closes⟩

end Steps

end Timed

end StepRunner
