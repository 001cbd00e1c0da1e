import Mathlib.Data.List.Induction
import StepRunner.Proofs.Engine.Apart
import StepRunner.Proofs.Engine.Breakdown
import StepRunner.Proofs.Engine.Continuing

/-!
This file lets other processes recover the store while a run is in progress.
A recovery fails the stored run although it goes on, and the end that the run comes to is then told
but not stored.
-/

namespace StepRunner

theorem RunTask.isOver_of_hasEnded {task : RunTask} (complete : task.hasEnded = true) :
    task.isOver = true := by
  unfold hasEnded at complete
  unfold isOver
  split at complete <;> simp_all

/-- Something that happens on the store: a turn, or half of a recovery by another process. -/
inductive Happening where
  | turn (turn : Turn)
  | recoverResults (now : Int)
  | recoverRuns (now : Int)

/-- The time of a recovery of the runs. -/
def Happening.recovery? : Happening → Option Int
  | turn _ | recoverResults _ => none
  | recoverRuns now => some now

/-- The time of the first recovery of the runs. -/
def Happening.firstRecovery? (happenings : List Happening) : Option Int :=
  happenings.findSome? recovery?

namespace System

/-- Changes the store from outside. -/
def changeStore (system : System) (step : Store → Store) : System :=
  system.change fun engine => { engine with store := step engine.store }

section Happenings

variable (sessions : Nat → Session)

/-- The system after something has happened. -/
def face (system : System) : Happening → System
  | .turn turn => system.step sessions turn
  | .recoverResults now => system.changeStore (·.recoverResults now)
  | .recoverRuns now => system.changeStore (·.recoverRuns now)

/-- The system after several things have happened. -/
def amid (system : System) (happenings : List Happening) : System :=
  happenings.foldl (face sessions) system

@[simp] theorem amid_concat (system : System) (happenings : List Happening)
    (happening : Happening) :
    system.amid sessions (happenings ++ [happening]) =
      (system.amid sessions happenings).face sessions happening := by
  simp [amid]

end Happenings

/-- The task of a run goes on in the slot, whatever recoveries have made of the stored run. -/
structure Live (system : System) (number : Nat) (task : RunTask) (found? : Option Int) : Prop where
  held : system.engine.registry.slot = .active task.active.ticket task.active.context
  waiting : system.waiting = []
  present : system.engine.task? number = some task
  busy : task.isOver = false
  ceased : ∀ other rival, system.engine.task? other = some rival → other ≠ number →
    rival.isOver = true
  runId : task.active.context.runId = task.run.id
  testCaseId : task.active.context.testCaseId = task.run.testCaseId
  owned : system.engine.store.tables.Owns task.active.context.projectId task.run.testCaseId
  running : task.run.status = .running
  unfailed : task.run.error = none
  stored : task.run.shown found? ∈ system.engine.store.tables.runs

/-- The system is consistent, except that recoveries may have failed the run in progress. -/
structure Serving (system : System) : Prop where
  reliable : system.engine.refusals = []
  store : system.engine.store.Sound
  tickets : system.engine.registry.Ordered
  distinct : system.engine.runIds.Nodup
  minted : ∀ id ∈ system.engine.runIds, ∃ number < system.engine.store.minted,
    id = Store.idOf number
  holder : system.Phase ∨ ∃ number task found?, system.Live number task found?

/-- A run has come to its end, which is told; it is stored unless a recovery found the run. -/
structure Concluded (before after : System) (number : Nat) (task : RunTask) (found? : Option Int)
    (ending : Run) : Prop where
  ended : after.engine.task? number = some { task with stage := .ended ending }
  named : ending.id = task.run.id
  terminal : ending.status.isTerminal = true
  told : after.engine.events = before.engine.events ++ [.runFinished ending.id ending.status]
  stored : after.engine.store.tables.run? ending.id =
    some (found?.elim ending (Store.interrupted task.run))
  /-- A recovery that comes between the check and the write of this end leaves no trace. -/
  overwrites : found? = none → ∀ instant,
    ((before.engine.store.recoverRuns instant).writeMove ending).tables.run? ending.id =
      some ending

/-- What a turn makes of a system in which a run goes on. -/
structure Turned (before after : System) (number : Nat) (task : RunTask) (found? : Option Int) :
    Prop where
  serving : after.Serving
  tasks : ∃ change, after.engine.tasks = before.engine.tasks.modify number change
  fate : (∃ later, after.Live number later found? ∧ later.run = task.run) ∨
    (∃ ending, before.Concluded after number task found? ending) ∨
    after.engine.task? number = some { task with stage := .panicked }

variable {system later : System} {number other : Nat} {task rival : RunTask}
variable {found? : Option Int}

theorem Turned.task?_eq (turned : system.Turned later number task found?) (other : Nat) :
    ∃ change, later.engine.task? other = (system.engine.updateTask number change).task? other := by
  obtain ⟨change, tasks⟩ := turned.tasks
  refine ⟨change, ?_⟩
  rw [Engine.task?, tasks]
  rfl

/-- The other tasks stay as they are. -/
theorem Turned.task?_of_ne (turned : system.Turned later number task found?)
    (different : number ≠ other) : later.engine.task? other = system.engine.task? other := by
  obtain ⟨change, same⟩ := turned.task?_eq other
  rw [same, Engine.task?_updateTask, if_neg different]

/-- No task is new while a run goes on. -/
theorem Turned.task?_of_none (turned : system.Turned later number task found?)
    (absent : system.engine.task? other = none) : later.engine.task? other = none := by
  obtain ⟨change, same⟩ := turned.task?_eq other
  rw [same, Engine.task?_updateTask, absent]
  simp

theorem Consistent.serving (consistent : system.Consistent) : system.Serving where
  reliable := consistent.reliable
  store := consistent.store
  tickets := consistent.tickets
  distinct := consistent.distinct
  minted := consistent.minted
  holder := .inl consistent.phase

theorem Serving.consistent (serving : system.Serving) (phase : system.Phase) :
    system.Consistent where
  reliable := serving.reliable
  store := serving.store
  tickets := serving.tickets
  distinct := serving.distinct
  minted := serving.minted
  phase := phase

/-- A change that starts no run keeps the runs of the tasks distinct. -/
theorem Serving.next (serving : system.Serving)
    (holder : later.Phase ∨ ∃ number task found?, later.Live number task found?)
    (reliable : later.engine.refusals = []) (store : later.engine.store.Sound)
    (tickets : later.engine.registry.Ordered)
    (runIds : later.engine.runIds = system.engine.runIds)
    (minted : system.engine.store.minted ≤ later.engine.store.minted) : later.Serving where
  reliable := reliable
  store := store
  tickets := tickets
  distinct := runIds ▸ serving.distinct
  minted := by
    rw [runIds]
    intro id known
    obtain ⟨number, early, same⟩ := serving.minted id known
    exact ⟨number, lt_of_lt_of_le early minted, same⟩
  holder := holder

theorem Running.live {finished : List StepResult} (running : system.Running number task finished) :
    system.Live number task none where
  held := running.held
  waiting := running.waiting
  present := running.found
  busy := running.busy
  ceased := running.ceased
  runId := running.sound.runId
  testCaseId := running.sound.testCaseId
  owned := running.sound.owned
  running := running.sound.running
  unfailed := running.sound.unfailed
  stored := running.sound.stored

namespace Live

/-- Writes beside the run in progress let it go on. -/
theorem carried (live : system.Live number task found?) {engine : Engine}
    (carries : system.engine.Carries engine) :
    (system.change fun _ => engine).Live number task found? := by
  obtain ⟨testCase, among, facts⟩ := live.owned
  exact
    { held := carries.registry ▸ live.held
      waiting := live.waiting
      present := by
        have present := live.present
        rwa [Engine.task?, ← carries.tasks] at present
      busy := live.busy
      ceased := by
        have ceased := live.ceased
        simp only [Engine.task?] at ceased
        rwa [← carries.tasks] at ceased
      runId := live.runId
      testCaseId := live.testCaseId
      owned := ⟨testCase, carries.testCases ▸ among, facts⟩
      running := live.running
      unfailed := live.unfailed
      stored := carries.runs ▸ live.stored }

theorem beside (live : system.Live number task found?) {engine : Engine}
    (beside : system.engine.Beside engine) :
    (system.change fun _ => engine).Live number task found? := by
  obtain ⟨store, installs, artifacts, aside, rfl⟩ := beside
  have spared := aside.spared task.active.context.projectId task.active.context.testCaseId
    (by simp [Registry.holdsProject, live.held]) (by simp [Registry.holdsTestCase, live.held])
    (live.testCaseId ▸ live.owned)
  rw [live.testCaseId] at spared
  exact
    { live with
      owned := spared.owns live.owned
      stored := spared.run_mem _ live.stored (task.run.shown_testCaseId found?) }

theorem stopped (live : system.Live number task found?) (cancelled : List Nat) :
    (system.change fun engine =>
      { engine with registry := { engine.registry with cancelled } }).Live number task found? :=
  { live with }

theorem over_updateTask (live : system.Live number task found?) {change : RunTask → RunTask} :
    ∀ other rival, (system.engine.updateTask number change).task? other = some rival →
      other ≠ number → rival.isOver = true := by
  intro other rival present different
  rw [Engine.task?_updateTask, if_neg (Ne.symm different)] at present
  exact live.ceased other rival present different

theorem present_updateTask (live : system.Live number task found?) (change : RunTask → RunTask) :
    (system.engine.updateTask number change).task? number = some (change task) := by
  rw [Engine.task?_updateTask, if_pos rfl, live.present]
  rfl

/-- All tasks are over once the task of the run in progress is. -/
theorem over_of_changed (live : system.Live number task found?) {change : RunTask → RunTask}
    (ceased : (change task).isOver = true) :
    ∀ other rival, (system.engine.updateTask number change).task? other = some rival →
      rival.isOver = true := by
  intro other rival present
  by_cases same : other = number
  · subst same
    rw [live.present_updateTask change] at present
    cases present
    exact ceased
  · exact live.over_updateTask other rival present same

theorem went (live : system.Live number task found?) {change : RunTask → RunTask}
    (run : ∀ task, (change task).run = task.run)
    (active : ∀ task, (change task).active = task.active) (busy : (change task).isOver = false) :
    (system.change (·.updateTask number change)).Live number (change task) found? where
  held := by
    rw [active]
    exact live.held
  waiting := live.waiting
  present := live.present_updateTask change
  busy := busy
  ceased := live.over_updateTask
  runId := by
    rw [active, run]
    exact live.runId
  testCaseId := by
    rw [active, run]
    exact live.testCaseId
  owned := by
    rw [active, run]
    exact live.owned
  running := by
    rw [run]
    exact live.running
  unfailed := by
    rw [run]
    exact live.unfailed
  stored := by
    rw [run]
    exact live.stored

end Live

namespace Serving

theorem carried (serving : system.Serving) (live : system.Live number task found?)
    {engine : Engine} (carries : system.engine.Carries engine) :
    (system.change fun _ => engine).Serving := by
  refine serving.next (.inr ⟨number, task, found?, live.carried carries⟩) carries.reliable
    carries.sound ?_ ?_ carries.minted
  · rw [change, carries.registry]
    exact serving.tickets
  · simp only [change, Engine.runIds, carries.tasks]

/-- A change beside the run in progress lets it go on. -/
theorem turned_beside (serving : system.Serving) (live : system.Live number task found?)
    {engine : Engine} (beside : system.engine.Beside engine) :
    system.Turned (system.change fun _ => engine) number task found? := by
  have still := live.beside beside
  obtain ⟨store, installs, artifacts, aside, rfl⟩ := beside
  exact
    { serving := serving.next (.inr ⟨number, task, found?, still⟩) serving.reliable aside.sound
        serving.tickets rfl aside.minted
      tasks := ⟨id, (List.modify_id _ _).symm⟩
      fate := .inl ⟨task, still, rfl⟩ }

theorem turned_refl (serving : system.Serving) (live : system.Live number task found?) :
    system.Turned system number task found? :=
  serving.turned_beside live (.refl serving.store)

/-- A request to stop lets the run in progress go on. -/
theorem turned_cancel (serving : system.Serving) (live : system.Live number task found?)
    (runId : String) :
    system.Turned (system.change fun engine => (engine.cancel runId).2) number task found? := by
  simp only [change, Engine.cancel, Registry.requestCancel_of_held runId live.held]
  split
  · have still := live.stopped (task.active.ticket :: system.engine.registry.cancelled)
    have tickets := serving.tickets.stopped
      (show system.engine.registry.slot.ticket? = some task.active.ticket by
        simp [live.held, Slot.ticket?])
    exact
      { serving := serving.next (.inr ⟨number, task, found?, still⟩) serving.reliable
          serving.store tickets rfl le_rfl
        tasks := ⟨id, (List.modify_id _ _).symm⟩
        fate := .inl ⟨task, still, rfl⟩ }
  · exact serving.turned_refl live

/-- A breakdown of its browser ends the task of the run in progress. -/
theorem turned_breakDown (serving : system.Serving) (live : system.Live number task found?) :
    system.Turned (system.change (·.brokeDown number)) number task found? := by
  simp only [change, Engine.brokeDown, live.present, live.busy, Bool.false_eq_true, if_false,
    Registry.finish_of_held live.held]
  exact
    { serving := serving.next (.inl (.idle ⟨rfl, live.waiting, live.over_of_changed rfl⟩))
        serving.reliable serving.store serving.tickets.freed (runIds_updateTask _ fun _ => rfl)
        le_rfl
      tasks := ⟨_, rfl⟩
      fate := .inr (.inr (live.present_updateTask _)) }

/-- The run in progress comes to its end. -/
theorem turned_finalize (serving : system.Serving) (live : system.Live number task found?)
    {engine : Engine} (carries : system.engine.Carries engine)
    (quiet : engine.events = system.engine.events) (fatal : Option String) (failed : Bool)
    (now : Int) :
    system.Turned (system.change fun _ => engine.finalize number task fatal failed now) number task
      found? := by
  have still := live.carried carries
  have served := serving.carried live carries
  have reliable := served.reliable
  have sound := served.store
  simp only [change] at reliable sound
  let ending := engine.endedRun task fatal failed now
  let store := if found?.isSome then engine.store else engine.store.writeMove ending
  have keyed : store.Sound := by
    simp only [store]
    split
    · exact sound
    · exact sound.writeMove ending
  have minted : engine.store.minted ≤ store.minted := by
    simp only [store]
    split <;> exact le_rfl
  rw [Engine.finalize_shown reliable sound still.stored still.running still.unfailed still.held]
  exact
    { serving := served.next (.inl (.idle ⟨rfl, still.waiting, still.over_of_changed rfl⟩))
        reliable keyed served.tickets.freed (runIds_updateTask _ fun _ => rfl) minted
      tasks := by
        refine ⟨fun task => { task with stage := .ended ending }, ?_⟩
        rw [← carries.tasks]
        rfl
      fate := by
        refine .inr (.inl ⟨ending, ?_⟩)
        exact
          { ended := still.present_updateTask _
            named := rfl
            terminal := Engine.finalStatus_isTerminal _ _
            told := by
              rw [← quiet]
              exact Engine.events_emit _
            stored := by
              refine keyed.tables.keyed.run?_eq_some_iff.2 ?_
              cases found? with
              | none =>
                exact ⟨(Store.mem_runs_writeMove sound still.stored _ _ _).2 (.inl rfl), rfl⟩
              | some instant => exact ⟨still.stored, rfl⟩
            overwrites := by
              rintro rfl instant
              exact Store.run?_writeMove_recoverRuns serving.store live.stored live.running _ _ _ _
            } }

/-- The task of the run in progress goes on, or the run comes to its end. -/
theorem turned_proceeds (serving : system.Serving) (live : system.Live number task found?)
    {now : Int} {after : Engine} (proceeds : system.engine.Proceeds number task now after) :
    system.Turned (system.change fun _ => after) number task found? := by
  cases proceeds with
  | @on middle carries next run active busy =>
    have still := (live.carried carries).went run active busy
    have served := serving.carried live carries
    exact
      { serving := served.next (.inr ⟨number, _, found?, still⟩) served.reliable served.store
          served.tickets (runIds_updateTask _ run) le_rfl
        tasks := ⟨next, by rw [← carries.tasks]; rfl⟩
        fate := .inl ⟨next task, still, run task⟩ }
  | ends carries quiet fatal failed =>
    exact serving.turned_finalize live carries quiet fatal failed now

/-- What a turn makes of a system in which a run goes on. -/
theorem turned (serving : system.Serving) (live : system.Live number task found?)
    (sessions : Nat → Session) (turn : Turn) :
    system.Turned (system.step sessions turn) number task found? := by
  have reliable := serving.reliable
  have sound := serving.store
  have still := serving.turned_refl live
  have taken : system.engine.registry.slot ≠ .empty := by simp [live.held]
  obtain ⟨now, move⟩ := turn
  cases move with
  | begin testCaseId browser options =>
    obtain ⟨error, refused⟩ := system.engine.prepare_of_held taken testCaseId browser options
    simpa only [step, refused] using still
  | conclude index installed => simpa [step, live.waiting] using still
  | abandon index => simpa [step, live.waiting] using still
  | proceed other =>
    by_cases own : other = number
    · subst own
      exact serving.turned_proceeds live
        (Engine.proceeds reliable sound live.present live.busy (sessions other) now)
    · have rests : system.engine.proceed (sessions other) other now = system.engine :=
        Engine.proceed_of_over (fun rival present => live.ceased other rival present own) _ now
      simpa only [step, change, rests] using still
  | breakDown other =>
    by_cases own : other = number
    · subst own
      exact serving.turned_breakDown live
    · have rests : system.engine.brokeDown other = system.engine :=
        Engine.brokeDown_of_over fun rival present => live.ceased other rival present own
      simpa only [step, change, rests] using still
  | cancel runId => exact serving.turned_cancel live runId
  | createProject name => exact serving.turned_beside live (.createProject reliable sound now name)
  | createTestCase projectId title lines =>
    exact serving.turned_beside live (.createTestCase reliable sound now projectId title lines)
  | updateSteps testCaseId lines =>
    exact serving.turned_beside live (.updateSteps reliable sound now testCaseId lines)
  | deleteProject id => exact serving.turned_beside live (.deleteProject reliable sound id)
  | deleteTestCase id => exact serving.turned_beside live (.deleteTestCase reliable sound id)
  | read path variant => exact serving.turned_beside live ⟨_, _, _, .refl sound, rfl⟩
  | install change => exact serving.turned_beside live ⟨_, _, _, .refl sound, rfl⟩

/-- A change of rows by another process keeps the holder of the slot. -/
theorem changeStore (serving : system.Serving) {step : Store → Store}
    (sound : (step system.engine.store).Sound)
    (minted : (step system.engine.store).minted = system.engine.store.minted)
    (testCases : (step system.engine.store).tables.testCases =
      system.engine.store.tables.testCases)
    (lives : ∀ number task found?, system.Live number task found? →
      ∃ again?, (system.changeStore step).Live number task again?) :
    (system.changeStore step).Serving := by
  refine serving.next ?_ serving.reliable sound serving.tickets rfl minted.ge
  rcases serving.holder with phase | ⟨number, task, found?, live⟩
  · rcases phase with idle | ⟨call, starting⟩ | ⟨number, task, finished, running⟩
    · exact .inl (.idle ⟨idle.free, idle.waiting, idle.ceased⟩)
    · obtain ⟨testCase, among, facts⟩ := starting.sound.owned
      have kept : call.Sound system.engine.registry (step system.engine.store).tables :=
        { starting.sound with owned := ⟨testCase, testCases ▸ among, facts⟩ }
      exact .inl (.starting call ⟨starting.held, starting.waiting, starting.ceased, kept⟩)
    · exact .inr ⟨number, task, lives number task none running.live⟩
  · exact .inr ⟨number, task, lives number task found? live⟩

end Serving

section Recoveries

theorem Live.recoverResults (live : system.Live number task found?) (now : Int) :
    (system.changeStore (·.recoverResults now)).Live number task found? :=
  { live with }

/-- The recovery that finds a run in progress first fails its row. -/
theorem Live.recoverRuns (live : system.Live number task found?) (now : Int) :
    (system.changeStore (·.recoverRuns now)).Live number task (found?.or (some now)) :=
  { live with stored := Store.mem_recoverRuns live.running live.stored now }

end Recoveries

variable {sessions : Nat → Session}

/-- Whatever happens, the system goes on serving. -/
theorem Serving.face (serving : system.Serving) (sessions : Nat → Session)
    (happening : Happening) : (system.face sessions happening).Serving := by
  cases happening with
  | turn turn =>
    rcases serving.holder with phase | ⟨number, task, found?, live⟩
    · exact ((serving.consistent phase).step sessions turn).serving
    · exact (serving.turned live sessions turn).serving
  | recoverResults now =>
    exact serving.changeStore (serving.store.recoverResults now) rfl rfl
      fun number task found? live => ⟨found?, live.recoverResults now⟩
  | recoverRuns now =>
    exact serving.changeStore (serving.store.recoverRuns now) rfl rfl
      fun number task found? live => ⟨_, live.recoverRuns now⟩

theorem Serving.amid (serving : system.Serving) (sessions : Nat → Session)
    (happenings : List Happening) : (system.amid sessions happenings).Serving := by
  induction happenings generalizing system with
  | nil => exact serving
  | cons happening happenings inductionHypothesis =>
    exact inductionHypothesis (serving.face sessions happening)

/-- A task that is over stays as it is, whatever happens. -/
theorem Serving.task?_of_over (serving : system.Serving) (sessions : Nat → Session)
    (happening : Happening) (present : system.engine.task? other = some rival)
    (ceased : rival.isOver = true) :
    (system.face sessions happening).engine.task? other = some rival := by
  cases happening with
  | turn turn =>
    rcases serving.holder with phase | ⟨number, task, found?, live⟩
    · have consistent := serving.consistent phase
      exact (consistent.transition sessions turn).task?_of_over present ceased
    · have different : number ≠ other := by
        rintro rfl
        obtain rfl := Option.some.inj (present.symm.trans live.present)
        simp [live.busy] at ceased
      exact ((serving.turned live sessions turn).task?_of_ne different).trans present
  | recoverResults now => exact present
  | recoverRuns now => exact present

/-- A run in progress goes on or its task is over, whatever happens. -/
theorem Serving.faced (serving : system.Serving) (live : system.Live number task found?)
    (sessions : Nat → Session) (happening : Happening) :
    (∃ rival, (system.face sessions happening).engine.task? number = some rival ∧
        rival.isOver = true) ∨
      ∃ later, (system.face sessions happening).Live number later
        (found?.or happening.recovery?) ∧ later.run = task.run := by
  cases happening with
  | turn turn =>
    have same : found?.or (Happening.recovery? (.turn turn)) = found? := Option.or_none
    rw [same]
    rcases (serving.turned live sessions turn).fate with goes | ⟨ending, concluded⟩ | panicked
    · exact .inr goes
    · exact .inl ⟨_, concluded.ended, rfl⟩
    · exact .inl ⟨_, panicked, rfl⟩
  | recoverResults now =>
    have same : found?.or (Happening.recovery? (.recoverResults now)) = found? := Option.or_none
    rw [same]
    exact .inr ⟨task, live.recoverResults now, rfl⟩
  | recoverRuns now => exact .inr ⟨task, live.recoverRuns now, rfl⟩

/-- What has become of a run that was in progress, after several things have happened. -/
theorem Serving.amid_cases (serving : system.Serving) (live : system.Live number task none)
    (sessions : Nat → Session) (happenings : List Happening) :
    (∃ rival, (system.amid sessions happenings).engine.task? number = some rival ∧
        rival.isOver = true) ∨
      ∃ later, (system.amid sessions happenings).Live number later
        (Happening.firstRecovery? happenings) ∧ later.run = task.run := by
  induction happenings using List.reverseRecOn with
  | nil => exact .inr ⟨task, live, rfl⟩
  | append_singleton happenings happening inductionHypothesis =>
    have served := serving.amid sessions happenings
    have first : Happening.firstRecovery? (happenings ++ [happening]) =
        (Happening.firstRecovery? happenings).or happening.recovery? := by
      simp [Happening.firstRecovery?]
    rw [amid_concat, first]
    rcases inductionHypothesis with ⟨rival, present, ceased⟩ | ⟨middle, still, same⟩
    · exact .inl ⟨rival, served.task?_of_over sessions happening present ceased, ceased⟩
    · rcases served.faced still sessions happening with ended | ⟨later, goes, kept⟩
      · exact .inl ended
      · exact .inr ⟨later, goes, kept.trans same⟩

/-- A task that is new in a turn is that of a run that has just started. -/
theorem Transition.running_of_new {turn : Turn} (transition : Transition sessions system turn later)
    (consistent : system.Consistent) (new : system.engine.task? number = none)
    (begun : later.engine.task? number = some task) :
    ∃ finished, later.Running number task finished := by
  have absent : ¬system.engine.task? number = some task := by simp [new]
  have unchanged (holder : Nat) (change : RunTask → RunTask) :
      ¬(system.engine.updateTask holder change).task? number = some task := by
    rw [Engine.task?_updateTask, new]
    simp
  cases transition with
  | aside unmoved beside =>
    obtain ⟨store, installs, artifacts, aside, rfl⟩ := beside
    exact absurd begun absent
  | claimed idle call ticket testCaseId owned numbered => exact absurd begun absent
  | dropped call starting settles => exact absurd begun absent
  | started call starting settles =>
    have running := starting.started consistent.store turn.now
    have last : number = system.engine.tasks.length := by
      by_contra different
      have ceased := running.ceased number task begun different
      have beyond := List.getElem?_eq_none_iff.1 new
      have inside := (List.getElem?_eq_some_iff.1 begun).1
      simp only [Engine.started, Engine.emit, List.length_append, List.length_singleton] at inside
      omega
    subst last
    obtain rfl := Option.some.inj (begun.symm.trans running.found)
    exact ⟨[], running⟩
  | stopped running asked => exact absurd begun absent
  | passed running own passes => exact absurd begun (unchanged _ _)
  | begun running own stage goes => exact absurd begun (unchanged _ _)
  | decided running own decides made artifacts store sound minted testCases runs results =>
    exact absurd begun (unchanged _ _)
  | ended running own ends => exact absurd begun (unchanged _ _)
  | brokeDown running fault => exact absurd begun (unchanged _ _)

/-- What becomes of a run when other processes recover the store, at whatever times. -/
structure Intruded (system : System) (sessions : Nat → Session) (number : Nat) (run : Run) :
    Prop where
  running : run.status = .running
  /-- The first recovery during the run fails its row, and no other one changes it again. -/
  during : ∀ happenings task,
    (system.amid sessions happenings).engine.task? number = some task → task.isOver = false →
    task.run = run ∧ (system.amid sessions happenings).engine.store.tables.run? run.id =
      some (run.shown (Happening.firstRecovery? happenings))
  /-- A recovery also fails the step that the run is within. -/
  settles : ∀ happenings now,
    let later := system.amid sessions (happenings ++ [.recoverResults now])
    ∀ result ∈ later.engine.store.tables.results, result.status ≠ .pending
  /-- The run goes on all the same, and the end that is told is stored only without a recovery. -/
  ends : ∀ happenings turn task ended,
    (system.amid sessions happenings).engine.task? number = some task → task.isOver = false →
    ((system.amid sessions happenings).step sessions turn).engine.task? number = some ended →
    ended.hasEnded = true →
    ∃ ending, (system.amid sessions happenings).Concluded
      ((system.amid sessions happenings).step sessions turn) number task
      (Happening.firstRecovery? happenings) ending

theorem Serving.intrudes (serving : system.Serving) (live : system.Live number task none)
    (sessions : Nat → Session) : system.Intruded sessions number task.run where
  running := live.running
  during := by
    intro happenings other present busy
    have served := serving.amid sessions happenings
    rcases serving.amid_cases live sessions happenings with
      ⟨rival, found, ceased⟩ | ⟨later, goes, same⟩
    · obtain rfl := Option.some.inj (present.symm.trans found)
      simp [busy] at ceased
    · obtain rfl := Option.some.inj (present.symm.trans goes.present)
      refine ⟨same, served.store.tables.keyed.run?_eq_some_iff.2 ⟨?_, by simp⟩⟩
      rw [← same]
      exact goes.stored
  settles := by
    intro happenings now later result present
    simp only [later, amid_concat] at present
    have settled := Store.results_recoverResults (system.amid sessions happenings).engine.store now
    obtain ⟨old, -, rfl⟩ := List.mem_map.1 (settled ▸ present)
    exact Store.settled_status now old
  ends := by
    intro happenings turn other ended present busy found complete
    have served := serving.amid sessions happenings
    rcases serving.amid_cases live sessions happenings with
      ⟨rival, again, ceased⟩ | ⟨later, goes, same⟩
    · obtain rfl := Option.some.inj (present.symm.trans again)
      simp [busy] at ceased
    · obtain rfl := Option.some.inj (present.symm.trans goes.present)
      rcases (served.turned goes sessions turn).fate with
        ⟨next, still, -⟩ | concluded | panicked
      · obtain rfl := Option.some.inj (found.symm.trans still.present)
        exact absurd (RunTask.isOver_of_hasEnded complete) (by simp [still.busy])
      · exact concluded
      · obtain rfl := Option.some.inj (found.symm.trans panicked)
        cases complete

/--
A run that starts at any time goes on to its end, however often other processes recover the store.
Its row tells of that end if no recovery came between two turns of the run; otherwise it tells of
the first recovery.
-/
theorem intruded {store : Store} (sound : store.Sound) (artifacts : Artifacts)
    (options : RunOptions) (sessions : Nat → Session) (earlier : List Happening) (turn : Turn)
    (new : ((opened store artifacts options).amid sessions earlier).engine.task? number = none)
    (begun : (((opened store artifacts options).amid sessions earlier).step sessions
      turn).engine.task? number = some task) :
    (((opened store artifacts options).amid sessions earlier).step sessions turn).Intruded sessions
      number task.run := by
  have served := (Consistent.opened sound artifacts options).serving.amid sessions earlier
  have next := served.face sessions (.turn turn)
  rcases served.holder with phase | ⟨holder, other, found?, live⟩
  · have consistent := served.consistent phase
    obtain ⟨finished, running⟩ :=
      (consistent.transition sessions turn).running_of_new consistent new begun
    exact next.intrudes running.live sessions
  · have absent := (served.turned live sessions turn).task?_of_none new
    rw [absent] at begun
    cases begun

/-- A daemon starts on the same store while the browser of the sample is launched. -/
def sampleIntrusion : List Happening :=
  sampleStart.map .turn ++ [.recoverResults 3, .recoverRuns 3] ++ sampleTurns.map .turn

theorem intruded_sampleStart :
    ∃ task, (sample sampleStart).engine.task? 0 = some task ∧
      (sample sampleStart).Intruded (fun _ => .prompt) 0 task.run := by
  have present : ((sample sampleStart).engine.task? 0).isSome = true := by decide +kernel
  obtain ⟨task, begun⟩ := Option.isSome_iff_exists.1 present
  refine ⟨task, begun, ?_⟩
  exact intruded .empty default sampleOptions (fun _ => .prompt) (sampleClaim.map .turn)
    ⟨2, .conclude 0 (.ok ())⟩ (by decide +kernel) begun

/-- The end of a run that its callers get is told, and it is the stored one. -/
def Honest (system : System) : Prop :=
  ∀ number task ending, system.engine.task? number = some task → task.stage = .ended ending →
    .runFinished ending.id ending.status ∈ system.engine.events ∧
      system.engine.store.tables.run? ending.id = some ending

/-- A task has ended with a run that is not the stored one. -/
def misreports (system : System) (task : RunTask) : Bool :=
  match task.stage with
  | .ended ending => decide (system.engine.store.tables.run? ending.id ≠ some ending)
  | _ => false

/-- The run of the sample passes, and its row says that it was interrupted. -/
theorem not_honest_after_sampleIntrusion :
    ¬((opened {} default sampleOptions).amid (fun _ => .prompt) sampleIntrusion).Honest := by
  intro promise
  generalize shape : (opened {} default sampleOptions).amid (fun _ => .prompt) sampleIntrusion =
    system at promise
  have differs : (system.engine.task? 0).any system.misreports = true := by
    subst shape
    decide +kernel
  obtain ⟨task, present, facts⟩ := (Option.any_eq_true _ _).1 differs
  cases stage : task.stage with
  | ended ending =>
    simp only [misreports, stage, decide_eq_true_eq] at facts
    exact facts (promise 0 task ending present stage).2
  | _ => simp [misreports, stage] at facts

end System

end StepRunner
