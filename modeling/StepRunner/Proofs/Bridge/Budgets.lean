import StepRunner.Proofs.Artifacts.Containment
import StepRunner.Proofs.Engine.System
import StepRunner.Rehearsal.Machine

/-!
This file compares the time that the engine has for a step with the time that the bridge is given.
The engine goes by the options of the run, and the bridge is given the limit of the configuration.
-/

namespace StepRunner

namespace Rehearsal

section Talks

variable (talk : Talk) (command : Bridge.Command) (timeout : Duration)

/-- A far end that is running receives what it is asked. -/
theorem Talk.received_ask : (talk.ask command timeout).2.far.received =
    talk.far.received ++
      if talk.far.running then [⟨talk.near.nextId, command, timeout⟩] else [] := by
  simp only [ask]
  cases talk.far.running with
  | false => simp
  | true => simp only [Bool.not_true, Bool.false_eq_true, if_false]; split <;> rfl

/-- The near end of a session keeps its address and the time for its actions. -/
theorem Talk.near_ask :
    (talk.ask command timeout).2.near.actionTimeout = talk.near.actionTimeout ∧
      (talk.ask command timeout).2.near.baseUrl = talk.near.baseUrl := by
  simp only [ask]
  split
  · exact ⟨rfl, rfl⟩
  · split <;> exact ⟨rfl, rfl⟩

theorem Talk.near_launch {script : BridgeScript} {settings : BrowserSettings} {talk : Talk}
    (launched : Talk.launch script settings timeout = some (.ok talk)) :
    talk.near.actionTimeout = timeout ∧ talk.near.baseUrl = settings.baseUrl := by
  unfold launch at launched
  split at launched
  · cases launched
  · split at launched
    · cases launched
    · split at launched
      · cases launched
        exact ⟨rfl, rfl⟩
      · cases launched

end Talks

namespace Machine

variable {start machine later : Machine} {waits : Bool} {number : Nat} {config : Config}

section Reached

/-- The machines that come from a machine while anybody acts on its engine. -/
inductive Reaches (start : Machine) : Machine → Prop where
  | start : Reaches start start
  | change {machine : Machine} (step : Engine → Engine) (reached : Reaches start machine) :
      Reaches start (machine.change step)
  | advance {machine later : Machine} {waits : Bool} {number : Nat}
      (reached : Reaches start machine) (moved : machine.advance waits number = some later) :
      Reaches start later

theorem Reaches.advanceBy (reached : start.Reaches machine) (waits : Bool) (number : Nat)
    (stages : Nat) : start.Reaches (machine.advanceBy waits number stages) := by
  induction stages generalizing machine with
  | zero => exact reached
  | succ stages inductionHypothesis =>
    simp only [Machine.advanceBy]
    split
    · next later moved => exact inductionHypothesis (reached.advance moved)
    · exact reached

theorem Reaches.driveAll (reached : start.Reaches machine) (waits : Bool) :
    start.Reaches (machine.driveAll waits) := by
  unfold Machine.driveAll
  generalize List.range machine.engine.tasks.length = numbers
  induction numbers generalizing machine with
  | nil => exact reached
  | cons number numbers inductionHypothesis =>
    exact inductionHypothesis (reached.advanceBy waits number _)

theorem Reaches.bringAbout (reached : start.Reaches machine) (event : Wait) :
    start.Reaches (machine.bringAbout event) := by
  cases event with
  | attempt number =>
    simp only [Machine.bringAbout, failAttempt]
    exact .change _ reached
  | task number => exact reached.advanceBy true number _
  | idle => exact reached.driveAll true
  | moment milliseconds => exact reached

/-- Every activity leads to a machine that is reached. -/
theorem Reaches.carryOut {α : Type} (reached : start.Reaches machine) (activity : Activity α) :
    start.Reaches (machine.carryOut activity).2 := by
  induction activity generalizing machine with
  | done value => exact reached
  | act step next inductionHypothesis => exact inductionHypothesis _ _ (.change _ reached)
  | probe browser next inductionHypothesis => exact inductionHypothesis _ reached
  | readFile path next inductionHypothesis => exact inductionHypothesis _ reached
  | time next inductionHypothesis => exact inductionHypothesis _ reached
  | await event dropped next inductionHypothesis =>
    exact inductionHypothesis (reached.bringAbout event)

end Reached

section Configured

/-- The bridge is set up as a configuration says. -/
structure Configured (config : Config) (machine : Machine) : Prop where
  settings : machine.settings = config.browser
  actionTimeout : machine.actionTimeout = .ofSeconds config.engine.stepTimeoutSeconds
  talk : ∀ talk, machine.talk = some talk →
    talk.near.actionTimeout = .ofSeconds config.engine.stepTimeoutSeconds ∧
      talk.near.baseUrl = config.browser.baseUrl

theorem configured_build {disk : Disk} {store : Store} {now : Int} {cache : List String}
    {script : Option BridgeScript} (built : build config disk store now cache script = .ok start) :
    start.Configured config := by
  simp only [build, bind, Except.bind] at built
  split at built
  · cases built
  · split at built
    · cases built
    · cases built
      exact ⟨rfl, rfl, nofun⟩

theorem Configured.change (configured : machine.Configured config) (step : Engine → Engine) :
    (machine.change step).Configured config :=
  ⟨configured.settings, configured.actionTimeout, configured.talk⟩

/-- What is asked of the bridge leaves its set-up as it is. -/
theorem Configured.ask (configured : machine.Configured config) {talk : Talk}
    (speaks : machine.talk = some talk) (command : Bridge.Command) (timeout : Duration) :
    { machine with talk := some (talk.ask command timeout).2 }.Configured config := by
  refine ⟨configured.settings, configured.actionTimeout, ?_⟩
  rintro _ ⟨⟩
  obtain ⟨sameTimeout, sameUrl⟩ := talk.near_ask command timeout
  rw [sameTimeout, sameUrl]
  exact configured.talk talk speaks

theorem Configured.launch (configured : machine.Configured config) {browser : Browser}
    (moved : machine.launch waits number browser = some later) : later.Configured config := by
  have failed (error : SessionError) : (machine.launched number (.error error)).Configured config :=
    ⟨configured.settings, configured.actionTimeout, nofun⟩
  unfold Machine.launch at moved
  split at moved
  · cases moved
    exact failed _
  · split at moved
    · next outcome launched =>
      cases moved
      cases outcome with
      | error error => exact failed error
      | ok talk =>
        refine ⟨configured.settings, configured.actionTimeout, ?_⟩
        rintro _ ⟨⟩
        obtain ⟨ownTimeout, ownUrl⟩ := Talk.near_launch _ launched
        rw [ownTimeout, ownUrl, configured.actionTimeout, configured.settings]
        exact ⟨rfl, rfl⟩
    · split at moved
      · cases moved
        exact failed _
      · cases moved

theorem Configured.act (configured : machine.Configured config) {action : Action}
    (moved : machine.act waits number action = some later) : later.Configured config := by
  unfold Machine.act at moved
  split at moved
  · cases moved
    exact configured.change _
  · next talk speaks =>
    have asked := configured.ask speaks (.ofAction talk.near.baseUrl action)
      (talk.near.budget action)
    dsimp only at moved
    split at moved
    · cases moved
      exact asked.change _
    · split at moved
      · cases moved
        exact asked.change _
      · cases moved

theorem Configured.photograph (configured : machine.Configured config)
    (moved : machine.photograph waits number = some later) : later.Configured config := by
  unfold Machine.photograph at moved
  dsimp only at moved
  split at moved
  · cases moved
    exact configured.change _
  · next talk speaks =>
    have asked := configured.ask speaks .screenshot talk.near.actionTimeout
    split at moved
    · cases moved
      exact asked.change _
    · split at moved
      · cases moved
        exact asked.change _
      · cases moved

/-- A task goes on while the bridge stays as it was set up. -/
theorem Configured.advance (configured : machine.Configured config)
    (moved : machine.advance waits number = some later) : later.Configured config := by
  unfold Machine.advance at moved
  split at moved
  · cases moved
  · split at moved
    · exact configured.launch moved
    · cases moved
      exact configured.change _
    · exact configured.act moved
    · exact configured.photograph moved
    · cases moved
      exact configured.change _
    · cases moved
      exact ⟨configured.settings, configured.actionTimeout, nofun⟩
    · cases moved
    · cases moved

theorem Configured.reaches (configured : start.Configured config)
    (reached : start.Reaches machine) : machine.Configured config := by
  induction reached with
  | start => exact configured
  | change step _ inductionHypothesis => exact inductionHypothesis.change step
  | advance _ moved inductionHypothesis => exact inductionHypothesis.advance moved

end Configured

section Budgets

/-- The bridge can be asked for something. -/
def isHeard (machine : Machine) : Bool := machine.talk.any fun talk => talk.far.running

/-- The limit of the run is that of the configuration, as far as milliseconds show it. -/
def Keeps (config : Config) (options : RunOptions) (action : Action) : Prop :=
  (options.stepTimeout.nanoseconds + action.requestedWait.nanoseconds % 1000000) / 1000000 =
    config.engine.stepTimeoutSeconds * 1000

/-- The time for an action fits a 64 bit word of milliseconds. -/
def Fits (config : Config) (action : Action) : Prop :=
  config.engine.stepTimeoutSeconds * 1000 + action.requestedWait.milliseconds < Nat.pow 2 64

/-- How long the engine waits for the action of a step, and how long the bridge is told to. -/
structure Budgeted (config : Config) (task : RunTask) (action : Action)
    (request : Bridge.Request) : Prop where
  limit : task.limit? = some (task.options.stepTimeout.add action.requestedWait)
  command : request.command = .ofAction config.browser.baseUrl action
  timeout : request.timeout =
    (Duration.ofSeconds config.engine.stepTimeoutSeconds).add action.requestedWait
  /-- Both are equal in milliseconds exactly if the run does not override the configuration. -/
  agree_iff : task.options.check = .ok () → config.engine.stepTimeoutSeconds * 1000 < Nat.pow 2 64 →
    (request.timeout.wireMilliseconds =
        (task.options.stepTimeout.add action.requestedWait).milliseconds ↔
      Keeps config task.options action ∧ Fits config action)

/-- A time that fits a word is told as it is. -/
theorem Fits.wireMilliseconds_eq {action : Action} (fits : Fits config action) :
    ((Duration.ofSeconds config.engine.stepTimeoutSeconds).add
        action.requestedWait).wireMilliseconds =
      config.engine.stepTimeoutSeconds * 1000 + action.requestedWait.milliseconds := by
  simp only [Fits, Duration.wireMilliseconds, Duration.milliseconds, Duration.add,
    Duration.ofSeconds, Duration.longest] at fits ⊢
  generalize Nat.pow 2 64 = word at fits ⊢
  have exact_sum : min (config.engine.stepTimeoutSeconds * 1000000000 +
        action.requestedWait.nanoseconds) (word * 1000000000 - 1) / 1000000 =
      config.engine.stepTimeoutSeconds * 1000 + action.requestedWait.nanoseconds / 1000000 := by
    omega
  rw [exact_sum, Nat.mod_eq_of_lt fits]

/-- A time that does not fit a word is told as a shorter one than the action asks for. -/
theorem wireMilliseconds_lt_of_not_fits {action : Action} (long : ¬Fits config action)
    (short : config.engine.stepTimeoutSeconds * 1000 < Nat.pow 2 64) (limit : Duration) :
    ((Duration.ofSeconds config.engine.stepTimeoutSeconds).add
        action.requestedWait).wireMilliseconds <
      (limit.add action.requestedWait).milliseconds := by
  have positive : 0 < Nat.pow 2 64 := Nat.pow_pos (by decide)
  simp only [Fits, Duration.wireMilliseconds, Duration.milliseconds, Duration.add,
    Duration.ofSeconds, Duration.longest] at long short ⊢
  generalize Nat.pow 2 64 = word at long short positive ⊢
  by_cases beyond : word ≤ action.requestedWait.nanoseconds / 1000000
  · have below := Nat.mod_lt (min (config.engine.stepTimeoutSeconds * 1000000000 +
      action.requestedWait.nanoseconds) (word * 1000000000 - 1) / 1000000) positive
    omega
  · -- The sum is longer than one word and shorter than two.
    have exact_sum : min (config.engine.stepTimeoutSeconds * 1000000000 +
          action.requestedWait.nanoseconds) (word * 1000000000 - 1) / 1000000 =
        config.engine.stepTimeoutSeconds * 1000 + action.requestedWait.nanoseconds / 1000000 := by
      omega
    rw [exact_sum, Nat.mod_eq_sub_mod (Nat.not_lt.1 long), Nat.mod_eq_of_lt (by omega)]
    omega

/-- The time that the engine has for an action, in milliseconds. -/
theorem milliseconds_add_of_fits {options : RunOptions} (accepted : options.check = .ok ())
    {action : Action} (fits : Fits config action) :
    (options.stepTimeout.add action.requestedWait).milliseconds =
      action.requestedWait.milliseconds + (options.stepTimeout.nanoseconds +
        action.requestedWait.nanoseconds % 1000000) / 1000000 := by
  have bounded : options.stepTimeout.nanoseconds ≤ 3600 * 1000000000 := by
    unfold RunOptions.check at accepted
    split at accepted
    · cases accepted
    · next fit => exact Nat.not_lt.1 fun longer => fit (.inr longer)
  have ample : 7200 < Nat.pow 2 64 := by decide
  simp only [Fits, Duration.milliseconds, Duration.add, Duration.longest] at fits ⊢
  generalize Nat.pow 2 64 = word at fits ample ⊢
  omega

/-- A time that the bridge is told is that of the engine only without an override. -/
theorem wireMilliseconds_eq_iff {options : RunOptions} (accepted : options.check = .ok ())
    (short : config.engine.stepTimeoutSeconds * 1000 < Nat.pow 2 64) (action : Action) :
    ((Duration.ofSeconds config.engine.stepTimeoutSeconds).add
        action.requestedWait).wireMilliseconds =
      (options.stepTimeout.add action.requestedWait).milliseconds ↔
        Keeps config options action ∧ Fits config action := by
  by_cases fits : Fits config action
  · rw [fits.wireMilliseconds_eq, milliseconds_add_of_fits accepted fits, Keeps]
    constructor
    · intro same
      exact ⟨by omega, fits⟩
    · rintro ⟨keeps, -⟩
      omega
  · have less := wireMilliseconds_lt_of_not_fits fits short options.stepTimeout
    exact iff_of_false (Nat.ne_of_lt less) fun both => fits both.2

/-- What the bridge receives when the action of a step is carried out. -/
theorem received_act {action : Action} (moved : machine.act waits number action = some later) :
    later.received = machine.received ++
      match machine.talk with
      | some talk =>
        if talk.far.running then
          [⟨talk.near.nextId, .ofAction talk.near.baseUrl action, talk.near.budget action⟩]
        else []
      | none => [] := by
  have heard {talk : Talk} (speaks : machine.talk = some talk) :
      ({ machine with talk := some (talk.execute action).2 } : Machine).received =
        machine.received ++ if talk.far.running then
          [⟨talk.near.nextId, .ofAction talk.near.baseUrl action, talk.near.budget action⟩]
        else [] := by
    simp only [received, speaks, Option.map_some, Option.getD_some, Talk.execute,
      Talk.received_ask, List.append_assoc]
  unfold Machine.act at moved
  split at moved
  · next silent =>
    cases moved
    simp [silent, received, change]
  · next talk speaks =>
    rw [speaks]
    dsimp only at moved
    split at moved
    · cases moved
      exact heard speaks
    · split at moved
      · cases moved
        exact heard speaks
      · cases moved

/--
The bridge is told the configured limit for the action of every step of every run.
The engine waits for the limit of the run.
-/
theorem budgeted_of_reaches {disk : Disk} {store : Store} {now : Int} {cache : List String}
    {script : Option BridgeScript} (built : build config disk store now cache script = .ok start)
    (reached : start.Reaches machine) {task : RunTask}
    (found : machine.engine.task? number = some task) {result : StepResult} {action : Action}
    {rest : List Step} (acting : task.stage = .acting result action rest)
    (moved : machine.advance waits number = some later) :
    (machine.isHeard = true → ∃ request, later.received = machine.received ++ [request] ∧
        Budgeted config task action request) ∧
      (machine.isHeard = false → later.received = machine.received) := by
  have configured := (configured_build built).reaches reached
  have acted : machine.act waits number action = some later := by
    simpa only [Machine.advance, found, acting] using moved
  rw [received_act acted]
  cases speaks : machine.talk with
  | none => simp [isHeard, speaks]
  | some talk =>
    obtain ⟨ownTimeout, ownUrl⟩ := configured.talk talk speaks
    cases running : talk.far.running with
    | false => simp [isHeard, speaks, running]
    | true =>
      have budget : talk.near.budget action =
          (Duration.ofSeconds config.engine.stepTimeoutSeconds).add action.requestedWait :=
        congrArg (·.add action.requestedWait) ownTimeout
      simp only [running, if_true, budget, ownUrl]
      refine ⟨fun _ => ⟨_, rfl, ?_⟩, by simp [isHeard, speaks, running]⟩
      exact {
        limit := by simp only [RunTask.limit?, acting, RunTask.budget]
        command := rfl
        timeout := rfl
        agree_iff := fun accepted short => wireMilliseconds_eq_iff accepted short action }

end Budgets

section Sample

/-- The configuration without a file, with a store of its own. -/
def sampleConfig : Config := { storePath := "/" }

/-- A machine of this configuration whose bridge replies that all went well. -/
def sampleMachine : Machine where
  engine := {
    artifacts := {
      root := ["artifacts"]
      disk := ⟨[(["artifacts"], .directory), (["artifacts", "runs"], .directory),
        (["artifacts", "tmp"], .directory)]⟩ }
    options := .ofSettings sampleConfig.engine }
  now := 0
  settings := sampleConfig.browser
  actionTimeout := .ofSeconds sampleConfig.engine.stepTimeoutSeconds
  cache := []
  script := some {}

theorem build_sampleConfig : build sampleConfig {} {} 0 [] (some {}) = .ok sampleMachine := by
  let half : Disk := ⟨[(["artifacts"], .directory), (["artifacts", "runs"], .directory)]⟩
  have runs : ({} : Disk).makeDirectories "/artifacts/runs" = .ok half := rfl
  have tmp : half.makeDirectories "/artifacts/tmp" = .ok sampleMachine.engine.artifacts.disk := by
    have names : Path.names "/artifacts/tmp" = ["artifacts", "tmp"] := by decide +kernel
    have there : half.walk Disk.linkLimit [] ["artifacts"] = .ok ["artifacts"] := by
      simp [Disk.walk, half]
      rfl
    rw [Disk.makeDirectories, names]
    simp only [Disk.makeDirectoriesFrom, List.nil_append]
    rw [there]
    rfl
  have root : sampleMachine.engine.artifacts.disk.resolve "/artifacts" = .ok ["artifacts"] := by
    have pieces : Path.pieces "/artifacts" = ["", "artifacts"] := by decide +kernel
    have short : ¬Disk.pathLimit ≤ "/artifacts".utf8ByteSize := by decide
    simp [Disk.resolve, pieces, short, Disk.walk, sampleMachine]
    rfl
  have paths : sampleConfig.screenshots = "/artifacts" ∧
      Path.join "/artifacts" "runs" = "/artifacts/runs" ∧
      Path.join "/artifacts" "tmp" = "/artifacts/tmp" := by decide +kernel
  have created : Artifacts.create {} sampleConfig.screenshots =
      .ok sampleMachine.engine.artifacts := by
    simp only [Artifacts.create, paths, bind_eq_ok_iff, Artifacts.onDisk_eq_ok_iff]
    exact ⟨_, runs, _, tmp, _, root, rfl⟩
  have store : ({} : Disk).makeDirectories sampleConfig.storePath = .ok {} := rfl
  simp only [build, store, bind_eq_ok_iff]
  exact ⟨_, rfl, _, congrArg (Except.mapError EngineError.artifact) created, rfl⟩

/-- Somebody starts a run that gives each step half a minute. -/
def sampleOverride : List Turn :=
  System.sampleCreation ++
    [⟨1, .begin (Store.idOf 1) .chromium ⟨false, .ofSeconds 30⟩⟩, ⟨2, .conclude 0 (.ok ())⟩]

/-- The machine when the run comes to the action of its step. -/
def sampleActing : Machine :=
  (sampleMachine.change fun engine =>
    ((⟨engine, []⟩ : System).after (fun _ => .prompt) sampleOverride).engine).advanceBy true 0 2

theorem reaches_sampleActing : sampleMachine.Reaches sampleActing :=
  Reaches.advanceBy (.change _ .start) true 0 2

/-- Tells whether a task waits for the action of a step. -/
def isActing (task : RunTask) : Bool :=
  match task.stage with
  | .acting _ _ _ => true
  | _ => false

/-- The bridge of the sample hears of the step. -/
theorem budgeted_sampleActing :
    build sampleConfig {} {} 0 [] (some {}) = .ok sampleMachine ∧
      sampleMachine.Reaches sampleActing ∧ sampleActing.isHeard = true ∧
      ∃ task result action rest later, sampleActing.engine.task? 0 = some task ∧
        task.stage = .acting result action rest ∧ sampleActing.advance true 0 = some later ∧
        ∃ request, later.received = sampleActing.received ++ [request] ∧
          Budgeted sampleConfig task action request := by
  have heard : sampleActing.isHeard = true := by decide +kernel
  have within : (sampleActing.engine.task? 0).any isActing = true := by decide +kernel
  have goes : (sampleActing.advance true 0).isSome = true := by decide +kernel
  obtain ⟨task, found, acts⟩ := (Option.any_eq_true _ _).1 within
  obtain ⟨later, moved⟩ := Option.isSome_iff_exists.1 goes
  refine ⟨build_sampleConfig, reaches_sampleActing, heard, task, ?_⟩
  unfold isActing at acts
  split at acts
  · next result action rest acting =>
    have budgeted := budgeted_of_reaches build_sampleConfig reaches_sampleActing found acting moved
    exact ⟨result, action, rest, later, found, acting, moved, budgeted.1 heard⟩
  · cases acts

/-- The bridge is told five seconds where the engine waits for thirty. -/
theorem not_agree_sampleActing :
    ¬∀ task later, sampleActing.engine.task? 0 = some task → task.options.check = .ok () →
      sampleActing.advance true 0 = some later → ∀ request ∈ later.received,
        task.limit?.map Duration.milliseconds = some request.timeout.wireMilliseconds := by
  intro promise
  have given : (sampleActing.engine.task? 0).any (fun task => task.options.check.toBool &&
      task.limit? = some (.ofSeconds 30)) = true := by decide +kernel
  have told : (sampleActing.advance true 0).map (fun later => later.received.map (·.timeout)) =
      some [.ofSeconds 5] := by decide +kernel
  obtain ⟨task, found, facts⟩ := (Option.any_eq_true _ _).1 given
  obtain ⟨accepts, limit⟩ : task.options.check.toBool = true ∧
      task.limit? = some (.ofSeconds 30) := by simpa using facts
  have accepted : task.options.check = .ok () := by
    cases checked : task.options.check with
    | ok _ => rfl
    | error fault =>
      rw [checked] at accepts
      cases accepts
  obtain ⟨later, moved, sent⟩ := Option.map_eq_some_iff.1 told
  obtain ⟨request, rest, received, timeout, -⟩ := List.map_eq_cons_iff.1 sent
  have agrees := promise task later found accepted moved request (by simp [received])
  rw [limit, timeout] at agrees
  exact absurd agrees (by decide)

end Sample

end Machine

end Rehearsal

end StepRunner
