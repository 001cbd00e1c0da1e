import StepRunner.Proofs.Engine.Cancels
import StepRunner.Proofs.Engine.Effects

/-!
This file explains the state and the error of every run that has ended.
A run is cancelled exactly if a request to stop it was accepted, and it has an error exactly if it
was given up.
Neither keeps the other away, so a cancelled run may carry an error.
-/

namespace StepRunner

namespace System

section Events

/-- Something happens at some point of a sequence of incidents. -/
def Happens (sessions : Nat → Session) (event : System → Incident → Prop) (system : System)
    (incidents : List Incident) : Prop :=
  ∃ before incident after, incidents = before ++ incident :: after ∧
    event (system.through sessions before) incident

/-- A request to stop the run of a task is accepted while the run is in progress. -/
def Stops (number : Nat) (system : System) (incident : Incident) : Prop :=
  ∃ task now, system.engine.task? number = some task ∧ task.isOver = false ∧
    incident = .turn ⟨now, .cancel task.run.id⟩ ∧ (system.engine.cancel task.run.id).1 = true

/-- A task gives its run up: its browser fails to launch, or a write of a step is refused. -/
def GivesUp (sessions : Nat → Session) (number : Nat) (reason : String) (system : System)
    (incident : Incident) : Prop :=
  ∃ task now, system.engine.task? number = some task ∧ incident = .turn ⟨now, .proceed number⟩ ∧
    ((task.stage = .launching ∧
        ∃ error, (sessions number).launch = .error error ∧ error.message = reason) ∨
      ∃ next, (system.meet sessions incident).engine.task? number = some next ∧
        next.stage = .closing (some reason))

variable {sessions : Nat → Session} {event : System → Incident → Prop} {system : System}
  {incident : Incident} {incidents : List Incident} {number : Nat} {task : RunTask}

theorem not_happens_nil : ¬Happens sessions event system [] := by
  rintro ⟨before, incident, after, split, -⟩
  cases before <;> cases split

theorem happens_cons_iff :
    Happens sessions event system (incident :: incidents) ↔
      event system incident ∨ Happens sessions event (system.meet sessions incident) incidents := by
  constructor
  · rintro ⟨before, other, after, split, occurs⟩
    cases before with
    | nil =>
      obtain ⟨rfl, rfl⟩ := List.cons.inj split
      exact .inl occurs
    | cons first before =>
      obtain ⟨rfl, rfl⟩ := List.cons.inj split
      exact .inr ⟨before, other, after, rfl, occurs⟩
  · rintro (occurs | ⟨before, other, after, rfl, occurs⟩)
    · exact ⟨[], incident, incidents, rfl, occurs⟩
    · exact ⟨incident :: before, other, after, rfl, occurs⟩

/-- Nobody asks a task to stop that is not there or over. -/
theorem not_stops (idle : ∀ task, system.engine.task? number = some task → task.isOver = true) :
    ¬Stops number system incident := by
  rintro ⟨task, now, found, busy, -⟩
  simp [idle task found] at busy

/-- A task that is not there or over gives nothing up. -/
theorem not_givesUp (idle : ∀ task, system.engine.task? number = some task → task.isOver = true)
    (reason : String) : ¬GivesUp sessions number reason system incident := by
  rintro ⟨task, now, found, rfl, ⟨stage, -⟩ | ⟨next, reached, stage⟩⟩
  · have done := idle task found
    rw [RunTask.isOver, stage] at done
    cases done
  · have kept := (effect_meet sessions system (.turn ⟨now, .proceed number⟩)).task?_eq found
      (.inl (idle task found))
    obtain rfl := Option.some.inj (reached.symm.trans kept)
    have done := idle next found
    rw [RunTask.isOver, stage] at done
    cases done

end Events

/-- What the last state of a run tells: whether it was asked to stop, and why it was given up. -/
structure Accounted (run : Run) (task : RunTask) (asked : Prop) (reason : String → Prop) :
    Prop where
  id : run.id = task.run.id
  cancelled_iff : run.status = .cancelled ↔ asked
  error_iff : ∀ text, run.error = some text ↔ reason text
  failed : ¬asked → (∃ text, reason text) → run.status = .failed

/-- What a task shows of the requests to stop and the failures so far. -/
structure Minds (system : System) (number : Nat) (asked : Prop) (reason : String → Prop) :
    Prop where
  absent : system.engine.task? number = none → ¬asked ∧ ∀ text, ¬reason text
  live : ∀ task, system.engine.task? number = some task → task.isOver = false →
    task.active.context.runId = task.run.id ∧
      (system.engine.registry.cancelRequested task.active = true ↔ asked) ∧
      ∀ text, task.stage = .closing (some text) ↔ reason text
  ended : ∀ task run, system.engine.task? number = some task → task.stage = .ended run →
    Accounted run task asked reason

variable {sessions : Nat → Session} {system : System} {incident : Incident} {number : Nat}
  {task : RunTask} {asked : Prop} {reason : String → Prop}

namespace Minds

/-- An incident at which nobody is asked to stop and nothing is given up tells nothing new. -/
theorem of_quiet (minds : system.Minds number asked reason) {stops : Prop} {gives : String → Prop}
    (unasked : ¬stops) (kept : ∀ text, ¬gives text) :
    system.Minds number (asked ∨ stops) fun text => reason text ∨ gives text := by
  simpa only [unasked, kept, or_false] using minds

/-- A task that nobody has asked to stop and that is not given up shows nothing. -/
theorem created (minds : system.Minds number asked reason) (orderly : system.Orderly)
    (fresh : system.engine.registry.Fresh) (missing : system.engine.task? number = none) :
    (system.meet sessions incident).Minds number (asked ∨ Stops number system incident)
      fun text => reason text ∨ GivesUp sessions number text system incident := by
  have idle : ∀ task, system.engine.task? number = some task → task.isOver = true := by
    simp [missing]
  obtain ⟨unasked, kept⟩ := minds.absent missing
  refine of_quiet ?_ (not_stops idle) (not_givesUp idle)
  have effect := effect_meet sessions system incident
  refine ⟨fun _ => ⟨unasked, kept⟩, fun task found _ => ?_, fun task run found ended => ?_⟩
  · obtain ⟨stage, named, projectId, testCaseId, held⟩ :=
      orderly.task?_created effect missing found
    have deaf : ∀ now runId, incident ≠ .turn ⟨now, .cancel runId⟩ := by
      rintro now runId rfl
      have absent : system.engine.task? number = some task := found
      simp [missing] at absent
    have new : (system.meet sessions incident).engine.registry.cancelRequested task.active =
        false := by
      rw [Registry.cancelRequested, (orderly.goes effect deaf).cancelled, List.contains_eq_mem]
      exact decide_eq_false (fresh.unasked _ _ _ held)
    exact ⟨named, iff_of_false (by simp [new]) unasked, fun text =>
      iff_of_false (by simp [stage]) (kept text)⟩
  · obtain ⟨stage, -⟩ := orderly.task?_created effect missing found
    cases stage.symm.trans ended

/-- A task that is over shows what it has shown before. -/
theorem finished (minds : system.Minds number asked reason)
    (found : system.engine.task? number = some task) (ceased : task.isOver = true) :
    (system.meet sessions incident).Minds number (asked ∨ Stops number system incident)
      fun text => reason text ∨ GivesUp sessions number text system incident := by
  have idle : ∀ rival, system.engine.task? number = some rival → rival.isOver = true := by
    intro rival present
    obtain rfl := Option.some.inj (found.symm.trans present)
    exact ceased
  have kept := (effect_meet sessions system incident).task?_eq found (.inl ceased)
  refine of_quiet ?_ (not_stops idle) (not_givesUp idle)
  refine ⟨fun missing => ?_, fun rival present busy => ?_, fun rival run present ended => ?_⟩
  · cases kept.symm.trans missing
  · obtain rfl := Option.some.inj (kept.symm.trans present)
    simp [ceased] at busy
  · obtain rfl := Option.some.inj (kept.symm.trans present)
    exact minds.ended task run found ended

section Busy

variable (minds : system.Minds number asked reason) (orderly : system.Orderly)
  (found : system.engine.task? number = some task) (busy : task.isOver = false)

include minds orderly found busy

omit busy in
/-- A task that others leave alone shows what it has shown before. -/
theorem aside (deaf : ∀ now runId, incident ≠ .turn ⟨now, .cancel runId⟩)
    (unmoved : ∀ now, incident ≠ .turn ⟨now, .proceed number⟩ ∧
      incident ≠ .turn ⟨now, .breakDown number⟩) :
    (system.meet sessions incident).Minds number (asked ∨ Stops number system incident)
      fun text => reason text ∨ GivesUp sessions number text system incident := by
  have effect := effect_meet sessions system incident
  have kept := effect.task?_eq found (.inr unmoved)
  have unasked : ¬Stops number system incident := by
    rintro ⟨task, now, -, -, same, -⟩
    exact deaf now _ same
  have ungiven (text : String) : ¬GivesUp sessions number text system incident := by
    rintro ⟨task, now, -, same, -⟩
    exact (unmoved now).1 same
  refine of_quiet ?_ unasked ungiven
  refine ⟨fun missing => ?_, fun rival present live => ?_, fun rival run present ended => ?_⟩
  · cases kept.symm.trans missing
  · obtain rfl := Option.some.inj (kept.symm.trans present)
    rw [Registry.cancelRequested, (orderly.goes effect deaf).cancelled]
    exact minds.live task found live
  · obtain rfl := Option.some.inj (kept.symm.trans present)
    exact minds.ended task run found ended

/-- A task shows that it was asked to stop exactly if the request names its run. -/
theorem stopped (now : Int) (runId : String) :
    (system.meet sessions (.turn ⟨now, .cancel runId⟩)).Minds number
      (asked ∨ Stops number system (.turn ⟨now, .cancel runId⟩))
      fun text => reason text ∨
        GivesUp sessions number text system (.turn ⟨now, .cancel runId⟩) := by
  obtain ⟨named, heeds, closes⟩ := minds.live task found busy
  have request := Registry.requestCancel_of_held runId (orderly.held found busy)
  rw [named] at request
  have accepted : (system.engine.cancel runId).1 = true ↔ task.run.id = runId := by
    simp only [Engine.cancel, request]
    split <;> simp_all
  have stops : Stops number system (.turn ⟨now, .cancel runId⟩) ↔ task.run.id = runId := by
    constructor
    · rintro ⟨rival, instant, present, -, same, -⟩
      obtain rfl := Option.some.inj (found.symm.trans present)
      cases same
      rfl
    · rintro rfl
      exact ⟨task, now, found, busy, rfl, accepted.2 rfl⟩
  have ungiven (text : String) :
      ¬GivesUp sessions number text system (.turn ⟨now, .cancel runId⟩) := by
    rintro ⟨task, instant, -, ⟨⟩, -⟩
  have kept : (system.meet sessions (.turn ⟨now, .cancel runId⟩)).engine.task? number =
      some task := found
  refine ⟨fun missing => ?_, fun rival present live => ?_, fun rival run present ended => ?_⟩
  · cases kept.symm.trans missing
  · obtain rfl := Option.some.inj (kept.symm.trans present)
    refine ⟨named, ?_, fun text => ?_⟩
    · rw [stops]
      simp only [meet, step, change, Engine.cancel, request]
      split
      · next same => simp [Registry.cancelRequested, same]
      · next other => simpa [other] using heeds
    · simpa only [ungiven, or_false] using closes text
  · obtain rfl := Option.some.inj (kept.symm.trans present)
    simp [RunTask.isOver, ended] at busy

omit minds orderly in
/-- A task that breaks down shows nothing. -/
theorem broken (now : Int) (stops : Prop) (gives : String → Prop) :
    (system.meet sessions (.turn ⟨now, .breakDown number⟩)).Minds number stops gives := by
  have gone : (system.meet sessions (.turn ⟨now, .breakDown number⟩)).engine.task? number =
      some { task with stage := .panicked } := by
    simp only [meet, step, change, Engine.brokeDown, found, busy, Bool.false_eq_true, if_false]
    rw [Engine.setStage, Engine.task?_updateTask, if_pos rfl]
    exact congrArg (Option.map _) found
  refine ⟨fun missing => ?_, fun rival present live => ?_, fun rival run present ended => ?_⟩
  · cases gone.symm.trans missing
  · obtain rfl := Option.some.inj (gone.symm.trans present)
    cases live
  · obtain rfl := Option.some.inj (gone.symm.trans present)
    cases ended

/-- A task that proceeds shows why it is given up, and with its end whether it was asked to stop. -/
theorem proceeded (clean : system.engine.store.tables.Clean) (now : Int) :
    (system.meet sessions (.turn ⟨now, .proceed number⟩)).Minds number
      (asked ∨ Stops number system (.turn ⟨now, .proceed number⟩))
      fun text => reason text ∨
        GivesUp sessions number text system (.turn ⟨now, .proceed number⟩) := by
  obtain ⟨named, heeds, closes⟩ := minds.live task found busy
  have unasked : ¬Stops number system (.turn ⟨now, .proceed number⟩) := by
    rintro ⟨task, instant, -, -, ⟨⟩, -⟩
  have gives {next : RunTask} (reached : (system.engine.proceed (sessions number) number
      now).task? number = some next) (text : String) :
      GivesUp sessions number text system (.turn ⟨now, .proceed number⟩) ↔
        (task.stage = .launching ∧
          ∃ error, (sessions number).launch = .error error ∧ error.message = text) ∨
        next.stage = .closing (some text) := by
    constructor
    · rintro ⟨rival, instant, present, -, launch | ⟨other, again, stage⟩⟩
      · obtain rfl := Option.some.inj (found.symm.trans present)
        exact .inl launch
      · obtain rfl := Option.some.inj (reached.symm.trans again)
        exact .inr stage
    · rintro (launch | stage)
      · exact ⟨task, now, found, rfl, .inl launch⟩
      · exact ⟨task, now, found, rfl, .inr ⟨next, reached, stage⟩⟩
  simp only [unasked, or_false]
  cases system.engine.proceeding clean found busy (sessions number) now with
  | @goes next reached live same unclosed launches =>
    have requests : (system.engine.proceed (sessions number) number
        now).registry.cancelRequested next.active =
          system.engine.registry.cancelRequested task.active := by
      have goes := (orderly.goes (effect_meet sessions system (.turn ⟨now, .proceed number⟩))
        (by simp)).cancelled
      have kept : (system.engine.proceed (sessions number) number now).registry.cancelled =
          system.engine.registry.cancelled := goes
      rw [Registry.cancelRequested, kept, same.active, Registry.cancelRequested]
    refine ⟨fun missing => ?_, fun rival present _ => ?_, fun rival run present ended => ?_⟩
    · cases reached.symm.trans missing
    · obtain rfl := Option.some.inj (reached.symm.trans present)
      refine ⟨by rw [same.active, same.run, named], ?_, fun text => ?_⟩
      · exact requests ▸ heeds
      · have old : ¬reason text := fun given => unclosed _ ((closes text).2 given)
        have launched : ¬(task.stage = .launching ∧
            ∃ error, (sessions number).launch = .error error ∧ error.message = text) := by
          rintro ⟨stage, error, fails, -⟩
          exact launches error fails stage
        simp only [gives reached, old, launched, false_or]
    · obtain rfl := Option.some.inj (reached.symm.trans present)
      simp [RunTask.isOver, ended] at live
  | @ends fatal failed last cause concludes =>
    have reached := concludes.found
    have reasons (text : String) : fatal = some text ↔ reason text ∨
        GivesUp sessions number text system (.turn ⟨now, .proceed number⟩) := by
      rw [gives reached, ← closes text]
      cases cause with
      | launch stage answer => simp [stage, answer]
      | close stage => simp [stage]
    refine ⟨fun missing => ?_, fun rival present live => ?_, fun rival run present ended => ?_⟩
    · cases reached.symm.trans missing
    · obtain rfl := Option.some.inj (reached.symm.trans present)
      cases live
    · obtain rfl := Option.some.inj (reached.symm.trans present)
      obtain rfl := Stage.ended.inj ended
      refine ⟨concludes.ends.id, ?_, fun text => ?_, fun unstopped given => ?_⟩
      · rw [concludes.ends.status, finalStatus_eq_cancelled_iff, heeds]
      · rw [concludes.ends.error, reasons]
      · obtain ⟨text, given⟩ := given
        have calm : system.engine.registry.cancelRequested task.active = false := by
          simpa [unstopped] using heeds
        rw [concludes.ends.status, (reasons text).2 given, calm]
        rfl

end Busy

/-- Whatever a system meets, its tasks show what they were asked and why they were given up. -/
theorem meet (minds : system.Minds number asked reason) (orderly : system.Orderly)
    (fresh : system.engine.registry.Fresh) (clean : system.engine.store.tables.Clean)
    (sessions : Nat → Session) (incident : Incident) :
    (system.meet sessions incident).Minds number (asked ∨ Stops number system incident)
      fun text => reason text ∨ GivesUp sessions number text system incident := by
  cases found : system.engine.task? number with
  | none => exact minds.created orderly fresh found
  | some task =>
    cases busy : task.isOver with
    | true => exact minds.finished found busy
    | false =>
      by_cases asks : ∃ now runId, incident = .turn ⟨now, .cancel runId⟩
      · obtain ⟨now, runId, rfl⟩ := asks
        exact minds.stopped orderly found busy now runId
      by_cases moves : ∃ now, incident = .turn ⟨now, .proceed number⟩
      · obtain ⟨now, rfl⟩ := moves
        exact minds.proceeded orderly found busy clean now
      by_cases breaks : ∃ now, incident = .turn ⟨now, .breakDown number⟩
      · obtain ⟨now, rfl⟩ := breaks
        exact broken found busy now _ _
      simp only [not_exists] at asks moves breaks
      exact minds.aside orderly found asks fun now => ⟨moves now, breaks now⟩

end Minds

/-- Each run in the store is from the start, or plain, or the last state of a task. -/
def Files (first : Tables) (system : System) : Prop :=
  ∀ row ∈ system.engine.store.tables.runs, row ∈ first.runs ∨ row.IsPlain ∨
    ∃ number task, system.engine.task? number = some task ∧ task.stage = .ended row

/-- What holds of a system whatever it meets, as long as others end runs only as failed. -/
structure Accountable (first : Tables) (system : System) : Prop where
  orderly : system.Orderly
  fresh : system.engine.registry.Fresh
  clean : system.engine.store.tables.Clean
  files : system.Files first

namespace Accountable

variable {first : Tables}

theorem opened {store : Store} (clean : store.tables.Clean) (artifacts : Artifacts)
    (options : RunOptions) : (opened store artifacts options).Accountable store.tables where
  orderly := .opened clean.sound artifacts options
  fresh := ⟨⟨by simp [System.opened, Slot.ticket?], by simp [System.opened]⟩, nofun⟩
  clean
  files := fun _ present => .inl present

/-- Each run that is new in the store has to be plain, or the last state of a task. -/
theorem of_rows (accountable : system.Accountable first)
    (clean : (system.meet sessions incident).engine.store.tables.Clean)
    (rows : ∀ row ∈ (system.meet sessions incident).engine.store.tables.runs,
      row ∈ system.engine.store.tables.runs ∨ row.IsPlain ∨ ∃ number task,
        (system.meet sessions incident).engine.task? number = some task ∧
          task.stage = .ended row) : (system.meet sessions incident).Accountable first where
  orderly := accountable.orderly.meet sessions incident
  fresh := accountable.orderly.fresh_meet accountable.fresh sessions incident
  clean
  files := by
    intro row present
    rcases rows row present with old | new
    · rcases accountable.files row old with early | plain | ⟨number, task, found, ended⟩
      · exact .inl early
      · exact .inr (.inl plain)
      · have done : task.isOver = true := by rw [RunTask.isOver, ended]
        have kept := (effect_meet sessions system incident).task?_eq found (.inl done)
        exact .inr (.inr ⟨number, task, kept, ended⟩)
    · exact .inr new

theorem meet (accountable : system.Accountable first) (plain : incident.IsPlain)
    (sessions : Nat → Session) : (system.meet sessions incident).Accountable first := by
  rcases (effect_meet sessions system incident).follows_or_proceeds plain with
    follows | ⟨now, number, task, found, busy, moved⟩
  · obtain ⟨clean, rows⟩ := follows accountable.clean
    exact accountable.of_rows clean fun row present => (rows row present).imp_right .inl
  · have turn := system.engine.proceeding accountable.clean found busy (sessions number) now
    rw [← moved] at turn
    cases turn with
    | goes _ _ _ _ _ follows =>
      obtain ⟨clean, rows⟩ := follows accountable.clean
      exact accountable.of_rows clean fun row present => (rows row present).imp_right .inl
    | ends cause concludes =>
      refine accountable.of_rows concludes.clean fun row present => ?_
      rcases concludes.rows row present with old | plain | rfl
      · exact .inl old
      · exact .inr (.inl plain)
      · exact .inr (.inr ⟨number, _, concludes.found, rfl⟩)

theorem through (accountable : system.Accountable first) (sessions : Nat → Session)
    {incidents : List Incident} (plain : ∀ incident ∈ incidents, incident.IsPlain) :
    (system.through sessions incidents).Accountable first := by
  induction incidents generalizing system with
  | nil => exact accountable
  | cons incident incidents inductionHypothesis =>
    obtain ⟨head, rest⟩ := List.forall_mem_cons.1 plain
    exact inductionHypothesis (accountable.meet head sessions) rest

/-- What a task shows grows along the incidents. -/
theorem minds_through (accountable : system.Accountable first)
    (minds : system.Minds number asked reason) (sessions : Nat → Session)
    {incidents : List Incident} (plain : ∀ incident ∈ incidents, incident.IsPlain) :
    (system.through sessions incidents).Minds number
      (asked ∨ Happens sessions (Stops number) system incidents)
      fun text => reason text ∨
        Happens sessions (GivesUp sessions number text) system incidents := by
  -- What has happened so far is what has happened before, or what the next incident brings.
  induction incidents generalizing system asked reason with
  | nil => exact minds.of_quiet not_happens_nil fun _ => not_happens_nil
  | cons incident incidents inductionHypothesis =>
    obtain ⟨head, rest⟩ := List.forall_mem_cons.1 plain
    have next :=
      minds.meet accountable.orderly accountable.fresh accountable.clean sessions incident
    have later := inductionHypothesis (accountable.meet head sessions) next rest
    simp only [happens_cons_iff, ← or_assoc]
    exact later

end Accountable

/-- No run that was cancelled carries an error, neither as its task has left it nor in the store. -/
structure Spotless (system : System) : Prop where
  returned : ∀ number task run, system.engine.task? number = some task →
    task.stage = .ended run → run.status = .cancelled → run.error = none
  stored : ∀ row ∈ system.engine.store.tables.runs, row.status = .cancelled → row.error = none

/-- Every end of a run is explained by what has happened to the run. -/
structure Explained (sessions : Nat → Session) (first : System) (incidents : List Incident) :
    Prop where
  ended : ∀ number task run,
    (first.through sessions incidents).engine.task? number = some task → task.stage = .ended run →
    Accounted run task (Happens sessions (Stops number) first incidents)
      fun text => Happens sessions (GivesUp sessions number text) first incidents
  stored : (first.through sessions incidents).Files first.engine.store.tables
  /-- A cancelled run carries an error exactly if it was asked to stop and was also given up. -/
  spotless_iff : (∀ row ∈ first.engine.store.tables.runs, row.status = .cancelled →
      row.error = none) →
    ((first.through sessions incidents).Spotless ↔ ∀ number task run,
      (first.through sessions incidents).engine.task? number = some task →
      task.stage = .ended run →
      ¬(Happens sessions (Stops number) first incidents ∧
        ∃ text, Happens sessions (GivesUp sessions number text) first incidents))

/-- The last state of each run tells what has happened to the run. -/
theorem accounted_through {store : Store} (clean : store.tables.Clean) (artifacts : Artifacts)
    (options : RunOptions) (sessions : Nat → Session) {incidents : List Incident}
    (plain : ∀ incident ∈ incidents, incident.IsPlain) {number : Nat} {task : RunTask} {run : Run}
    (found : ((opened store artifacts options).through sessions incidents).engine.task? number =
      some task) (ended : task.stage = .ended run) :
    Accounted run task (Happens sessions (Stops number) (opened store artifacts options) incidents)
      fun text => Happens sessions (GivesUp sessions number text) (opened store artifacts options)
        incidents := by
  have nothing : (opened store artifacts options).Minds number False fun _ => False :=
    ⟨by simp, by simp [opened, Engine.task?], by simp [opened, Engine.task?]⟩
  have minds := (Accountable.opened clean artifacts options).minds_through nothing sessions plain
  simp only [false_or] at minds
  exact minds.ended task run found ended

/-- The store carries no more errors of cancelled runs than the tasks and the start do. -/
theorem Files.spotless {first : Tables} (files : system.Files first)
    (before : ∀ row ∈ first.runs, row.status = .cancelled → row.error = none)
    (returned : ∀ number task run, system.engine.task? number = some task →
      task.stage = .ended run → run.status = .cancelled → run.error = none) :
    system.Spotless where
  returned
  stored := by
    intro row present cancelled
    rcases files row present with early | (failed | ⟨-, clear⟩) | ⟨number, task, found, stage⟩
    · exact before row early cancelled
    · rw [failed] at cancelled
      cases cancelled
    · exact clear
    · exact returned number task row found stage cancelled

/-- Every end of a run is explained, whatever a system meets. -/
theorem explained_through {store : Store} (clean : store.tables.Clean) (artifacts : Artifacts)
    (options : RunOptions) (sessions : Nat → Session) (incidents : List Incident)
    (plain : ∀ incident ∈ incidents, incident.IsPlain) :
    Explained sessions (opened store artifacts options) incidents := by
  have files := ((Accountable.opened clean artifacts options).through sessions plain).files
  refine ⟨fun number task run => accounted_through clean artifacts options sessions plain, files,
    fun before => ⟨?_, fun apart => ?_⟩⟩
  · rintro spotless number task run found stage ⟨asked, text, given⟩
    have accounted := accounted_through clean artifacts options sessions plain found stage
    have clear := spotless.returned number task run found stage (accounted.cancelled_iff.2 asked)
    rw [(accounted.error_iff text).2 given] at clear
    cases clear
  · refine files.spotless before fun number task run found stage cancelled => ?_
    have accounted := accounted_through clean artifacts options sessions plain found stage
    by_contra blamed
    obtain ⟨text, blamed⟩ := Option.ne_none_iff_exists'.1 blamed
    exact apart number task run found stage
      ⟨accounted.cancelled_iff.1 cancelled, text, (accounted.error_iff text).1 blamed⟩

section Sample

/-- A browser that cannot be launched. -/
def sampleDud : Session := ⟨.error (.launch "no display"), fun _ => none, fun _ => none⟩

/-- A run is asked to stop while its browser is launched, and then the launch fails. -/
def sampleLaunch : List Incident :=
  (sampleStart ++ [⟨4, .cancel (Store.idOf 3)⟩, ⟨5, .proceed 0⟩] : List Turn).map .turn

theorem explained_sampleLaunch :
    ({} : Store).tables.Clean ∧ (∀ incident ∈ sampleLaunch, incident.IsPlain) ∧
      Explained (fun _ => sampleDud) (opened {} default sampleOptions) sampleLaunch := by
  have clean : ({} : Store).tables.Clean := ⟨.empty, nofun⟩
  have plain : ∀ incident ∈ sampleLaunch, incident.IsPlain := by
    intro incident among
    obtain ⟨turn, -, rfl⟩ := List.mem_map.1 among
    trivial
  exact ⟨clean, plain, explained_through clean default sampleOptions _ sampleLaunch plain⟩

/-- The run of the sample is cancelled and carries the error of its launch all the same. -/
theorem not_spotless_sampleLaunch :
    ¬((opened {} default sampleOptions).through (fun _ => sampleDud) sampleLaunch).Spotless := by
  intro spotless
  have blamed : ((opened {} default sampleOptions).through (fun _ => sampleDud)
      sampleLaunch).engine.store.tables.runs.any
        (fun row => row.status = .cancelled && row.error.isSome) = true := by
    decide +kernel
  obtain ⟨row, present, facts⟩ := List.any_eq_true.1 blamed
  obtain ⟨cancelled, carries⟩ := Bool.and_eq_true_iff.1 facts
  rw [spotless.stored row present (of_decide_eq_true cancelled)] at carries
  cases carries

end Sample

end System

end StepRunner
