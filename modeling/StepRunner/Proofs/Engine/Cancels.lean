import StepRunner.Proofs.Engine.Breakdown

/-!
This file shows that a request to stop a run hits this run and no other.
A request is accepted while its run has the slot; the run is cancelled at its end if and only if
one was accepted, and a request that is refused might as well not have been made.
-/

namespace StepRunner

/-- A request is accepted exactly by the run in progress with its id. -/
theorem Engine.cancel_accepted_iff (engine : Engine) (runId : String) :
    (engine.cancel runId).1 = true ↔
      ∃ context, engine.registry.context? = some context ∧ context.runId = runId := by
  simp only [Engine.cancel, Registry.requestCancel, Registry.context?]
  cases engine.registry.slot with
  | empty => simp
  | reserved ticket projectId testCaseId => simp
  | active ticket context => by_cases same : context.runId = runId <;> simp [same]

theorem Engine.cancel_of_refused {engine : Engine} {runId : String}
    (refused : (engine.cancel runId).1 = false) : (engine.cancel runId).2 = engine := by
  have same : (engine.registry.requestCancel runId).2 = engine.registry :=
    Registry.requestCancel_of_refused refused
  simp only [Engine.cancel, same]

namespace System

variable {sessions : Nat → Session} {system later : System} {turn : Turn}

/-- A request to stop a run is accepted in a turn. -/
def Hears (system : System) (turn : Turn) (runId : String) : Prop :=
  turn.move = .cancel runId ∧ (system.engine.cancel runId).1 = true

/-- A request to stop a run is accepted in some turn of a history. -/
inductive Accepted (sessions : Nat → Session) (runId : String) : System → List Turn → Prop where
  | now {system : System} {turn : Turn} {history : List Turn} (hears : system.Hears turn runId) :
      Accepted sessions runId system (turn :: history)
  | later {system : System} {turn : Turn} {history : List Turn}
      (accepted : Accepted sessions runId (system.step sessions turn) history) :
      Accepted sessions runId system (turn :: history)

theorem accepted_cons_iff {runId : String} {history : List Turn} :
    Accepted sessions runId system (turn :: history) ↔
      system.Hears turn runId ∨ Accepted sessions runId (system.step sessions turn) history := by
  constructor
  · intro accepted
    cases accepted with
    | now hears => exact .inl hears
    | later accepted => exact .inr accepted
  · rintro (hears | accepted)
    · exact .now hears
    · exact .later accepted

theorem not_accepted_nil {runId : String} : ¬Accepted sessions runId system [] :=
  nofun

/-- A run that has ended shows to everybody whether it was cancelled. -/
structure Reported (system : System) (run : Run) (cancelled : Prop) : Prop where
  status : run.status = .cancelled ↔ cancelled
  told : ∀ status, .runFinished run.id status ∈ system.engine.events ↔ status = run.status
  stored : ∀ row ∈ system.engine.store.tables.runs, row.id = run.id → row = run

/-- The runs heed the requests to stop that were accepted, and no others. -/
structure Heeds (system : System) (asked : String → Prop) : Prop where
  known : ∀ runId, asked runId → runId ∈ system.engine.runIds
  live : ∀ number task, system.engine.task? number = some task → task.isOver = false →
    (system.engine.registry.cancelRequested task.active = true ↔ asked task.run.id)
  ended : ∀ number task run, system.engine.task? number = some task → task.stage = .ended run →
    run.id = task.run.id ∧ system.Reported run (asked task.run.id)

theorem Heeds.opened (store : Store) (artifacts : Artifacts) (options : RunOptions) :
    (opened store artifacts options).Heeds fun _ => False where
  known := nofun
  live := by simp [System.opened, Engine.task?]
  ended := by simp [System.opened, Engine.task?]

variable {asked : String → Prop} {number : Nat} {task : RunTask} {finished : List StepResult}

section Keeping

theorem Reported.keep {run : Run} {cancelled : Prop} (reported : system.Reported run cancelled)
    (told : ∀ status, .runFinished run.id status ∈ later.engine.events ↔
      .runFinished run.id status ∈ system.engine.events)
    (rows : ∀ row ∈ later.engine.store.tables.runs, row.id = run.id →
      row ∈ system.engine.store.tables.runs) : later.Reported run cancelled where
  status := reported.status
  told := fun status => (told status).trans (reported.told status)
  stored := fun row present same => reported.stored row (rows row present same) same

theorem Heeds.congr (heeds : system.Heeds asked) {others : String → Prop}
    (same : ∀ runId, asked runId ↔ others runId) : system.Heeds others := by
  obtain rfl : asked = others := funext fun runId => propext (same runId)
  exact heeds

/-- A turn that hears nobody leaves it at the requests so far. -/
theorem Heeds.of_deaf (heeds : system.Heeds asked) {before : System}
    (deaf : ∀ runId, ¬before.Hears turn runId) :
    system.Heeds fun runId => asked runId ∨ before.Hears turn runId :=
  heeds.congr fun runId => by simp [deaf runId]

/-- The requests are heeded as before when no run begins, is asked to stop or ends. -/
theorem Heeds.still (heeds : system.Heeds asked)
    (tasks : later.engine.tasks = system.engine.tasks)
    (cancelled : later.engine.registry.cancelled = system.engine.registry.cancelled)
    (events : later.engine.events = system.engine.events)
    (runs : later.engine.store.tables.runs ⊆ system.engine.store.tables.runs) :
    later.Heeds asked where
  known := by
    simp only [Engine.runIds, tasks]
    exact heeds.known
  live := by
    simp only [Engine.task?, tasks, Registry.cancelRequested, cancelled]
    exact heeds.live
  ended := by
    simp only [Engine.task?, tasks]
    intro number task run found stage
    obtain ⟨named, reported⟩ := heeds.ended number task run found stage
    exact ⟨named, reported.keep (fun status => by rw [events]) fun row present _ => runs present⟩

/-- The requests are heeded as before when the run in progress goes on or breaks down. -/
theorem Heeds.updateTask (heeds : system.Heeds asked)
    (running : system.Running number task finished) {change : RunTask → RunTask}
    (tasks : later.engine.tasks = (system.engine.updateTask number change).tasks)
    (kept : ∀ task, (change task).run = task.run ∧ (change task).active = task.active)
    (unended : (change task).hasEnded = false)
    (cancelled : later.engine.registry.cancelled = system.engine.registry.cancelled)
    {told : List RunEvent} (events : later.engine.events = system.engine.events ++ told)
    (silent : ∀ runId status, .runFinished runId status ∉ told)
    (runs : later.engine.store.tables.runs = system.engine.store.tables.runs) :
    later.Heeds asked where
  known := by
    have runIds : later.engine.runIds = system.engine.runIds :=
      calc later.engine.runIds
          = (system.engine.updateTask number change).runIds := by simp only [Engine.runIds, tasks]
        _ = system.engine.runIds := runIds_updateTask number fun task => (kept task).1
    rw [runIds]
    exact heeds.known
  live := by
    intro other rival found busy
    simp only [Registry.cancelRequested, cancelled]
    rw [Engine.task?, tasks] at found
    by_cases same : other = number
    · subst same
      obtain rfl := Option.some.inj ((running.found_updateTask change).symm.trans found)
      rw [(kept task).1, (kept task).2]
      exact heeds.live other task running.found running.busy
    · simp [running.over_updateTask change other rival found same] at busy
  ended := by
    intro other rival run found stage
    rw [Engine.task?, tasks] at found
    have different : number ≠ other := by
      rintro rfl
      obtain rfl := Option.some.inj ((running.found_updateTask change).symm.trans found)
      simp [RunTask.hasEnded, stage] at unended
    have old : system.engine.task? other = some rival := by
      rwa [← Engine.task?, Engine.task?_updateTask, if_neg different] at found
    obtain ⟨named, reported⟩ := heeds.ended other rival run old stage
    refine ⟨named, reported.keep (fun status => ?_) fun row present _ => runs ▸ present⟩
    simp [events, silent]

end Keeping

section Turns

theorem not_hears_of_vacant (vacant : system.engine.registry.context? = none) (runId : String) :
    ¬system.Hears turn runId := by
  rintro ⟨-, accepted⟩
  obtain ⟨context, held, -⟩ := (system.engine.cancel_accepted_iff runId).1 accepted
  simp [vacant] at held

theorem not_hears_of_move (other : ∀ runId, turn.move ≠ .cancel runId) (runId : String) :
    ¬system.Hears turn runId :=
  fun hears => other runId hears.1

/-- A start that is completed adds one task. -/
theorem task?_started {call : StartCall} {now : Int} {other : Nat} {rival : RunTask}
    (found : (system.engine.started call now).task? other = some rival) :
    system.engine.task? other = some rival ∨ rival = system.engine.startedTask call now := by
  simp only [Engine.started, Engine.emit, Engine.task?, List.getElem?_append] at found
  split at found
  · exact .inl found
  · rw [List.getElem?_singleton] at found
    split at found
    · exact .inr (Option.some.inj found).symm
    · cases found

/-- A run that begins has not been asked to stop. -/
theorem Heeds.started (heeds : system.Heeds asked) (consistent : system.Consistent)
    {call : StartCall} (starting : system.Starting call) (now : Int) :
    Heeds ⟨system.engine.started call now, []⟩ asked := by
  let run := system.engine.startedRun call now
  have told : (system.engine.started call now).events = system.engine.events ++
      [.runStarted run.id call.testCase.id call.browser] := Engine.events_emit _
  have unasked : ¬asked run.id := fun early =>
    consistent.minted_notMem_runIds (heeds.known run.id early)
  exact
    { known := by
        intro runId early
        rw [runIds_started]
        exact List.mem_append_left _ (heeds.known runId early)
      live := by
        intro other rival found busy
        rcases task?_started found with old | rfl
        · exact heeds.live other rival old busy
        · -- Tickets are never used twice, so nobody has asked the bearer of a new one to stop.
          refine iff_of_false (fun stop => ?_) unasked
          exact starting.sound.fresh (List.contains_iff_mem.1 stop)
      ended := by
        intro other rival ended found stage
        rcases task?_started found with old | rfl
        · obtain ⟨named, reported⟩ := heeds.ended other rival ended old stage
          refine ⟨named, reported.keep (fun status => by simp [told]) fun row present same => ?_⟩
          rcases (Engine.mem_startedStore_runs consistent.store starting.sound.owned).1 present with
            rfl | kept
          · have known : rival.run.id ∈ system.engine.runIds :=
              List.mem_map_of_mem (List.mem_map_of_mem (List.mem_of_getElem? old))
            rw [← named, ← same] at known
            exact absurd known consistent.minted_notMem_runIds
          · exact kept
        · cases stage }

/-- The run in progress heeds a request to stop, and the others are not concerned. -/
theorem Heeds.stopped (heeds : system.Heeds asked) (consistent : system.Consistent)
    (running : system.Running number task finished) :
    Heeds (system.change fun engine =>
      { engine with
        registry :=
          { engine.registry with cancelled := task.active.ticket :: engine.registry.cancelled } })
      fun runId => asked runId ∨ runId = task.run.id where
  known := by
    rintro runId (early | rfl)
    · exact heeds.known runId early
    · exact running.mem_runIds
  live := by
    intro other rival found busy
    have same : other = number := by
      by_contra different
      simp [running.ceased other rival found different] at busy
    subst same
    obtain rfl := Option.some.inj (running.found.symm.trans found)
    simp [Registry.cancelRequested, change]
  ended := by
    intro other rival run found stage
    obtain ⟨named, reported⟩ := heeds.ended other rival run found stage
    have ceased : rival.isOver = true := by simp [RunTask.isOver, stage]
    have different : rival.run.id ≠ task.run.id :=
      consistent.runId_ne running.found found (running.ne_of_over found ceased)
    refine ⟨named, ?_⟩
    simp only [different, or_false]
    exact ⟨reported.status, reported.told, reported.stored⟩

theorem finalStatus_eq_cancelled_iff {cancelled failed : Bool} :
    Engine.finalStatus cancelled failed = .cancelled ↔ cancelled = true := by
  cases cancelled <;> cases failed <;> simp [Engine.finalStatus]

section Ends

variable {fatal : Option String} {failed : Bool} {now : Int}

theorem runFinished_mem_ended {runId : String} {status : RunStatus} :
    .runFinished runId status ∈ (system.engine.ended number task fatal failed now).events ↔
      .runFinished runId status ∈ system.engine.events ∨
        runId = task.run.id ∧ status = (system.engine.endedRun task fatal failed now).status := by
  have told : (system.engine.ended number task fatal failed now).events = system.engine.events ++
      [.runFinished task.run.id (system.engine.endedRun task fatal failed now).status] :=
    Engine.events_emit _
  simp [told]

theorem mem_runs_ended (consistent : system.Consistent)
    (running : system.Running number task finished) {row : Run} :
    row ∈ (system.engine.ended number task fatal failed now).store.tables.runs ↔
      row = system.engine.endedRun task fatal failed now ∨
        row ∈ system.engine.store.tables.runs ∧ row.id ≠ task.run.id :=
  Store.mem_runs_writeMove consistent.store running.sound.stored _ _ _

/-- The run that ends is reported as cancelled exactly if it was asked to stop. -/
theorem Heeds.reported_ended (heeds : system.Heeds asked) (consistent : system.Consistent)
    (truthful : system.Truthful) (running : system.Running number task finished) :
    Reported (system.change (·.ended number task fatal failed now))
      (system.engine.endedRun task fatal failed now) (asked task.run.id) where
  status :=
    finalStatus_eq_cancelled_iff.trans (heeds.live number task running.found running.busy)
  told := by
    intro status
    have silent := truthful.silent number task running.found running.unended status
    exact runFinished_mem_ended.trans (by simp [silent, Engine.endedRun, Store.moved])
  stored := by
    intro row present named
    rcases (mem_runs_ended consistent running).1 present with same | ⟨-, other⟩
    · exact same
    · exact absurd named other

/-- The end of a run does not concern another run. -/
theorem Reported.ended (consistent : system.Consistent)
    (running : system.Running number task finished) {run : Run} {cancelled : Prop}
    (reported : system.Reported run cancelled) (other : run.id ≠ task.run.id) :
    Reported (system.change (·.ended number task fatal failed now)) run cancelled := by
  refine reported.keep (fun status => ?_) fun row present same => ?_
  · exact runFinished_mem_ended.trans (by simp [other])
  · rcases (mem_runs_ended consistent running).1 present with rfl | ⟨kept, -⟩
    · exact absurd same.symm other
    · exact kept

/-- A run that ends is cancelled exactly if it was asked to stop, and everybody is told so. -/
theorem Heeds.endedRun (heeds : system.Heeds asked) (consistent : system.Consistent)
    (truthful : system.Truthful) (running : system.Running number task finished) :
    Heeds (system.change (·.ended number task fatal failed now)) asked := by
  let run := system.engine.endedRun task fatal failed now
  let ends (task : RunTask) : RunTask := { task with stage := .ended run }
  have runIds : (system.engine.updateTask number ends).runIds = system.engine.runIds :=
    runIds_updateTask number fun _ => rfl
  exact
    { known := fun runId early => runIds ▸ heeds.known runId early
      live := by
        intro other rival found busy
        have ceased : rival.isOver = true := running.over_of_changed rfl other rival found
        simp [ceased] at busy
      ended := by
        intro other rival last found stage
        have found : (system.engine.updateTask number ends).task? other = some rival := found
        by_cases same : other = number
        · subst same
          obtain rfl := Option.some.inj ((running.found_updateTask ends).symm.trans found)
          obtain rfl : run = last := Stage.ended.inj stage
          exact ⟨rfl, heeds.reported_ended consistent truthful running⟩
        · rw [Engine.task?_updateTask, if_neg (Ne.symm same)] at found
          obtain ⟨named, reported⟩ := heeds.ended other rival last found stage
          have different : last.id ≠ task.run.id :=
            named ▸ consistent.runId_ne running.found found same
          exact ⟨named, reported.ended consistent running different⟩ }

end Ends

/-- Each turn heeds the requests to stop so far, and the one that it hears. -/
theorem Transition.heeds (transition : Transition sessions system turn later)
    (consistent : system.Consistent) (truthful : system.Truthful) (heeds : system.Heeds asked) :
    later.Heeds fun runId => asked runId ∨ system.Hears turn runId := by
  cases transition with
  | aside unmoved beside =>
    obtain ⟨store, installs, artifacts, aside, rfl⟩ := beside
    have still : (system.change fun _ => { system.engine with store, installs, artifacts }).Heeds
        asked := heeds.still rfl rfl rfl aside.runs
    refine still.of_deaf ?_
    rintro runId ⟨move, accepted⟩
    simp [unmoved.cancel runId move] at accepted
  | claimed idle call ticket testCaseId owned numbered =>
    refine Heeds.of_deaf ?_ (not_hears_of_vacant (by simp [Registry.context?, idle.free]))
    exact heeds.still rfl rfl rfl (List.Subset.refl _)
  | dropped call starting settles =>
    refine Heeds.of_deaf ?_ (not_hears_of_vacant (by simp [Registry.context?, starting.held]))
    exact heeds.still rfl rfl rfl (List.Subset.refl _)
  | started call starting settles =>
    refine Heeds.of_deaf ?_ (not_hears_of_vacant (by simp [Registry.context?, starting.held]))
    exact heeds.started consistent starting turn.now
  | @stopped number task finished running asked =>
    refine (heeds.stopped consistent running).congr fun runId => or_congr_right ?_
    have context : system.engine.registry.context? = some task.active.context := by
      simp [Registry.context?, running.held]
    rw [Hears, Engine.cancel_accepted_iff, asked, context]
    simp [running.sound.runId, eq_comm]
  | passed running own passes =>
    refine Heeds.of_deaf ?_ (not_hears_of_move (by simp [own]))
    refine heeds.updateTask running rfl (fun _ => ⟨rfl, rfl⟩) ?_ rfl (List.append_nil _).symm
      (by simp) rfl
    exact (running.passed passes).unended
  | begun running own stage goes =>
    refine Heeds.of_deaf ?_ (not_hears_of_move (by simp [own]))
    refine heeds.updateTask running rfl (fun _ => ⟨rfl, rfl⟩) ?_ rfl (Engine.events_emit _)
      (by simp) rfl
    exact (running.begun stage turn.now).unended
  | decided running own decides made artifacts store sound minted testCases runs results =>
    refine Heeds.of_deaf ?_ (not_hears_of_move (by simp [own]))
    refine heeds.updateTask running rfl (fun _ => ⟨rfl, rfl⟩) ?_ rfl (Engine.events_emit _)
      (by simp) runs
    exact (running.decided decides made artifacts testCases runs results).unended
  | ended running own ends =>
    refine Heeds.of_deaf ?_ (not_hears_of_move (by simp [own]))
    exact heeds.endedRun consistent truthful running
  | brokeDown running fault =>
    refine Heeds.of_deaf ?_ (not_hears_of_move (by simp [fault]))
    exact heeds.updateTask running rfl (fun _ => ⟨rfl, rfl⟩) rfl rfl (List.append_nil _).symm
      (by simp) rfl

/-- Every history heeds the requests to stop that it accepts. -/
theorem Consistent.heeds_after (consistent : system.Consistent) (truthful : system.Truthful)
    (heeds : system.Heeds asked) (sessions : Nat → Session) (history : List Turn) :
    (system.after sessions history).Heeds fun runId =>
      asked runId ∨ Accepted sessions runId system history := by
  -- What has been asked so far grows along the history, as each turn may hear one more request.
  induction history generalizing system asked with
  | nil => exact heeds.congr fun runId => by simp [not_accepted_nil]
  | cons turn history inductionHypothesis =>
    have transition := consistent.transition sessions turn
    have later := inductionHypothesis (consistent.step sessions turn)
      (transition.truthful consistent truthful) (transition.heeds consistent truthful heeds)
    exact later.congr fun runId => by rw [accepted_cons_iff, or_assoc]

end Turns

/-- The end of a run is told only if its task has ended. -/
theorem Truthful.ended_of_told (truthful : system.Truthful) {runId : String} {status : RunStatus}
    (told : .runFinished runId status ∈ system.engine.events) :
    ∃ number task run, system.engine.task? number = some task ∧ task.stage = .ended run ∧
      task.run.id = runId := by
  obtain ⟨run, among, named⟩ := List.mem_map.1 (truthful.known _ told)
  obtain ⟨task, present, rfl⟩ := List.mem_map.1 among
  obtain ⟨number, found⟩ := List.mem_iff_getElem?.1 present
  cases stage : task.stage with
  | ended run => exact ⟨number, task, run, found, stage, named⟩
  | _ =>
    have unended : task.hasEnded = false := by simp [RunTask.hasEnded, stage]
    have named : task.run.id = runId := named
    exact absurd (named ▸ told) (truthful.silent number task found unended status)

/-- A request to stop that is refused leaves the system as it is. -/
theorem step_cancel_of_refused {runId : String} (refused : (system.engine.cancel runId).1 = false)
    (now : Int) : system.step sessions ⟨now, .cancel runId⟩ = system := by
  simp only [step, change, Engine.cancel_of_refused refused]

/-- Requests to stop hit the runs that they name, and no others. -/
structure HitsOwn (sessions : Nat → Session) (first : System) (history : List Turn) : Prop where
  accepted_iff : ∀ runId, ((first.after sessions history).engine.cancel runId).1 = true ↔
    ∃ context, (first.after sessions history).engine.registry.context? = some context ∧
      context.runId = runId
  ended : ∀ number task run,
    (first.after sessions history).engine.task? number = some task → task.stage = .ended run →
    run.id = task.run.id ∧
      (first.after sessions history).Reported run (Accepted sessions task.run.id first history)
  told : ∀ runId status,
    .runFinished runId status ∈ (first.after sessions history).engine.events →
    (status = .cancelled ↔ Accepted sessions runId first history) ∧
      ∀ row ∈ (first.after sessions history).engine.store.tables.runs, row.id = runId →
        row.status = status
  refused : ∀ runId, ((first.after sessions history).engine.cancel runId).1 = false →
    ∀ now later, first.after sessions (history ++ ⟨now, .cancel runId⟩ :: later) =
      first.after sessions (history ++ later)

/-- Requests to stop hit the runs that they name in every history. -/
theorem hitsOwn_after {store : Store} (sound : store.Sound) (artifacts : Artifacts)
    (options : RunOptions) (sessions : Nat → Session) (history : List Turn) :
    HitsOwn sessions (opened store artifacts options) history := by
  have consistent := Consistent.opened sound artifacts options
  have unheard : (opened store artifacts options).Truthful :=
    ⟨by simp [opened, Engine.events], by simp [opened, Engine.task?]⟩
  have unasked : (opened store artifacts options).Heeds fun _ => False :=
    ⟨by simp, by simp [opened, Engine.task?], by simp [opened, Engine.task?]⟩
  have truthful := consistent.truthful_after unheard sessions history
  have heeds := consistent.heeds_after unheard unasked sessions history
  simp only [false_or] at heeds
  exact
    { accepted_iff := fun runId => Engine.cancel_accepted_iff _ runId
      ended := heeds.ended
      told := by
        intro runId status told
        obtain ⟨number, task, run, found, stage, rfl⟩ := truthful.ended_of_told told
        obtain ⟨named, reported⟩ := heeds.ended number task run found stage
        obtain rfl : status = run.status := (reported.told status).1 (named ▸ told)
        refine ⟨reported.status, fun row present same => ?_⟩
        rw [reported.stored row present (same.trans named.symm)]
      refused := by
        intro runId refused now later
        simp only [after, List.foldl_append, List.foldl_cons] at refused ⊢
        rw [step_cancel_of_refused refused now] }

/-- Asks the run of the sample to stop within its step, and lets it come to its end. -/
def sampleCancel : List Turn :=
  sampleAction ++ ⟨4, .cancel (Store.idOf 3)⟩ :: List.replicate 4 ⟨5, .proceed 0⟩

/-- The run of the sample is cancelled, since a request was accepted. -/
theorem hitsOwn_sampleCancel :
    .runFinished (Store.idOf 3) .cancelled ∈ (sample sampleCancel).engine.events ∧
      Accepted (fun _ => .prompt) (Store.idOf 3) (opened {} default sampleOptions) sampleCancel ∧
      HitsOwn (fun _ => .prompt) (opened {} default sampleOptions) sampleCancel := by
  have told : .runFinished (Store.idOf 3) .cancelled ∈ (sample sampleCancel).engine.events := by
    decide +kernel
  have whole := hitsOwn_after .empty default sampleOptions (fun _ => .prompt) sampleCancel
  exact ⟨told, (whole.told _ _ told).1.1 rfl, whole⟩

end System

end StepRunner
