import StepRunner.Proofs.Engine.Preservation

/-!
This file shows that the events of runs tell one story after the other, and that the store and the
slot show each event at the instant when it is told.
-/

namespace StepRunner

/-- A run with the steps that are over and their outcomes. -/
structure Story where
  runId : String
  testCaseId : String
  browser : Browser
  steps : List (String × StepStatus)

namespace Story

/-- The events of a run up to the last step that is over; its steps are numbered from one. -/
def events (story : Story) : List RunEvent :=
  .runStarted story.runId story.testCaseId story.browser ::
    (story.steps.zipIdx 1).flatMap fun ((stepId, status), order) =>
      [.stepStarted story.runId stepId order, .stepFinished story.runId stepId order status]

/-- The event that the next step of a run has begun. -/
def nextStep (story : Story) (stepId : String) : RunEvent :=
  .stepStarted story.runId stepId (story.steps.length + 1)

/-- The events of a run from its start to its end. -/
def complete (story : Story) (status : RunStatus) : List RunEvent :=
  story.events ++ [.runFinished story.runId status]

/-- The events of runs that have ended one after the other. -/
def tell (ended : List (Story × RunStatus)) : List RunEvent :=
  ended.flatMap fun (story, status) => story.complete status

/-- Events that tell the story of a run which has not ended. -/
inductive Unfinished (story : Story) : List RunEvent → Prop where
  | between : Unfinished story story.events
  | within (stepId : String) : Unfinished story (story.events ++ [story.nextStep stepId])

/--
Events tell the stories of different runs one after the other.
Only the last of them may be unfinished.
-/
def InTurn (events : List RunEvent) : Prop :=
  ∃ (ended : List (Story × RunStatus)) (last : List RunEvent),
    events = tell ended ++ last ∧ (ended.map fun entry => entry.1.runId).Nodup ∧
      (last = [] ∨ ∃ story : Story,
        story.Unfinished last ∧ story.runId ∉ ended.map fun entry => entry.1.runId)

theorem events_concat (story : Story) (stepId : String) (status : StepStatus) :
    { story with steps := story.steps ++ [(stepId, status)] }.events =
      story.events ++ [story.nextStep stepId,
        .stepFinished story.runId stepId (story.steps.length + 1) status] := by
  simp [events, nextStep, List.zipIdx_append, Nat.add_comm]

theorem tell_concat (ended : List (Story × RunStatus)) (story : Story) (status : RunStatus) :
    tell (ended ++ [(story, status)]) =
      tell ended ++ story.events ++ [.runFinished story.runId status] := by
  simp [tell, complete]

end Story

/-- The store and the slot show an event. -/
def Announcement.Shown (announcement : Announcement) : Prop :=
  match announcement.event with
  | .runStarted runId testCaseId browser =>
    (∃ run, announcement.tables.run? runId = some run ∧ run.status = .running ∧
      run.testCaseId = testCaseId ∧ run.browser = browser) ∧
    ∃ ticket projectId, announcement.slot = .active ticket ⟨runId, projectId, testCaseId⟩
  | .stepStarted runId stepId order =>
    ∃ result ∈ announcement.tables.listResults runId,
      result.stepId = stepId ∧ result.order = order ∧ result.status = .pending
  | .stepFinished runId stepId order status =>
    ∃ result ∈ announcement.tables.listResults runId,
      result.stepId = stepId ∧ result.order = order ∧ result.status = status ∧
        status ≠ .pending ∧ result.endedAt.isSome = true
  | .runFinished runId status =>
    (∃ run, announcement.tables.run? runId = some run ∧ run.status = status ∧
      status.isTerminal = true ∧ run.endedAt.isSome = true) ∧
    announcement.slot = .empty

/-- The story of the run of a task up to the last step that is over. -/
def RunTask.story (task : RunTask) (finished : List StepResult) : Story where
  runId := task.run.id
  testCaseId := task.run.testCaseId
  browser := task.run.browser
  steps := finished.map fun result => (result.stepId, result.status)

/-- All that was told of the run of a task. -/
def RunTask.told (task : RunTask) (finished : List StepResult) : List RunEvent :=
  (task.story finished).events ++
    task.pending?.toList.map fun result => (task.story finished).nextStep result.stepId

namespace System

/-- The events tell of runs that have ended, and then of the run in progress. -/
inductive Tells (system : System) (ended : List (Story × RunStatus)) : Prop where
  | quiet (inactive : ∀ ticket context, system.engine.registry.slot ≠ .active ticket context)
      (events : system.engine.events = Story.tell ended)
  | amid (number : Nat) (task : RunTask) (finished : List StepResult)
      (running : system.Running number task finished)
      (events : system.engine.events = Story.tell ended ++ task.told finished)
      (new : task.run.id ∉ ended.map fun entry => entry.1.runId)

/-- The events tell one story after the other, of different runs. -/
structure Chronicle (system : System) (ended : List (Story × RunStatus)) : Prop where
  tells : system.Tells ended
  distinct : (ended.map fun entry => entry.1.runId).Nodup
  known : (ended.map fun entry => entry.1.runId) ⊆ system.engine.runIds

variable {system later : System} {sessions : Nat → Session} {turn : Turn}
variable {ended : List (Story × RunStatus)}

/-- While a run has the slot, the last story is its own. -/
theorem Chronicle.amid (chronicle : system.Chronicle ended) {number : Nat} {task : RunTask}
    {finished : List StepResult} (running : system.Running number task finished) :
    system.engine.events = Story.tell ended ++ task.told finished ∧
      task.run.id ∉ ended.map fun entry => entry.1.runId := by
  rcases chronicle.tells with ⟨inactive, -⟩ | ⟨other, rival, rows, again, events, new⟩
  · exact absurd running.held (inactive _ _)
  · obtain ⟨rfl, rfl, rfl⟩ := running.unique again
    exact ⟨events, new⟩

/-- While no run has the slot, all stories are complete. -/
theorem Chronicle.quiet (chronicle : system.Chronicle ended)
    (inactive : ∀ ticket context, system.engine.registry.slot ≠ .active ticket context) :
    system.engine.events = Story.tell ended := by
  rcases chronicle.tells with ⟨-, events⟩ | ⟨number, task, finished, running, -, -⟩
  · exact events
  · exact absurd running.held (inactive _ _)

/-- A chronicle goes on while no run starts or ends. -/
theorem Chronicle.next (chronicle : system.Chronicle ended) (tells : later.Tells ended)
    (runIds : later.engine.runIds = system.engine.runIds) : later.Chronicle ended :=
  ⟨tells, chronicle.distinct, runIds ▸ chronicle.known⟩

section Tale

variable {task : RunTask} {finished : List StepResult}

/-- A task without a pending result has told of the steps that are over. -/
theorem told_of_idle (idle : task.pending? = none) :
    task.told finished = (task.story finished).events := by
  simp [RunTask.told, idle]

theorem told_of_passes {session : Session} {cancelled : Bool} {stage : Stage}
    (passes : task.Passes session cancelled stage) (finished : List StepResult) :
    RunTask.told { task with stage } finished = task.told finished := by
  simp only [RunTask.told, passes.pending?_eq]
  rfl

/-- A task tells that its next step has begun. -/
theorem told_of_begun {next : RunTask} {result : StepResult} (busy : next.pending? = some result)
    (idle : task.pending? = none) (run : next.run = task.run)
    (order : result.order = finished.length + 1) :
    next.told finished =
      task.told finished ++ [.stepStarted task.run.id result.stepId result.order] := by
  simp [RunTask.told, RunTask.story, Story.nextStep, idle, busy, run, order]

/-- A task tells how its step has ended. -/
theorem told_of_decided {next : RunTask} {result outcome : StepResult}
    (busy : task.pending? = some result) (idle : next.pending? = none) (run : next.run = task.run)
    (order : result.order = finished.length + 1) (place : outcome.place = result.place) :
    next.told (finished ++ [outcome]) = task.told finished ++
      [.stepFinished task.run.id outcome.stepId outcome.order outcome.status] := by
  obtain ⟨stepId, number⟩ := Prod.mk.inj place
  have grown := Story.events_concat (task.story finished) outcome.stepId outcome.status
  simp only [RunTask.told, RunTask.story, Story.nextStep, busy, idle, run, List.map_append,
    List.map_cons, List.map_nil, Option.toList_some, Option.toList_none, List.length_map,
    List.append_nil] at grown ⊢
  rw [grown, ← stepId, number, order, List.append_assoc]
  rfl

end Tale

/-- A turn in which no browser breaks down goes on with the story of the run in progress. -/
theorem Transition.chronicle (transition : Transition sessions system turn later)
    (consistent : system.Consistent) (chronicle : system.Chronicle ended)
    (calm : turn.isCalm = true) : ∃ ended, later.Chronicle ended := by
  cases transition with
  | aside unmoved beside =>
    rcases chronicle.tells with ⟨inactive, events⟩ | ⟨number, task, finished, running, events, new⟩
    · obtain ⟨store, installs, artifacts, aside, rfl⟩ := beside
      exact ⟨ended, chronicle.next (.quiet inactive events) rfl⟩
    · have running := running.beside beside
      obtain ⟨store, installs, artifacts, aside, rfl⟩ := beside
      exact ⟨ended, chronicle.next (.amid number task finished running events new) rfl⟩
  | claimed idle call ticket testCaseId owned numbered =>
    have events := chronicle.quiet (by simp [idle.free])
    exact ⟨ended, chronicle.next (.quiet (by simp) events) rfl⟩
  | dropped call starting settles =>
    have events := chronicle.quiet (by simp [starting.held])
    exact ⟨ended, chronicle.next (.quiet (by simp [Registry.freed]) events) rfl⟩
  | started call starting settles =>
    have events := chronicle.quiet (by simp [starting.held])
    have told : (system.engine.started call turn.now).events =
        system.engine.events ++ (system.engine.startedTask call turn.now).told [] :=
      Engine.events_emit _
    have new : Store.idOf system.engine.store.minted ∉ ended.map fun entry => entry.1.runId :=
      fun present => consistent.minted_notMem_runIds (chronicle.known present)
    rw [events] at told
    refine ⟨ended, .amid _ _ _ (starting.started consistent.store turn.now) told new,
      chronicle.distinct, ?_⟩
    rw [runIds_started]
    exact fun id present => List.mem_append_left _ (chronicle.known present)
  | stopped running asked =>
    obtain ⟨events, new⟩ := chronicle.amid running
    exact ⟨ended, chronicle.next (.amid _ _ _ (running.stopped _) events new) rfl⟩
  | passed running own passes =>
    obtain ⟨events, new⟩ := chronicle.amid running
    rw [← told_of_passes passes] at events
    exact ⟨ended, chronicle.next (.amid _ _ _ (running.passed passes) events new)
      (runIds_updateTask _ fun _ => rfl)⟩
  | @begun number task finished running own step rest stage goes =>
    obtain ⟨events, new⟩ := chronicle.amid running
    have next := running.begun stage turn.now
    have busy := RunTask.pending?_begun task (system.engine.begunResult task step turn.now)
      step rest
    have told : (system.engine.begun number task step rest turn.now).events =
        system.engine.events ++ [.stepStarted task.run.id step.id step.order] :=
      Engine.events_emit _
    have idle : task.pending? = none := by simp [RunTask.pending?, stage]
    have grown := told_of_begun busy idle rfl (next.sound.order_of_pending busy)
    rw [events, List.append_assoc] at told
    exact ⟨ended, chronicle.next (.amid _ _ _ next (told.trans (congrArg _ grown.symm)) new)
      (runIds_updateTask _ fun _ => rfl)⟩
  | @decided number task finished running own result outcome failure path rest decides made
      artifacts store sound minted testCases runs results =>
    obtain ⟨events, new⟩ := chronicle.amid running
    have next := running.decided decides made artifacts testCases runs results
    have told : (Engine.decided { system.engine with artifacts } number task outcome rest
        store).events = system.engine.events ++
          [.stepFinished task.run.id outcome.stepId outcome.order outcome.status] :=
      Engine.events_emit _
    have idle := RunTask.pending?_afterStep task outcome.status rest
    have place : outcome.place = result.place := by
      rw [made]
      rfl
    have grown := told_of_decided decides.pending?_eq idle rfl
      (running.sound.order_of_pending decides.pending?_eq) place
    rw [events, List.append_assoc] at told
    exact ⟨ended, chronicle.next (.amid _ _ _ next (told.trans (congrArg _ grown.symm)) new)
      (runIds_updateTask _ fun _ => rfl)⟩
  | @ended number task finished running own fatal failed ends =>
    obtain ⟨events, new⟩ := chronicle.amid running
    let status := (system.engine.endedRun task fatal failed turn.now).status
    have told : (system.engine.ended number task fatal failed turn.now).events =
        system.engine.events ++ [.runFinished task.run.id status] :=
      Engine.events_emit _
    have runIds : (system.engine.ended number task fatal failed turn.now).runIds =
        system.engine.runIds := runIds_updateTask _ fun _ => rfl
    rw [events, told_of_idle ends.pending?_eq] at told
    refine ⟨ended ++ [(task.story finished, status)], .quiet ?_ ?_, ?_, ?_⟩
    · simp [System.change, Engine.ended, Registry.freed, Engine.setStage, Engine.updateTask,
        Engine.emit]
    · rw [Story.tell_concat]
      exact told
    · rw [List.map_append, List.map_singleton, List.nodup_append_comm]
      exact List.nodup_cons.2 ⟨new, chronicle.distinct⟩
    · change _ ⊆ (system.engine.ended number task fatal failed turn.now).runIds
      rw [runIds]
      intro id present
      rw [List.map_append, List.mem_append] at present
      rcases present with old | added
      · exact chronicle.known old
      · exact List.mem_singleton.1 added ▸ running.mem_runIds
  | brokeDown running fault => simp [Turn.isCalm, fault] at calm

/-- A task in progress has told a story that is unfinished. -/
theorem unfinished_told (task : RunTask) (finished : List StepResult) :
    (task.story finished).Unfinished (task.told finished) := by
  cases busy : task.pending? with
  | none =>
    rw [told_of_idle busy]
    exact .between
  | some result =>
    have told : task.told finished =
        (task.story finished).events ++ [(task.story finished).nextStep result.stepId] := by
      simp only [RunTask.told, busy]
      rfl
    rw [told]
    exact .within result.stepId

/-- The events of a chronicle are stories in turn. -/
theorem Chronicle.inTurn (chronicle : system.Chronicle ended) :
    Story.InTurn system.engine.events := by
  rcases chronicle.tells with ⟨-, events⟩ | ⟨number, task, finished, running, events, new⟩
  · exact ⟨ended, [], by rw [events, List.append_nil], chronicle.distinct, .inl rfl⟩
  · exact ⟨ended, task.told finished, events, chronicle.distinct,
      .inr ⟨task.story finished, unfinished_told task finished, new⟩⟩

theorem Consistent.chronicle_after (consistent : system.Consistent) (sessions : Nat → Session)
    (chronicle : system.Chronicle ended) (history : List Turn)
    (calm : ∀ turn ∈ history, turn.isCalm = true) :
    ∃ ended, (system.after sessions history).Chronicle ended := by
  induction history generalizing system ended with
  | nil => exact ⟨ended, chronicle⟩
  | cons turn history inductionHypothesis =>
    obtain ⟨more, next⟩ :=
      (consistent.transition sessions turn).chronicle consistent chronicle (calm turn (by simp))
    exact inductionHypothesis (consistent.step sessions turn) next
      fun other among => calm other (by simp [among])

section Observation

variable {number : Nat} {task : RunTask} {finished : List StepResult}

/-- The store and the slot show each event that a turn tells. -/
theorem Transition.shown (transition : Transition sessions system turn later)
    (consistent : system.Consistent)
    (shown : ∀ announcement ∈ system.engine.announcements, announcement.Shown) :
    ∀ announcement ∈ later.engine.announcements, announcement.Shown := by
  have next := transition.consistent consistent
  have shown_concat {announcement : Announcement} (last : announcement.Shown) :
      ∀ other ∈ system.engine.announcements ++ [announcement], other.Shown := by
    intro other among
    rcases List.mem_append.1 among with old | new
    · exact shown other old
    · exact List.mem_singleton.1 new ▸ last
  cases transition with
  | aside unmoved beside =>
    obtain ⟨store, installs, artifacts, aside, rfl⟩ := beside
    exact shown
  | claimed idle call ticket testCaseId owned numbered => exact shown
  | dropped call starting settles => exact shown
  | started call starting settles =>
    have running := starting.started consistent.store turn.now
    apply shown_concat
    refine ⟨⟨_, next.store.tables.keyed.run?_eq_some_iff.2 ⟨running.sound.stored, rfl⟩, rfl, rfl,
      rfl⟩, call.reservation.ticket, call.reservation.projectId, ?_⟩
    rw [← starting.sound.testCaseId]
    rfl
  | stopped running asked => exact shown
  | passed running own passes => exact shown
  | @begun number task finished running own step rest stage goes =>
    have running := running.begun stage turn.now
    apply shown_concat
    refine ⟨system.engine.begunResult task step turn.now, ?_, rfl, rfl, rfl⟩
    have rows := running.listResults_eq
    simp only [RunTask.rows, RunTask.pending?_begun] at rows
    exact rows ▸ by simp
  | @decided number task finished running own result outcome failure path rest decides made
      artifacts store sound minted testCases runs results =>
    have running := running.decided decides made artifacts testCases runs results
    have last := running.sound.trail.decided outcome (by simp)
    apply shown_concat
    refine ⟨outcome, ?_, rfl, rfl, rfl, last⟩
    have rows := running.listResults_eq
    simp only [RunTask.rows, List.append_assoc] at rows
    exact rows ▸ by simp
  | @ended number task finished running own fatal failed ends =>
    apply shown_concat
    obtain ⟨stored, terminal, stamped, -⟩ := running.ended consistent ends turn.now
    exact ⟨⟨_, stored, rfl, terminal, stamped⟩, rfl⟩
  | brokeDown running fault => exact shown

theorem Consistent.shown_after (consistent : system.Consistent)
    (shown : ∀ announcement ∈ system.engine.announcements, announcement.Shown)
    (history : List Turn) :
    ∀ announcement ∈ (system.after sessions history).engine.announcements, announcement.Shown := by
  induction history generalizing system with
  | nil => exact shown
  | cons turn history inductionHypothesis =>
    exact inductionHypothesis (consistent.step sessions turn)
      ((consistent.transition sessions turn).shown consistent shown)

end Observation

/--
After every calm history, the events tell the stories of runs in turn, and the store and the slot
showed each event at the instant when it was told.
-/
theorem inTurn_and_shown_after {store : Store} (sound : store.Sound) (artifacts : Artifacts)
    (options : RunOptions) (history : List Turn) (calm : ∀ turn ∈ history, turn.isCalm = true) :
    let engine := ((opened store artifacts options).after sessions history).engine
    Story.InTurn engine.events ∧ ∀ announcement ∈ engine.announcements, announcement.Shown := by
  have consistent := Consistent.opened sound artifacts options
  have silent : (opened store artifacts options).Chronicle [] :=
    ⟨.quiet (by simp [opened]) rfl, .nil, by simp⟩
  obtain ⟨ended, chronicle⟩ := consistent.chronicle_after sessions silent history calm
  exact ⟨chronicle.inTurn, consistent.shown_after (by simp [opened]) history⟩

/-- The sample tells the four events of its run. -/
theorem inTurn_and_shown_after_sampleRun :
    (sample sampleRun).engine.events.length = 4 ∧
      Story.InTurn (sample sampleRun).engine.events ∧
      ∀ announcement ∈ (sample sampleRun).engine.announcements, announcement.Shown :=
  ⟨by decide +kernel, inTurn_and_shown_after .empty _ _ sampleRun (by decide)⟩

end System

end StepRunner
