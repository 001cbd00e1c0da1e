import StepRunner.Proofs.Engine.Clock

/-!
This file shows by when a run has ended and has freed its slot.
A run ends in time whatever its browser does with the actions and the screenshots, as long as the
browser is closed; a close that never returns keeps the slot for ever.
-/

namespace StepRunner

namespace Timed

section Results

variable (sessions : Nat → Session) (pace : Pace) (number : Nat)

/-- A run ends and frees its slot by a deadline, and nothing that happens keeps it from that. -/
structure Ends (timed : Timed) (run : Run) (deadline : Nat) : Prop where
  inTime : ∀ history, timed.Timely sessions pace number history →
    deadline < (timed.after sessions number history).time →
    ∃ soon rest, history = soon ++ rest ∧ (timed.after sessions number soon).time ≤ deadline ∧
      (timed.after sessions number soon).system.Freed number run
  reaches : ∀ history, timed.Timely sessions pace number history →
    (∃ soon rest, history = soon ++ rest ∧ (timed.after sessions number soon).time ≤ deadline ∧
      (timed.after sessions number soon).system.Freed number run) ∨
    ∃ later, timed.Timely sessions pace number (history ++ later) ∧
      (timed.after sessions number (history ++ later)).time ≤ deadline ∧
      (timed.after sessions number (history ++ later)).system.Freed number run

/-- A run keeps its slot for ever. -/
structure Hangs (timed : Timed) (run : Run) : Prop where
  blocked : ∀ history, timed.Timely sessions pace number history →
    (timed.after sessions number history).system.Blocked number run
  lasts : ∀ history, timed.Timely sessions pace number history → ∀ ticks,
    ∃ later, timed.Timely sessions pace number (history ++ later) ∧
      ticks ≤ (timed.after sessions number (history ++ later)).time

end Results

variable {sessions : Nat → Session} {pace : Pace} {number : Nat} {timed : Timed}
  {task : RunTask} {deadline : Nat}

section Histories

/-- What has become of a run after a history: it is in time, or it has ended by the deadline. -/
theorem Live.after (live : timed.Live sessions pace number task deadline)
    {history : List Episode} (timely : timed.Timely sessions pace number history) :
    (∃ next, (timed.after sessions number history).Live sessions pace number next deadline ∧
        task.SameRun next) ∨
      Closes (sessions number) pace ∧ ∃ soon rest, history = soon ++ rest ∧
        (timed.after sessions number soon).time ≤ deadline ∧
        (timed.after sessions number soon).system.Freed number task.run := by
  induction history generalizing timed task with
  | nil => exact .inl ⟨task, live, ⟨rfl, rfl, rfl, rfl⟩⟩
  | cons episode history inductionHypothesis =>
    obtain ⟨allowed, timely⟩ := timely
    rcases live.step allowed with ⟨next, alive, same⟩ | ⟨early, freed, closes⟩
    · rcases inductionHypothesis alive timely with
        ⟨last, alive, again⟩ | ⟨closes, soon, rest, split, early, freed⟩
      · exact .inl ⟨last, alive, ⟨again.run.trans same.run, again.steps.trans same.steps,
          again.options.trans same.options, again.active.trans same.active⟩⟩
      · refine .inr ⟨closes, episode :: soon, rest, by rw [split, List.cons_append], early, ?_⟩
        rw [← same.run]
        exact freed
    · exact .inr ⟨closes, [episode], history, rfl, early, freed⟩

/-- A task that stays for ever waits for the close of its browser. -/
theorem Live.not_closes (live : timed.Live sessions pace number task deadline)
    (stays : timed.due? sessions pace number = none) : ¬Closes (sessions number) pace := by
  rw [due?_of_found live.found, Option.map_eq_none_iff] at stays
  have busy := live.busy
  rintro (⟨error, fails⟩ | ⟨ticks, closes⟩)
  · simp [RunTask.stay?, live.unlaunched error fails] at stays
  · unfold RunTask.stay? at stays
    unfold RunTask.isOver at busy
    split at stays <;> simp_all

/-- A task can always go on until it has ended or stays for ever. -/
theorem Live.onward (live : timed.Live sessions pace number task deadline) :
    ∃ later, timed.Timely sessions pace number later ∧
      ((timed.after sessions number later).time ≤ deadline ∧
          (timed.after sessions number later).system.Freed number task.run ∨
        ∃ next, (timed.after sessions number later).Live sessions pace number next deadline ∧
          (timed.after sessions number later).due? sessions pace number = none) := by
  induction turns : task.turnsLeft using Nat.strong_induction_on generalizing timed task with
  | _ turns inductionHypothesis =>
    cases moment : timed.due? sessions pace number with
    | none => exact ⟨[], trivial, .inr ⟨task, live, moment⟩⟩
    | some due =>
      -- The clock goes on to the moment at which the task goes on.
      have patient := live.patient due moment
      have allowed : timed.Allows sessions pace number (.pass (due - timed.time)) := by
        intro other goes
        obtain rfl := Option.some.inj (moment.symm.trans goes)
        omega
      have waited := live.pass allowed
      have arrived : (timed.on sessions number (.pass (due - timed.time))).due? sessions pace
          number = some (timed.on sessions number (.pass (due - timed.time))).time := by
        have time : (timed.on sessions number (.pass (due - timed.time))).time = due := by
          show timed.time + (due - timed.time) = due
          omega
        rw [time]
        exact moment
      have punctual : (timed.on sessions number (.pass (due - timed.time))).Allows sessions pace
          number (.meet (.turn ⟨0, .proceed number⟩)) := ⟨rfl, fun _ _ _ _ => arrived⟩
      rcases waited.proceed arrived 0 with ⟨next, alive, same, fewer⟩ | ⟨freed, -⟩
      · obtain ⟨later, timely, outcome⟩ := inductionHypothesis _ (turns ▸ fewer) alive rfl
        refine ⟨.pass (due - timed.time) :: .meet (.turn ⟨0, .proceed number⟩) :: later,
          ⟨allowed, punctual, timely⟩, ?_⟩
        rw [← same.run]
        exact outcome
      · exact ⟨[.pass (due - timed.time), .meet (.turn ⟨0, .proceed number⟩)],
          ⟨allowed, punctual, trivial⟩, .inl ⟨waited.time_le arrived, freed⟩⟩

/-- A run whose browser is closed in some time ends by its deadline. -/
theorem Live.ends (live : timed.Live sessions pace number task deadline)
    (closes : Closes (sessions number) pace) :
    timed.Ends sessions pace number task.run deadline where
  inTime := by
    intro history timely late
    rcases live.after timely with ⟨next, alive, -⟩ | ⟨-, freed⟩
    · cases moment : (timed.after sessions number history).due? sessions pace number with
      | none => exact absurd closes (alive.not_closes moment)
      | some due =>
        have early := alive.time_le moment
        omega
    · exact freed
  reaches := by
    intro history timely
    rcases live.after timely with ⟨next, alive, same⟩ | ⟨-, freed⟩
    · obtain ⟨later, goes, outcome⟩ := alive.onward
      have whole := timely_append.2 ⟨timely, goes⟩
      rw [← after_append] at outcome
      rcases outcome with ⟨early, freed⟩ | ⟨last, lasting, stays⟩
      · rw [same.run] at freed
        exact .inr ⟨later, whole, early, freed⟩
      · exact absurd closes (lasting.not_closes stays)
    · exact .inl freed

/-- A run whose browser is launched and then never closed keeps its slot. -/
theorem Live.hangs (live : timed.Live sessions pace number task deadline)
    (named : task.active.context.runId = task.run.id)
    (never : ¬Closes (sessions number) pace) : timed.Hangs sessions pace number task.run where
  blocked := by
    intro history timely
    rcases live.after timely with ⟨next, alive, same⟩ | ⟨closes, -⟩
    · rw [← same.run]
      exact alive.blocked (by rw [same.active, same.run, named])
    · exact absurd closes never
  lasts := by
    intro history timely ticks
    rcases live.after timely with ⟨next, alive, same⟩ | ⟨closes, -⟩
    · obtain ⟨later, goes, outcome⟩ := alive.onward
      have whole := timely_append.2 ⟨timely, goes⟩
      rw [← after_append] at outcome
      rcases outcome with ⟨-, freed⟩ | ⟨last, -, stays⟩
      · rcases live.after whole with ⟨last, lasting, -⟩ | ⟨closes, -⟩
        · have free := freed.free
          rw [lasting.held] at free
          cases free
        · exact absurd closes never
      · have allowed : (timed.after sessions number (history ++ later)).Allows sessions pace number
            (.pass ticks) := by
          intro due goes
          rw [stays] at goes
          cases goes
        refine ⟨later ++ [.pass ticks], ?_, ?_⟩
        · rw [← List.append_assoc]
          exact timely_append.2 ⟨whole, allowed, trivial⟩
        · rw [← List.append_assoc, after_append]
          exact Nat.le_add_left _ _
    · exact absurd closes never

end Histories

section Starts

variable {ready : System} {index : Nat} {call : StartCall} {installed : Except String Unit}
  {now : Int} {run : Run}

/-- A start that gives a run gives it a task with the steps and options of the start. -/
theorem task?_concluded
    (concluded : (ready.engine.conclude call installed now).1 = .ok (number, run)) :
    ∃ task, (ready.engine.conclude call installed now).2.task? number = some task ∧
      task.run = run ∧ task.steps = call.steps ∧ task.options = call.options ∧
      task.active.context.runId = run.id ∧ task.stage = .launching := by
  unfold Engine.conclude at concluded ⊢
  split at concluded
  · cases concluded
  · split at concluded
    · cases concluded
    · obtain ⟨rfl, rfl⟩ := Prod.mk.inj (Except.ok.inj concluded)
      exact ⟨_, List.getElem?_concat_length, rfl, rfl, rfl, rfl, rfl⟩

/-- A run is in time when it starts. -/
theorem live_concluded (orderly : ready.Orderly) (waits : ready.waiting[index]? = some call)
    (concluded : (ready.engine.conclude call installed now).1 = .ok (number, run)) :
    ∃ task, Live sessions pace number
        ⟨ready.step sessions ⟨now, .conclude index installed⟩, 0, 0⟩ task
        (pace.launch + RunTask.ticksFor call.options pace call.steps) ∧
      task.run = run ∧ task.active.context.runId = task.run.id := by
  obtain ⟨task, found, same, steps, options, named, stage⟩ := task?_concluded concluded
  have present : (ready.step sessions ⟨now, .conclude index installed⟩).engine.task? number =
      some task := by
    simp only [System.step, waits]
    exact found
  refine ⟨task, ?_, same, same ▸ named⟩
  exact
    { orderly := orderly.step sessions ⟨now, .conclude index installed⟩
      found := present
      busy := by rw [RunTask.isOver, stage]
      within := by simp only [RunTask.ticksLeft, stage, steps, options, Nat.zero_add]; exact le_rfl
      patient := fun _ _ => Nat.zero_le _
      unlaunched := fun _ _ => stage }

end Starts

end Timed

/--
A run ends and frees its slot if and only if its browser fails to launch or is closed in some time.
Then it ends by the ticks of the launch, of the limits of all actions and screenshots, and of the
close, whatever the browser does, whatever others do, and whatever the disk refuses; else it keeps
the slot for ever.
-/
theorem ends_or_hangs {store : Store} (sound : store.tables.Sound) (artifacts : Artifacts)
    (policy : RunOptions) (sessions : Nat → Session) (pace : Pace) (before : List Incident)
    {ready : System} {index number : Nat} {call : StartCall} {installed : Except String Unit}
    {now : Int} {run : Run}
    (reached : ready = (System.opened store artifacts policy).through sessions before)
    (waits : ready.waiting[index]? = some call)
    (concluded : (ready.engine.conclude call installed now).1 = .ok (number, run)) :
    let begun : Timed := ⟨ready.step sessions ⟨now, .conclude index installed⟩, 0, 0⟩
    (Closes (sessions number) pace → begun.Ends sessions pace number run
        (pace.launch + (call.steps.map (RunTask.stepTicks call.options)).sum +
          pace.close.getD 0)) ∧
      (¬Closes (sessions number) pace → begun.Hangs sessions pace number run) := by
  intro begun
  have orderly : ready.Orderly :=
    reached ▸ (System.Orderly.opened sound artifacts policy).through sessions before
  obtain ⟨task, live, same, named⟩ := Timed.live_concluded orderly waits concluded
  rw [RunTask.ticksFor, ← Nat.add_assoc] at live
  rw [← same]
  exact ⟨live.ends, live.hangs named⟩

section Sample

/-- A browser that answers no action and gives no screenshot. -/
def silentSession : Session := ⟨.ok (), fun _ => none, fun _ => none⟩

/-- A system in which a start of a test case with one step waits. -/
def sampleReady : System :=
  (System.opened {} default System.sampleOptions).through (fun _ => silentSession)
    (System.sampleClaim.map .turn)

/-- The start of the sample gives a run of one step. -/
theorem concluded_sampleReady :
    ∃ call run, sampleReady.waiting[0]? = some call ∧
      (sampleReady.engine.conclude call (.ok ()) 2).1 = .ok (0, run) ∧
      (call.steps.map (RunTask.stepTicks call.options)).sum = 10000 := by
  have answers : (sampleReady.waiting[0]?).any (fun call =>
      (match (sampleReady.engine.conclude call (.ok ()) 2).1 with
        | .ok (number, _) => number = 0
        | .error _ => false) &&
      (call.steps.map (RunTask.stepTicks call.options)).sum = 10000) = true := by
    decide +kernel
  rw [Option.any_eq_true] at answers
  obtain ⟨call, waits, facts⟩ := answers
  obtain ⟨answer, ticks⟩ := Bool.and_eq_true_iff.1 facts
  split at answer
  · next number run concluded =>
    obtain rfl : number = 0 := of_decide_eq_true answer
    exact ⟨call, run, waits, concluded, of_decide_eq_true ticks⟩
  · cases answer

/-- The run of the sample ends although its browser answers nothing but the launch and the close. -/
theorem ends_sampleReady :
    ∃ call run, sampleReady.waiting[0]? = some call ∧
      (sampleReady.engine.conclude call (.ok ()) 2).1 = .ok (0, run) ∧
      Closes silentSession ⟨7, some 3⟩ ∧
      Timed.Ends (fun _ => silentSession) ⟨7, some 3⟩ 0
        ⟨sampleReady.step (fun _ => silentSession) ⟨2, .conclude 0 (.ok ())⟩, 0, 0⟩ run 10010 := by
  obtain ⟨call, run, waits, concluded, ticks⟩ := concluded_sampleReady
  have closes : Closes silentSession ⟨7, some 3⟩ := .inr ⟨3, rfl⟩
  have sound : ({} : Store).tables.Sound := .empty
  have whole := ends_or_hangs sound default System.sampleOptions (fun _ => silentSession)
    ⟨7, some 3⟩ (System.sampleClaim.map .turn) rfl waits concluded
  have ends := whole.1 closes
  rw [ticks] at ends
  exact ⟨call, run, waits, concluded, closes, ends⟩

/-- No bound holds for a browser whose close never returns. -/
theorem not_ends_sampleReady :
    ¬∃ bound, ∀ call run, sampleReady.waiting[0]? = some call →
      (sampleReady.engine.conclude call (.ok ()) 2).1 = .ok (0, run) →
      ∀ history,
        Timed.Timely (fun _ => silentSession) ⟨7, none⟩ 0
          ⟨sampleReady.step (fun _ => silentSession) ⟨2, .conclude 0 (.ok ())⟩, 0, 0⟩ history →
        bound < (Timed.after (fun _ => silentSession) 0
          ⟨sampleReady.step (fun _ => silentSession) ⟨2, .conclude 0 (.ok ())⟩, 0, 0⟩
          history).time →
        ∃ soon rest, history = soon ++ rest ∧
          (Timed.after (fun _ => silentSession) 0
            ⟨sampleReady.step (fun _ => silentSession) ⟨2, .conclude 0 (.ok ())⟩, 0, 0⟩
            soon).system.Freed 0 run := by
  rintro ⟨bound, promise⟩
  obtain ⟨call, run, waits, concluded, -⟩ := concluded_sampleReady
  have never : ¬Closes silentSession ⟨7, none⟩ := by
    rintro (⟨error, fails⟩ | ⟨ticks, closes⟩)
    · cases fails
    · cases closes
  have orderly : sampleReady.Orderly := (System.Orderly.opened .empty _ _).through _ _
  obtain ⟨task, live, rfl, named⟩ : ∃ task, Timed.Live (fun _ => silentSession) ⟨7, none⟩ 0
      ⟨sampleReady.step (fun _ => silentSession) ⟨2, .conclude 0 (.ok ())⟩, 0, 0⟩ task _ ∧
      task.run = run ∧ task.active.context.runId = task.run.id :=
    Timed.live_concluded orderly waits concluded
  have hangs := live.hangs named never
  obtain ⟨history, timely, late⟩ := hangs.lasts [] trivial (bound + 1)
  obtain ⟨soon, rest, split, freed⟩ := promise call task.run waits concluded _ timely late
  rw [split] at timely
  obtain ⟨last, present, -, busy⟩ := (hangs.blocked soon (Timed.timely_append.1 timely).1).busy
  obtain ⟨again, end', found, -, ended, -⟩ := freed.ended
  obtain rfl := Option.some.inj (present.symm.trans found)
  simp [RunTask.isOver, ended] at busy

end Sample

end StepRunner
