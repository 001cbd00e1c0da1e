import Mathlib.Data.Nat.Find
import StepRunner.Proofs.Engine.System

/-!
This file defines what a run comes to, without its tasks and stages.
The course of a run is given by its steps and options, the answers of its browser, and how far the
run had come whenever somebody asked it to stop.
-/

namespace StepRunner

/-- How far a run had come when it was asked to stop. -/
structure Stop where
  /-- The number of steps that had begun. -/
  begun : Nat
  /-- The number of steps whose outcome was decided. -/
  decided : Nat
  deriving DecidableEq, Repr

/-- What becomes of a step. -/
structure StepOutcome where
  stepId : String
  order : Nat
  status : StepStatus
  errorText : Option String
  deriving DecidableEq, Repr

/-- The outcome that a step result records. -/
def StepResult.outcome (result : StepResult) : StepOutcome :=
  ⟨result.stepId, result.order, result.status, result.errorText⟩

/-- What determines the outcome of a run. -/
structure Course where
  steps : List Step
  options : RunOptions
  session : Session
  stops : List Stop

/-- A step with a status ends a run: it is cancelled, or it fails and must not. -/
def RunOptions.isEndedBy (options : RunOptions) : StepStatus → Bool
  | .cancelled => true
  | .failed => !options.continueOnFailure
  | _ => false

namespace Course

/-- The run was asked to stop before the next step began, after a number of steps. -/
def stoppedBefore (course : Course) (count : Nat) : Bool :=
  course.stops.any fun stop => stop.begun ≤ count

/-- The run was asked to stop before the outcome of a step was decided. -/
def stoppedWithin (course : Course) (index : Nat) : Bool :=
  course.stops.any fun stop => stop.decided ≤ index

/-- Why a step fails that nobody stops, if it does. -/
def failure? (course : Course) (step : Step) : Option String :=
  match step.action? with
  | none => some StepReading.blankMessage
  | some action =>
    let budget := course.options.stepTimeout.add action.requestedWait
    let late := some ("Step timed out after " ++ budget.secondsText ++ "s")
    match course.session.act step.order with
    | none => late
    | some reply =>
      if reply.ticks ≤ budget.timerTicks then
        match reply.outcome with
        | .ok _ => none
        | .error error => some error.message
      else late

/-- The status of a step: cancelled, or else passed if and only if it does not fail. -/
def status (course : Course) (index : Nat) (step : Step) : StepStatus :=
  if course.stoppedWithin index then .cancelled
  else if (course.failure? step).isNone then .passed
  else .failed

/-- The outcome of a step. -/
def outcome (course : Course) (index : Nat) (step : Step) : StepOutcome where
  stepId := step.id
  order := index + 1
  status := course.status index step
  errorText := if course.status index step = .failed then course.failure? step else none

/-- The outcomes of the first steps. -/
def outcomes (course : Course) (count : Nat) : List StepOutcome :=
  (course.steps.take count).mapIdx course.outcome

/-- The last of a number of steps ends the run. -/
def endedBy (course : Course) : Nat → Bool
  | 0 => false
  | index + 1 =>
    course.steps[index]?.any fun step => course.options.isEndedBy (course.status index step)

/-- No step follows a number of steps. -/
def halts (course : Course) (count : Nat) : Bool :=
  count = course.steps.length || course.stoppedBefore count || course.endedBy count

theorem exists_halts (course : Course) : ∃ count, course.halts count = true :=
  ⟨course.steps.length, by simp [halts]⟩

/-- The number of steps that the run carries out, once its browser is launched. -/
def reach (course : Course) : Nat := Nat.find course.exists_halts

/-- The failure of the browser to launch, if it fails. -/
def launchFailure? (course : Course) : Option String :=
  match course.session.launch with
  | .ok _ => none
  | .error error => some error.message

/-- The outcomes of all steps that the run carries out. -/
def results (course : Course) : List StepOutcome :=
  if course.launchFailure?.isSome then [] else course.outcomes course.reach

/-- The status of the run at its end. -/
def runStatus (course : Course) : RunStatus :=
  if !course.stops.isEmpty then .cancelled
  else if course.launchFailure?.isSome ||
      course.results.any (fun outcome => outcome.status = .failed) then .failed
  else .passed

/-- The course with one more request to stop. -/
def withStop (course : Course) (stop : Stop) : Course :=
  { course with stops := course.stops ++ [stop] }

variable {course : Course} {step : Step}

/-- A caller that waits for an action learns why the step fails. -/
theorem failure?_of_action (course : Course) {action : Action} (read : step.action? = some action) :
    (ActEnding.ofOutcome? (Reply.within?
      (some (course.options.stepTimeout.add action.requestedWait))
      (course.session.act step.order))).failure?
        (course.options.stepTimeout.add action.requestedWait) = course.failure? step := by
  simp only [failure?, read]
  cases course.session.act step.order with
  | none => rfl
  | some reply =>
    by_cases early : reply.ticks ≤
        (course.options.stepTimeout.add action.requestedWait).timerTicks
    · cases result : reply.outcome <;>
        simp [Reply.within?, early, result, ActEnding.ofOutcome?, ActEnding.failure?]
    · simp [Reply.within?, early, ActEnding.ofOutcome?, ActEnding.failure?]

/-- One more step adds its outcome. -/
theorem outcomes_succ {count : Nat} (found : course.steps[count]? = some step) :
    course.outcomes (count + 1) = course.outcomes count ++ [course.outcome count step] := by
  have length : (course.steps.take count).length = count := by
    have inside := (List.getElem?_eq_some_iff.1 found).1
    simp only [List.length_take]
    omega
  simp [outcomes, List.take_add_one, found, List.mapIdx_append, length]

/-- The run carries out so many steps as bring it to a halt first. -/
theorem reach_eq {count : Nat} (halts : course.halts count = true)
    (live : ∀ earlier < count, course.halts earlier = false) : course.reach = count :=
  (Nat.find_eq_iff course.exists_halts).2
    ⟨halts, fun earlier before => by simp [live earlier before]⟩

section Stopping

variable {stop : Stop} {count index : Nat}

/-- A request to stop comes too late for the outcome of a step that is decided. -/
theorem status_withStop (late : index < stop.decided) (step : Step) :
    (course.withStop stop).status index step = course.status index step := by
  have same : (course.withStop stop).stoppedWithin index = course.stoppedWithin index := by
    simp [stoppedWithin, withStop, Nat.not_le.2 late]
  simp only [status, same]
  rfl

theorem outcome_withStop (late : index < stop.decided) (step : Step) :
    (course.withStop stop).outcome index step = course.outcome index step := by
  simp only [outcome, status_withStop late]
  rfl

theorem outcomes_withStop (stop : Stop) (late : count ≤ stop.decided) :
    (course.withStop stop).outcomes count = course.outcomes count := by
  apply List.ext_getElem?
  intro index
  simp only [outcomes, List.getElem?_mapIdx]
  by_cases early : index < count
  · rw [show (course.withStop stop).outcome index = course.outcome index from
      funext fun step => outcome_withStop (by omega) step]
    rfl
  · have beyond : (course.steps.take count)[index]? = none := by
      rw [List.getElem?_eq_none_iff, List.length_take]
      omega
    rw [show ((course.withStop stop).steps.take count)[index]? = none from beyond, beyond]
    rfl

theorem endedBy_withStop (stop : Stop) (late : count ≤ stop.decided) :
    (course.withStop stop).endedBy count = course.endedBy count := by
  cases count with
  | zero => rfl
  | succ index =>
    have same : (course.withStop stop).status index = course.status index :=
      funext fun step => status_withStop (by omega) step
    simp only [endedBy, same]
    rfl

/-- A request to stop comes too late for a step that has begun. -/
theorem halts_withStop (begun : count < stop.begun) (decided : count ≤ stop.decided) :
    (course.withStop stop).halts count = course.halts count := by
  have same : (course.withStop stop).stoppedBefore count = course.stoppedBefore count := by
    simp [stoppedBefore, withStop, Nat.not_le.2 begun]
  simp only [halts, same, endedBy_withStop stop decided]
  rfl

end Stopping

end Course

/-- How far a run has come, as the store shows it. -/
def Engine.progress (engine : Engine) (runId : String) : Stop where
  begun := (engine.store.tables.listResults runId).length
  decided := (engine.store.tables.listResults runId).countP fun result => result.status ≠ .pending

namespace System

/-- The request to stop a run that is accepted in a turn, if there is one. -/
def stopsIn (system : System) (runId : String) (turn : Turn) : List Stop :=
  match turn.move with
  | .cancel id =>
    if id = runId && (system.engine.cancel id).1 then [system.engine.progress runId] else []
  | _ => []

/-- The requests to stop a run that are accepted in a history. -/
def stops (sessions : Nat → Session) (runId : String) (system : System) : List Turn → List Stop
  | [] => []
  | turn :: later =>
    system.stopsIn runId turn ++ stops sessions runId (system.step sessions turn) later

end System

end StepRunner
