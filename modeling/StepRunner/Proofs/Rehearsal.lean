import StepRunner.Proofs.Engine.System
import StepRunner.Rehearsal.Machine

/-!
This file shows that a rehearsed machine takes its tasks through turns of the system.
-/

namespace StepRunner

/-- A browser that answers each call at once, or never. -/
def Session.ofAnswers (launch : Except SessionError Unit)
    (act : Option (Except SessionError Unit)) (picture : Option (Except SessionError Bytes)) :
    Session :=
  ⟨launch, fun _ => act.map (⟨0, ·⟩), fun _ => picture.map (⟨0, ·⟩)⟩

theorem Reply.within?_of_answer {α : Type} (limit : Option Duration)
    (answer : Option (Except SessionError α)) :
    Reply.within? limit (answer.map (⟨0, ·⟩)) = answer := by
  cases answer <;> simp [Reply.within?]

namespace Rehearsal.Machine

variable {machine later : Machine} {waits : Bool} {number : Nat} {task : RunTask}

/-- The turn in which a browser is launched. -/
theorem launch_proceeds (found : machine.engine.task? number = some task)
    (stage : task.stage = .launching) {browser : Browser}
    (moved : machine.launch waits number browser = some later) :
    ∃ session, later.engine = machine.engine.proceed session number machine.now := by
  have proceeds (outcome : Except SessionError Talk) :
      ∃ session, (machine.launched number outcome).engine =
        machine.engine.proceed session number machine.now := by
    refine ⟨.ofAnswers (outcome.map fun _ => ()) none none, ?_⟩
    simp only [Engine.proceed, found, stage]
    rfl
  unfold launch at moved
  split at moved
  · cases moved
    exact proceeds _
  · split at moved
    · cases moved
      exact proceeds _
    · split at moved
      · cases moved
        exact proceeds _
      · cases moved

/-- The turn in which an action ends. -/
theorem act_proceeds (found : machine.engine.task? number = some task) {result : StepResult}
    {action : Action} {rest : List Step} (stage : task.stage = .acting result action rest)
    (moved : machine.act waits number action = some later) :
    ∃ session, later.engine = machine.engine.proceed session number machine.now := by
  have proceeds (answer : Option (Except SessionError Unit)) :
      ∃ session, machine.engine.acted number (.ofOutcome? answer) =
        machine.engine.proceed session number machine.now := by
    refine ⟨.ofAnswers (.ok ()) answer none, ?_⟩
    simp only [Engine.proceed, found, stage, Session.ofAnswers, Reply.within?_of_answer]
  cases speaks : machine.talk with
  | none =>
    simp only [act, speaks] at moved
    cases moved
    exact proceeds (some (.error .closed))
  | some talk =>
    cases answers : (talk.execute action).1 with
    | none =>
      simp only [act, speaks, answers] at moved
      split at moved
      · cases moved
        exact proceeds none
      · cases moved
    | some answer =>
      simp only [act, speaks, answers] at moved
      cases moved
      cases answer with
      | ok _ => exact proceeds (some (.ok ()))
      | error error => exact proceeds (some (.error error))

/-- The turn in which a screenshot is taken. -/
theorem photograph_proceeds (found : machine.engine.task? number = some task)
    {result : StepResult} {failure : Option String} {rest : List Step}
    (stage : task.stage = .photographing result failure rest)
    (moved : machine.photograph waits number = some later) :
    ∃ session, later.engine = machine.engine.proceed session number machine.now := by
  have proceeds (answer : Option (Except SessionError Bytes)) :
      ∃ session, machine.engine.photographed number (answer.bind Except.toOption) machine.now =
        machine.engine.proceed session number machine.now := by
    refine ⟨.ofAnswers (.ok ()) none answer, ?_⟩
    simp only [Engine.proceed, found, stage, Session.ofAnswers, Reply.within?_of_answer]
  cases speaks : machine.talk with
  | none =>
    simp only [photograph, speaks] at moved
    cases moved
    exact proceeds none
  | some talk =>
    cases answers : talk.screenshot.1 with
    | none =>
      simp only [photograph, speaks, answers] at moved
      split at moved
      · cases moved
        exact proceeds none
      · cases moved
    | some answer =>
      simp only [photograph, speaks, answers] at moved
      cases moved
      exact proceeds (some answer)

/-- A machine advances a task as the system does, with a browser that answers like its bridge. -/
theorem advance_proceeds (moved : machine.advance waits number = some later) :
    ∃ session, later.engine = machine.engine.proceed session number machine.now := by
  unfold advance at moved
  split at moved
  · cases moved
  · next task found =>
    split at moved
    · next stage => exact launch_proceeds found stage moved
    · next stage =>
      cases moved
      exact ⟨.prompt, by simp only [Engine.proceed, found, stage]; rfl⟩
    · next stage => exact act_proceeds found stage moved
    · next stage => exact photograph_proceeds found stage moved
    · next stage =>
      cases moved
      exact ⟨.prompt, by simp only [Engine.proceed, found, stage]; rfl⟩
    · next stage =>
      cases moved
      exact ⟨.prompt, by simp only [Engine.proceed, found, stage]; rfl⟩
    · cases moved
    · cases moved

end Rehearsal.Machine

end StepRunner
