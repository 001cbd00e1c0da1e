import StepRunner.Error

/-!
This file keeps the one slot for a run in progress.
A run first reserves the slot and then becomes active in it, and giving up either guard frees
the slot.
-/

namespace StepRunner

/-- What the slot holds. -/
inductive Slot where
  | empty
  | reserved (ticket : Nat) (projectId testCaseId : String)
  | active (ticket : Nat) (context : ActiveContext)
  deriving DecidableEq, Repr, Inhabited

/-- The slot, the next ticket, and the tickets of the runs that somebody asked to stop. -/
structure Registry where
  slot : Slot := .empty
  nextTicket : Nat := 1
  cancelled : List Nat := []
  deriving DecidableEq, Repr, Inhabited

/-- The guard of a run that is about to start. -/
structure Reservation where
  ticket : Nat
  projectId : String
  testCaseId : String
  deriving DecidableEq, Repr, Inhabited

/-- The guard of a run in progress. -/
structure ActiveRun where
  ticket : Nat
  context : ActiveContext
  deriving DecidableEq, Repr, Inhabited

namespace Registry

/-- Claims the slot, when it is empty. -/
def reserve (registry : Registry) (projectId testCaseId : String) :
    Except EngineError (Reservation × Registry) :=
  match registry.slot with
  | .reserved _ _ _ => .error (.alreadyRunning none)
  | .active _ context => .error (.alreadyRunning (some context.runId))
  | .empty =>
    let ticket := registry.nextTicket
    .ok (⟨ticket, projectId, testCaseId⟩,
      { registry with
        slot := .reserved ticket projectId testCaseId
        nextTicket := ticket + 1 })

/-- Turns a reservation into a run in progress. -/
def activate (registry : Registry) (reservation : Reservation) (runId : String) :
    ActiveRun × Registry :=
  let context : ActiveContext := ⟨runId, reservation.projectId, reservation.testCaseId⟩
  (⟨reservation.ticket, context⟩,
    { registry with slot := .active reservation.ticket context })

/-- Gives up a reservation. -/
def release (registry : Registry) (reservation : Reservation) : Registry :=
  match registry.slot with
  | .reserved ticket _ _ =>
    if ticket = reservation.ticket then { registry with slot := .empty } else registry
  | _ => registry

/-- Ends a run in progress. -/
def finish (registry : Registry) (active : ActiveRun) : Registry :=
  match registry.slot with
  | .active _ context =>
    if context.runId = active.context.runId then { registry with slot := .empty } else registry
  | _ => registry

/-- The run in progress. -/
def context? (registry : Registry) : Option ActiveContext :=
  match registry.slot with
  | .active _ context => some context
  | _ => none

/-- Asks a run to stop; tells whether it is the run in progress. -/
def requestCancel (registry : Registry) (runId : String) : Bool × Registry :=
  match registry.slot with
  | .active ticket context =>
    if context.runId = runId then
      (true, { registry with cancelled := ticket :: registry.cancelled })
    else (false, registry)
  | _ => (false, registry)

/-- Tells a run in progress whether somebody asked it to stop. -/
def cancelRequested (registry : Registry) (active : ActiveRun) : Bool :=
  registry.cancelled.contains active.ticket

/-- The slot belongs to a project. -/
def holdsProject (registry : Registry) (projectId : String) : Bool :=
  match registry.slot with
  | .empty => false
  | .reserved _ project _ => project = projectId
  | .active _ context => context.projectId = projectId

/-- The slot belongs to a test case. -/
def holdsTestCase (registry : Registry) (testCaseId : String) : Bool :=
  match registry.slot with
  | .empty => false
  | .reserved _ _ testCase => testCase = testCaseId
  | .active _ context => context.testCaseId = testCaseId

/-- Allows the deletion of a project while no run of it is in progress. -/
def checkProject (registry : Registry) (projectId : String) : Except EngineError Unit :=
  if registry.holdsProject projectId then .error (.runInProgress .project projectId) else .ok ()

/-- Allows the deletion of a test case while no run of it is in progress. -/
def checkTestCase (registry : Registry) (testCaseId : String) : Except EngineError Unit :=
  if registry.holdsTestCase testCaseId then .error (.runInProgress .testCase testCaseId)
  else .ok ()

end Registry

end StepRunner
