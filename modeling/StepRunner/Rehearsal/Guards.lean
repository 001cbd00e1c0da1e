import StepRunner.Registry

/-!
This file rehearses the registry: callers keep the guards that they get under names of their own.
-/

namespace StepRunner.Rehearsal

/-- A guard that a caller keeps. -/
inductive Guard where
  | reserved (reservation : Reservation)
  | active (run : ActiveRun)
  deriving DecidableEq, Repr

/-- A registry with the guards that are alive. -/
structure Guarded where
  registry : Registry := {}
  guards : List (String × Guard) := []
  deriving DecidableEq, Repr

namespace Guarded

/-- The guard under a name. -/
def guard? (guarded : Guarded) (name : String) : Option Guard :=
  (guarded.guards.find? fun entry => entry.1 = name).map Prod.snd

/-- The guards under other names. -/
def without (guarded : Guarded) (name : String) : List (String × Guard) :=
  guarded.guards.filter fun entry => entry.1 ≠ name

/-- Claims the slot and keeps the reservation under a name. -/
def reserve (guarded : Guarded) (name projectId testCaseId : String) :
    Except EngineError Unit × Guarded :=
  match guarded.registry.reserve projectId testCaseId with
  | .error error => (.error error, guarded)
  | .ok (reservation, registry) =>
    (.ok (), ⟨registry, (name, .reserved reservation) :: guarded.without name⟩)

/-- Turns the reservation under a name into a run in progress; tells whether there is one. -/
def activate (guarded : Guarded) (name runId : String) : Bool × Guarded :=
  match guarded.guard? name with
  | some (.reserved reservation) =>
    let (run, registry) := guarded.registry.activate reservation runId
    (true, ⟨registry, (name, .active run) :: guarded.without name⟩)
  | _ => (false, guarded)

/-- Drops the guard under a name; tells whether there is one. -/
def drop (guarded : Guarded) (name : String) : Bool × Guarded :=
  let guards := guarded.without name
  match guarded.guard? name with
  | none => (false, guarded)
  | some (.reserved reservation) => (true, ⟨guarded.registry.release reservation, guards⟩)
  | some (.active run) => (true, ⟨guarded.registry.finish run, guards⟩)

/-- Asks a run to stop. -/
def cancel (guarded : Guarded) (runId : String) : Bool × Guarded :=
  let (accepted, registry) := guarded.registry.requestCancel runId
  (accepted, { guarded with registry })

/-- Tells whether the run under a name was asked to stop, if there is one. -/
def cancelled? (guarded : Guarded) (name : String) : Option Bool :=
  match guarded.guard? name with
  | some (.active run) => some (guarded.registry.cancelRequested run)
  | _ => none

end Guarded

end StepRunner.Rehearsal
