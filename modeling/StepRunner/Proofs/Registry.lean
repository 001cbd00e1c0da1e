import Mathlib.Logic.Basic
import StepRunner.Registry

/-!
This file computes what the registry does in each state of its slot.
-/

namespace StepRunner

/-- The ticket of the holder of the slot. -/
def Slot.ticket? : Slot → Option Nat
  | .empty => none
  | .reserved ticket _ _ => some ticket
  | .active ticket _ => some ticket

namespace Registry

/-- The registry with an empty slot. -/
def freed (registry : Registry) : Registry := { registry with slot := .empty }

/-- The tickets of the slot and of the runs to stop are no future tickets. -/
structure Ordered (registry : Registry) : Prop where
  slot : ∀ ticket ∈ registry.slot.ticket?, ticket < registry.nextTicket
  cancelled : ∀ ticket ∈ registry.cancelled, ticket < registry.nextTicket

variable {registry after : Registry}

/-- A free slot goes to the first who asks, with a new ticket. -/
theorem reserve_eq_ok_iff {projectId testCaseId : String} {reservation : Reservation} :
    registry.reserve projectId testCaseId = .ok (reservation, after) ↔
      registry.slot = .empty ∧ reservation = ⟨registry.nextTicket, projectId, testCaseId⟩ ∧
      after = ⟨.reserved registry.nextTicket projectId testCaseId, registry.nextTicket + 1,
        registry.cancelled⟩ := by
  unfold reserve
  split
  · next held => simp [held]
  · next held => simp [held]
  · next free => simp [free, eq_comm]

theorem release_of_held {reservation : Reservation}
    (held : registry.slot = .reserved reservation.ticket reservation.projectId
      reservation.testCaseId) :
    registry.release reservation = registry.freed := by
  simp [release, held, freed]

theorem finish_of_held {active : ActiveRun}
    (held : registry.slot = .active active.ticket active.context) :
    registry.finish active = registry.freed := by
  simp [finish, held, freed]

theorem requestCancel_of_held {ticket : Nat} {context : ActiveContext} (runId : String)
    (held : registry.slot = .active ticket context) :
    registry.requestCancel runId =
      if context.runId = runId then
        (true, { registry with cancelled := ticket :: registry.cancelled })
      else (false, registry) := by
  simp only [requestCancel, held]

/-- Nobody is asked to stop while no run has the slot. -/
theorem requestCancel_of_inactive (runId : String)
    (inactive : ∀ ticket context, registry.slot ≠ .active ticket context) :
    registry.requestCancel runId = (false, registry) := by
  unfold requestCancel
  split
  · next ticket context held => exact absurd held (inactive ticket context)
  · rfl

/-- A request to stop leaves the slot as it is. -/
theorem requestCancel_slot (registry : Registry) (runId : String) :
    (registry.requestCancel runId).2.slot = registry.slot := by
  unfold requestCancel
  split
  · split <;> rfl
  · rfl

/-- A request to stop that is refused changes nothing. -/
theorem requestCancel_of_refused {runId : String}
    (refused : (registry.requestCancel runId).1 = false) :
    (registry.requestCancel runId).2 = registry := by
  unfold requestCancel at refused ⊢
  cases slot : registry.slot with
  | empty => rfl
  | reserved ticket projectId testCaseId => rfl
  | active ticket context =>
    simp only [slot] at refused ⊢
    split at refused
    · cases refused
    · next other => rw [if_neg other]

theorem checkProject_eq_ok_iff {id : String} :
    registry.checkProject id = .ok () ↔ registry.holdsProject id = false := by
  unfold checkProject
  split
  · next held => simp [held]
  · next free => simpa using free

theorem checkTestCase_eq_ok_iff {id : String} :
    registry.checkTestCase id = .ok () ↔ registry.holdsTestCase id = false := by
  unfold checkTestCase
  split
  · next held => simp [held]
  · next free => simpa using free

namespace Ordered

theorem freed (ordered : registry.Ordered) : registry.freed.Ordered where
  slot := by simp [Registry.freed, Slot.ticket?]
  cancelled := ordered.cancelled

theorem reserved (ordered : registry.Ordered) (projectId testCaseId : String) :
    Ordered ⟨.reserved registry.nextTicket projectId testCaseId, registry.nextTicket + 1,
      registry.cancelled⟩ where
  slot := by simp [Slot.ticket?]
  cancelled := fun ticket among => Nat.lt_succ_of_lt (ordered.cancelled ticket among)

theorem activated (ordered : registry.Ordered) {ticket : Nat}
    (holder : registry.slot.ticket? = some ticket) (context : ActiveContext) :
    Ordered { registry with slot := .active ticket context } where
  slot := fun _ among => ordered.slot _ (holder ▸ among)
  cancelled := ordered.cancelled

theorem stopped (ordered : registry.Ordered) {ticket : Nat}
    (holder : registry.slot.ticket? = some ticket) :
    Ordered { registry with cancelled := ticket :: registry.cancelled } where
  slot := ordered.slot
  cancelled := by
    intro other among
    rcases List.mem_cons.1 among with rfl | old
    · exact ordered.slot _ holder
    · exact ordered.cancelled other old

end Ordered

end Registry

end StepRunner
