/-!
This file defines how an observer receives events from a bus.
A bus is the list of all events that were sent on it, and it holds only the newest of them.
An observer that falls too far behind loses the events that the bus holds no more.
-/

namespace StepRunner

/-- How many events a bus holds. -/
def eventCapacity : Nat := 256

/-- What an observer gets when it asks a bus for the next event. -/
inductive Reception (Event : Type) where
  /-- No event was sent since. -/
  | nothing
  /-- The bus holds some events no more. -/
  | lost (count : Nat)
  | event (event : Event)
  deriving DecidableEq, Repr

namespace Bus

variable {Event : Type}

/-- The position of the oldest event that a bus holds. -/
def oldest (sent : List Event) : Nat := sent.length - eventCapacity

/-- Gives an observer at a position the next event, and its new position. -/
def receive (sent : List Event) (position : Nat) : Reception Event × Nat :=
  if position < oldest sent then (.lost (oldest sent - position), oldest sent)
  else
    match sent[position]? with
    | some event => (.event event, position + 1)
    | none => (.nothing, position)

/-- Everything that an observer at a position gets until it is up to date. -/
def receiveAll (sent : List Event) (position : Nat) : List (Reception Event) :=
  let lost := oldest sent - position
  (if lost = 0 then [] else [.lost lost]) ++
    (sent.drop (max position (oldest sent))).map .event

theorem receive_of_lt {sent : List Event} {position : Nat} (behind : position < oldest sent) :
    receive sent position = (.lost (oldest sent - position), oldest sent) := by
  simp [receive, behind]

theorem receive_of_le {sent : List Event} {position : Nat} (upToDate : sent.length ≤ position) :
    receive sent position = (.nothing, position) := by
  have held : ¬ position < oldest sent := by
    simp only [oldest, eventCapacity]
    omega
  simp [receive, held, upToDate]

end Bus

end StepRunner
