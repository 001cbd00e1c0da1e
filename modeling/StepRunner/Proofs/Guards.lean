import StepRunner.Engine.Catalog
import StepRunner.Proofs.Registry
import StepRunner.Rehearsal.Guards

/-!
This file shows that the slot serves the one guard that is alive, whatever callers ask for and in
whatever order.
-/

namespace StepRunner

namespace Rehearsal.Guard

/-- The slot as a guard keeps it while it is alive. -/
def slot : Guard → Slot
  | reserved reservation =>
    .reserved reservation.ticket reservation.projectId reservation.testCaseId
  | active run => .active run.ticket run.context

/-- The project of a guard. -/
def projectId : Guard → String
  | reserved reservation => reservation.projectId
  | active run => run.context.projectId

/-- The test case of a guard. -/
def testCaseId : Guard → String
  | reserved reservation => reservation.testCaseId
  | active run => run.context.testCaseId

theorem slot_ne_empty (guard : Guard) : guard.slot ≠ .empty := by
  cases guard <;> simp [slot]

/-- The slot tells which guard keeps it. -/
theorem slot_injective : Function.Injective slot := by
  rintro (⟨ticket, projectId, testCaseId⟩ | ⟨ticket, context⟩)
    (⟨otherTicket, otherProjectId, otherTestCaseId⟩ | ⟨otherTicket, otherContext⟩) same <;>
  simp_all [slot]

end Rehearsal.Guard

namespace Registry

open Rehearsal (Guard)

/-- The slot is kept by the only guard that is alive, and it is free without one. -/
inductive Serves (registry : Registry) : List Guard → Prop where
  | nobody (free : registry.slot = .empty) : Serves registry []
  | one {guard : Guard} (held : registry.slot = guard.slot) : Serves registry [guard]

/-- Gives up a guard. -/
def dropped (registry : Registry) : Guard → Registry
  | .reserved reservation => registry.release reservation
  | .active run => registry.finish run

variable {registry after : Registry} {guards others : List Guard} {guard : Guard}

theorem dropped_of_held (held : registry.slot = guard.slot) :
    registry.dropped guard = registry.freed := by
  cases guard with
  | reserved reservation => exact release_of_held held
  | active run => exact finish_of_held held

/-- What a call does to the registry and to the guards that are alive. -/
inductive Shift (registry : Registry) (guards : List Guard) : Registry → List Guard → Prop where
  | aside {after : Registry} {others : List Guard} (kept : after.slot = registry.slot)
      (same : others.Perm guards) : Shift registry guards after others
  | reserved {after : Registry} {others : List Guard} {projectId testCaseId : String}
      {reservation : Reservation}
      (claimed : registry.reserve projectId testCaseId = .ok (reservation, after))
      (more : others.Perm (.reserved reservation :: guards)) :
      Shift registry guards after others
  | activated {others rest : List Guard} {reservation : Reservation} (runId : String)
      (mine : guards.Perm (.reserved reservation :: rest))
      (more : others.Perm (.active (registry.activate reservation runId).1 :: rest)) :
      Shift registry guards (registry.activate reservation runId).2 others
  | dropped {others : List Guard} {guard : Guard} (mine : guards.Perm (guard :: others)) :
      Shift registry guards (registry.dropped guard) others

theorem Shift.released {reservation : Reservation}
    (mine : guards.Perm (.reserved reservation :: others)) :
    registry.Shift guards (registry.release reservation) others :=
  .dropped mine

theorem Shift.finished {run : ActiveRun} (mine : guards.Perm (.active run :: others)) :
    registry.Shift guards (registry.finish run) others :=
  .dropped mine

namespace Serves

theorem free_iff (serves : registry.Serves guards) : registry.slot = .empty ↔ guards = [] := by
  cases serves with
  | nobody free => simp [free]
  | one held => simp [held, Guard.slot_ne_empty]

theorem held_iff (serves : registry.Serves guards) (guard : Guard) :
    registry.slot = guard.slot ↔ guard ∈ guards := by
  cases serves with
  | nobody free => simp [free, Ne.symm (guard.slot_ne_empty)]
  | one held => simp [held, Guard.slot_injective.eq_iff, eq_comm]

/-- A guard that is alive is the only one. -/
theorem eq_singleton (serves : registry.Serves guards) (alive : guard ∈ guards) :
    guards = [guard] := by
  cases serves with
  | nobody free => simp at alive
  | one held => rw [List.mem_singleton.1 alive]

theorem perm (serves : registry.Serves guards) (same : others.Perm guards) :
    registry.Serves others := by
  cases serves with
  | nobody free =>
    rw [same.eq_nil]
    exact .nobody free
  | one held =>
    rw [List.perm_singleton.1 same]
    exact .one held

/-- No other guard is alive beside one that is. -/
theorem rest_eq_nil (serves : registry.Serves guards) (mine : guards.Perm (guard :: others)) :
    registry.slot = guard.slot ∧ others = [] := by
  have alive : guard ∈ guards := mine.mem_iff.2 List.mem_cons_self
  rw [serves.eq_singleton alive] at mine
  exact ⟨(serves.held_iff guard).2 alive, (List.cons.inj (List.perm_singleton.1 mine.symm)).2⟩

/-- Every call leaves the slot to the only guard that is alive. -/
theorem shift (serves : registry.Serves guards) (shift : registry.Shift guards after others) :
    after.Serves others := by
  cases shift with
  | aside kept same =>
    refine perm ?_ same
    cases serves with
    | nobody free => exact .nobody (kept.trans free)
    | one held => exact .one (kept.trans held)
  | reserved claimed more =>
    obtain ⟨free, rfl, rfl⟩ := reserve_eq_ok_iff.1 claimed
    rw [serves.free_iff.1 free] at more
    rw [List.perm_singleton.1 more]
    exact .one rfl
  | activated runId mine more =>
    -- The call itself checks no ticket: only the invariant says that the slot is this guard's.
    obtain ⟨-, rfl⟩ := serves.rest_eq_nil mine
    rw [List.perm_singleton.1 more]
    exact .one rfl
  | dropped mine =>
    -- A run is let go by its id alone, and no other guard is alive that may bear the same id.
    obtain ⟨held, rfl⟩ := serves.rest_eq_nil mine
    rw [dropped_of_held held]
    exact .nobody rfl

theorem holdsProject_iff (serves : registry.Serves guards) {id : String} :
    registry.holdsProject id = true ↔ ∃ guard ∈ guards, guard.projectId = id := by
  cases serves with
  | nobody free => simp [holdsProject, free]
  | @one guard held => cases guard <;> simp [holdsProject, held, Guard.slot, Guard.projectId]

theorem holdsTestCase_iff (serves : registry.Serves guards) {id : String} :
    registry.holdsTestCase id = true ↔ ∃ guard ∈ guards, guard.testCaseId = id := by
  cases serves with
  | nobody free => simp [holdsTestCase, free]
  | @one guard held => cases guard <;> simp [holdsTestCase, held, Guard.slot, Guard.testCaseId]

end Serves

end Registry

section Deletions

/-- Carries out a deletion that its check allows; the slot is locked meanwhile. -/
def guardedly {World Value : Type} (check : Except EngineError Unit)
    (deletion : World → Except EngineError Value × World) (world : World) :
    Except EngineError Value × World :=
  match check with
  | .error error => (.error error, world)
  | .ok _ => deletion world

/-- The engine deletes projects and test cases in this way. -/
theorem Engine.delete_eq_guardedly (engine : Engine) (check : Except EngineError Unit)
    (missing : EngineError) (runIds : List String) (remove : Store → Bool × Store) :
    engine.delete check missing runIds remove =
      guardedly check (fun engine => engine.delete (.ok ()) missing runIds remove) engine := by
  cases check <;> rfl

/-- A deletion runs if and only if no guard that is alive belongs to what it deletes. -/
structure Protects (guards : List Rehearsal.Guard) (belongs : Rehearsal.Guard → Prop)
    (check : Except EngineError Unit) (refusal : EngineError) : Prop where
  refused : (∃ guard ∈ guards, belongs guard) → ∀ {World Value : Type}
    (deletion : World → Except EngineError Value × World) (world : World),
    guardedly check deletion world = (.error refusal, world)
  runs : (∀ guard ∈ guards, ¬belongs guard) → ∀ {World Value : Type}
    (deletion : World → Except EngineError Value × World) (world : World),
    guardedly check deletion world = deletion world

/-- A check that fails exactly if the slot belongs to something protects this. -/
theorem Protects.of_holds {guards : List Rehearsal.Guard} {belongs : Rehearsal.Guard → Prop}
    {holds : Bool} {refusal : EngineError}
    (exact : holds = true ↔ ∃ guard ∈ guards, belongs guard) :
    Protects guards belongs (if holds then .error refusal else .ok ()) refusal where
  refused := by
    intro owned World Value deletion world
    rw [exact.2 owned]
    rfl
  runs := by
    intro strange World Value deletion world
    have free : ¬holds = true := fun held =>
      let ⟨guard, alive, owned⟩ := exact.1 held
      strange guard alive owned
    rw [if_neg free]
    rfl

end Deletions

namespace Rehearsal

variable {World : Type}

/-- What a caller asks for; a deletion changes the world outside of the registry. -/
inductive Request (World : Type) where
  | reserve (name projectId testCaseId : String)
  | activate (name runId : String)
  | drop (name : String)
  | cancel (runId : String)
  | deleteProject (id : String) (deletion : World → Except EngineError Unit × World)
  | deleteTestCase (id : String) (deletion : World → Except EngineError Unit × World)

namespace Guarded

/-- The guards that are alive. -/
def alive (guarded : Guarded) : List Guard := guarded.guards.map Prod.snd

/-- Carries out a request. -/
def perform (state : World × Guarded) (request : Request World) : World × Guarded :=
  let (world, guarded) := state
  match request with
  | .reserve name projectId testCaseId => (world, (guarded.reserve name projectId testCaseId).2)
  | .activate name runId => (world, (guarded.activate name runId).2)
  | .drop name => (world, (guarded.drop name).2)
  | .cancel runId => (world, (guarded.cancel runId).2)
  | .deleteProject id deletion =>
    ((guardedly (guarded.registry.checkProject id) deletion world).2, guarded)
  | .deleteTestCase id deletion =>
    ((guardedly (guarded.registry.checkTestCase id) deletion world).2, guarded)

variable {guarded : Guarded} {name : String} {guard : Guard}

/-- The slot belongs to the only guard that is alive. -/
def Served (guarded : Guarded) : Prop := guarded.registry.Serves guarded.alive

theorem mem_of_guard? (found : guarded.guard? name = some guard) :
    (name, guard) ∈ guarded.guards := by
  obtain ⟨⟨named, kept⟩, first, rfl⟩ := Option.map_eq_some_iff.1 found
  obtain rfl : named = name := by simpa using List.find?_some first
  exact List.mem_of_find?_eq_some first

namespace Served

/-- A guard under a name is the only one. -/
theorem guards_eq (served : guarded.Served) (found : guarded.guard? name = some guard) :
    guarded.guards = [(name, guard)] ∧ guarded.registry.slot = guard.slot := by
  have among := mem_of_guard? found
  have alive : guard ∈ guarded.alive := List.mem_map_of_mem among
  refine ⟨?_, (served.held_iff guard).2 alive⟩
  obtain ⟨entry, only, -⟩ := List.map_eq_singleton_iff.1 (served.eq_singleton alive)
  rw [only, List.mem_singleton] at among
  rw [only, among]

/-- The guard under a name is dropped. -/
theorem drop_eq (served : guarded.Served) (found : guarded.guard? name = some guard) :
    guarded.drop name = (true, ⟨guarded.registry.dropped guard, []⟩) := by
  have nobody : guarded.without name = [] := by
    simp [without, (served.guards_eq found).1]
  cases guard <;> simp only [Guarded.drop, found, nobody, Registry.dropped]

/-- Every request is one of the calls that leave the slot to the guard that is alive. -/
theorem shift (served : guarded.Served) (world : World) (request : Request World) :
    guarded.registry.Shift guarded.alive (perform (world, guarded) request).2.registry
      (perform (world, guarded) request).2.alive := by
  cases request with
  | reserve name projectId testCaseId =>
    simp only [perform, reserve]
    cases claimed : guarded.registry.reserve projectId testCaseId with
    | error error => exact .aside rfl (.refl _)
    | ok claim =>
      obtain ⟨free, -⟩ := Registry.reserve_eq_ok_iff.1 claimed
      have nobody : guarded.guards = [] := List.map_eq_nil_iff.1 (served.free_iff.1 free)
      refine .reserved claimed ?_
      simp [alive, without, nobody]
  | activate name runId =>
    simp only [perform, activate]
    split
    · next reservation found =>
      obtain ⟨only, -⟩ := served.guards_eq found
      have mine : guarded.alive.Perm [.reserved reservation] := by simp [alive, only]
      refine .activated runId mine ?_
      simp [alive, without, only]
    · exact .aside rfl (.refl _)
  | drop name =>
    cases found : guarded.guard? name with
    | none =>
      simp only [perform, drop, found]
      exact .aside rfl (.refl _)
    | some guard =>
      simp only [perform, served.drop_eq found]
      have mine : guarded.alive.Perm [guard] := by simp [alive, (served.guards_eq found).1]
      exact .dropped mine
  | cancel runId => exact .aside (guarded.registry.requestCancel_slot runId) (.refl _)
  | deleteProject id deletion => exact .aside rfl (.refl _)
  | deleteTestCase id deletion => exact .aside rfl (.refl _)

theorem perform (served : guarded.Served) (world : World) (request : Request World) :
    (Guarded.perform (world, guarded) request).2.Served :=
  Registry.Serves.shift served (served.shift world request)

/-- A guard that is dropped frees the slot. -/
theorem drop (served : guarded.Served) (found : guarded.guard? name = some guard) :
    (guarded.drop name).2 = ⟨guarded.registry.freed, []⟩ := by
  rw [served.drop_eq found, Registry.dropped_of_held (served.guards_eq found).2]

end Served

/-- The state after requests, in their order. -/
def after (state : World × Guarded) (requests : List (Request World)) : World × Guarded :=
  requests.foldl perform state

theorem Served.after (served : guarded.Served) (world : World) (requests : List (Request World)) :
    (Guarded.after (world, guarded) requests).2.Served := by
  induction requests generalizing world guarded with
  | nil => exact served
  | cons request requests inductionHypothesis =>
    exact inductionHypothesis (served.perform world request) _

/-- A request takes the free slot, or comes from the guard that keeps the slot. -/
inductive Entitled (guarded : Guarded) : Request World → Prop where
  | claim {name projectId testCaseId : String} (free : guarded.registry.slot = .empty) :
      Entitled guarded (.reserve name projectId testCaseId)
  | activation {name runId : String} {reservation : Reservation}
      (found : guarded.guard? name = some (.reserved reservation))
      (held : guarded.registry.slot = (Guard.reserved reservation).slot) :
      Entitled guarded (.activate name runId)
  | farewell {name : String} {guard : Guard} (found : guarded.guard? name = some guard)
      (held : guarded.registry.slot = guard.slot) : Entitled guarded (.drop name)

/-- Only requests of these kinds change the slot. -/
theorem Served.entitled (served : guarded.Served) {world : World} {request : Request World}
    (changed : (Guarded.perform (world, guarded) request).2.registry.slot ≠
      guarded.registry.slot) : guarded.Entitled request := by
  cases request with
  | reserve name projectId testCaseId =>
    simp only [Guarded.perform, reserve] at changed
    split at changed
    · simp at changed
    · next claimed => exact .claim (Registry.reserve_eq_ok_iff.1 claimed).1
  | activate name runId =>
    simp only [Guarded.perform, activate] at changed
    split at changed
    · next found => exact .activation found (served.guards_eq found).2
    · simp at changed
  | drop name =>
    cases found : guarded.guard? name with
    | none => simp [Guarded.perform, Guarded.drop, found] at changed
    | some guard => exact .farewell found (served.guards_eq found).2
  | cancel runId => exact absurd (guarded.registry.requestCancel_slot runId) changed
  | deleteProject id deletion => exact absurd rfl changed
  | deleteTestCase id deletion => exact absurd rfl changed

/-- What the registry promises to those who ask. -/
structure Kept (guarded : Guarded) : Prop where
  sole : guarded.alive.length ≤ 1
  empty_iff : guarded.registry.slot = .empty ↔ guarded.alive = []
  reserved_iff : ∀ ticket projectId testCaseId,
    guarded.registry.slot = .reserved ticket projectId testCaseId ↔
      .reserved ⟨ticket, projectId, testCaseId⟩ ∈ guarded.alive
  active_iff : ∀ ticket context,
    guarded.registry.slot = .active ticket context ↔ .active ⟨ticket, context⟩ ∈ guarded.alive
  reserve_iff : ∀ name projectId testCaseId,
    (guarded.reserve name projectId testCaseId).1 = .ok () ↔ guarded.alive = []
  drop_frees : ∀ name guard, guarded.guard? name = some guard →
    (guarded.drop name).2.registry.slot = .empty ∧ (guarded.drop name).2.alive = []
  entitled : ∀ {World : Type} (world : World) (request : Request World),
    (perform (world, guarded) request).2.registry.slot ≠ guarded.registry.slot →
    guarded.Entitled request
  projects : ∀ id, Protects guarded.alive (fun guard => guard.projectId = id)
    (guarded.registry.checkProject id) (.runInProgress .project id)
  testCases : ∀ id, Protects guarded.alive (fun guard => guard.testCaseId = id)
    (guarded.registry.checkTestCase id) (.runInProgress .testCase id)

theorem Served.kept (served : guarded.Served) : guarded.Kept where
  sole := by
    cases guards : guarded.alive with
    | nil => simp
    | cons guard rest =>
      have alive : guard ∈ guarded.alive := by simp [guards]
      rw [← guards, served.eq_singleton alive]
      simp
  empty_iff := served.free_iff
  reserved_iff := fun ticket projectId testCaseId =>
    served.held_iff (.reserved ⟨ticket, projectId, testCaseId⟩)
  active_iff := fun ticket context => served.held_iff (.active ⟨ticket, context⟩)
  reserve_iff := by
    intro name projectId testCaseId
    rw [← served.free_iff]
    simp only [reserve, Registry.reserve]
    cases guarded.registry.slot <;> simp
  drop_frees := by
    intro name guard found
    rw [served.drop found]
    exact ⟨rfl, rfl⟩
  entitled := fun _ _ changed => served.entitled changed
  projects := fun _ => .of_holds served.holdsProject_iff
  testCases := fun _ => .of_holds served.holdsTestCase_iff

/-- A registry keeps its promises whatever callers ask for. -/
theorem kept_after (world : World) (requests : List (Request World)) :
    (after (world, {}) requests).2.Kept := by
  have nobody : Served {} := .nobody rfl
  exact (nobody.after world requests).kept

/-- Two callers want the slot, and the one that gets it starts a run in a second round. -/
def sampleRivals : List (Request Unit) :=
  [.reserve "first" "shop" "login", .drop "first", .reserve "second" "shop" "login",
    .reserve "first" "shop" "checkout", .activate "second" "run", .drop "first"]

/-- The guard of the run is alive, and the registry keeps its promises to those who ask then. -/
theorem kept_sampleRivals :
    (after ((), {}) sampleRivals).2.alive = [.active ⟨2, ⟨"run", "shop", "login"⟩⟩] ∧
      (after ((), {}) sampleRivals).2.Kept :=
  ⟨by decide, kept_after () sampleRivals⟩

end Guarded

end Rehearsal

end StepRunner
