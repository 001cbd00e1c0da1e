import StepRunner.Proofs.Service.Exchanges

/-!
This file lets the answers to any number of requests take turns on one engine, with each other, with
the tasks of runs and with all that others do to the store and to the disk.
A request that fails has had no effect, however long it has waited and whatever was done meanwhile.
Only the run of a start stays behind if the disk refuses both to begin it and to remove it.
-/

namespace StepRunner

/-- Goes on with an activity by one act, one reply or one wait, unless it waits on or is done. -/
def Activity.pace? {α : Type} (now : Int) (found : Bool) (engine : Engine) :
    Activity α → Option (Activity α × Engine)
  | act change next => some (next now engine, change now engine)
  | probe _ next => some (next found, engine)
  | await event _ next => if event.isOver 0 engine then some (next, engine) else none
  | _ => none

namespace Service

open Rehearsal (Guard)

/-- The engine before and after an act. -/
structure Act where
  before : Engine
  after : Engine

/-- A request that is being answered, with the acts that were done for it so far. -/
structure Exchange where
  /-- What is left to be done, unless nobody waits for the response any more. -/
  activity : Option (Activity Response)
  acts : List Act := []

namespace Exchange

/-- The status of the response, if the request is answered. -/
def status? (exchange : Exchange) : Option Nat :=
  match exchange.activity with
  | some (.done response) => some response.status
  | _ => none

theorem status?_eq_some_iff {exchange : Exchange} {status : Nat} :
    exchange.status? = some status ↔
      ∃ response, exchange.activity = some (.done response) ∧ response.status = status := by
  unfold status?
  split
  · next response answered => simp [answered]
  · next unanswered =>
    refine ⟨fun answered => ?_, fun ⟨response, answered, _⟩ => absurd answered (unanswered _)⟩
    cases answered

end Exchange

/-- An engine with all requests so far. -/
structure Desk where
  engine : Engine
  exchanges : List Exchange := []

namespace Desk

/-- What somebody does in a turn. -/
inductive Move where
  /-- A request comes in. -/
  | arrive (request : Request)
  /-- The answer to a request goes on; if it has asked the host, the host has replied. -/
  | goOn (exchange : Nat) (found : Bool)
  /-- Somebody hangs up whose request waits for an install. -/
  | hangUp (exchange : Nat)
  /-- The task of a run goes on. -/
  | proceed (number : Nat)
  /-- The browser of a run breaks down and takes the task with it. -/
  | breakDown (number : Nat)
  /-- Changes what is known about the browser engines. -/
  | install (change : Installs → Installs)
  /-- Somebody changes the store past the engine. -/
  | store (operation : Store.Operation)
  /-- Somebody changes the files past the engine. -/
  | files (artifacts : Artifacts)
  /-- The disk will refuse some of the coming writes to the store. -/
  | refuse (refusals : List Bool)

/-- A move at an instant. -/
structure Turn where
  now : Int
  move : Move

/-- The disk comes to refuse writes in a turn. -/
def Turn.refuses (turn : Turn) : Bool :=
  match turn.move with
  | .refuse _ => true
  | _ => false

/-- A new engine on a store, before the first request. -/
def opened (store : Store) (artifacts : Artifacts) (options : RunOptions) : Desk where
  engine := { store, artifacts, options }

/-- A request comes in. -/
def receive (desk : Desk) (request : Request) : Desk :=
  { desk with exchanges := desk.exchanges ++ [{ activity := some (respond request) }] }

/-- Changes the engine on behalf of no request. -/
def change (desk : Desk) (step : Engine → Engine) : Desk :=
  { desk with engine := step desk.engine }

/-- Acts on behalf of a request, which has something left to be done unless it is dropped. -/
def perform (desk : Desk) (index : Nat) (exchange : Exchange)
    (activity : Option (Activity Response)) (engine : Engine) : Desk where
  engine
  exchanges := desk.exchanges.set index
    { activity, acts := exchange.acts ++ [⟨desk.engine, engine⟩] }

/-- Carries out a turn; the browser of the task with a number behaves as its session says. -/
def step (sessions : Nat → Session) (desk : Desk) (turn : Turn) : Desk :=
  match turn.move with
  | .arrive request => desk.receive request
  | .goOn index found =>
    match desk.exchanges[index]? with
    | none => desk
    | some exchange =>
      match exchange.activity.bind (·.pace? turn.now found desk.engine) with
      | none => desk
      | some (activity, engine) => desk.perform index exchange (some activity) engine
  | .hangUp index =>
    match desk.exchanges[index]? with
    | none => desk
    | some exchange =>
      match exchange.activity with
      | some (.await _ dropped _) => desk.perform index exchange none (dropped desk.engine)
      | _ => desk
  | .proceed number => desk.change (·.proceed (sessions number) number turn.now)
  | .breakDown number => desk.change (·.brokeDown number)
  | .install change =>
    desk.change fun engine => { engine with installs := change engine.installs }
  | .store operation =>
    desk.change fun engine => { engine with store := engine.store.perform operation }
  | .files artifacts => desk.change fun engine => { engine with artifacts }
  | .refuse refusals => desk.change fun engine => { engine with refusals }

/-- The desk after a history. -/
def after (sessions : Nat → Session) (desk : Desk) (history : List Turn) : Desk :=
  history.foldl (step sessions) desk

end Desk

section Traces

/-- An act that spares all that others see and takes the slot from one state to another. -/
structure Act.Shifts (act : Act) (source target : Slot) : Prop where
  spares : act.before.Spares act.after
  source : act.before.registry.slot = source
  target : act.after.registry.slot = target

/-- An act that spares all that others see and leaves the slot as it is. -/
def Act.Quiet (act : Act) : Prop := act.Shifts act.before.registry.slot act.before.registry.slot

/-- After some quiet acts the free slot was claimed, and it was kept since. -/
inductive Holds (own : Slot) : List Act → Prop where
  | claims {acts : List Act} {act : Act} (quiet : ∀ early ∈ acts, early.Quiet)
      (claims : act.Shifts .empty own) : Holds own (acts ++ [act])
  | keeps {acts : List Act} {act : Act} (holds : Holds own acts) (keeps : act.Shifts own own) :
      Holds own (acts ++ [act])

/-- The acts have no effect: they are all quiet, or the slot is free again that they held. -/
inductive Traceless : List Act → Prop where
  | quiet {acts : List Act} (quiet : ∀ act ∈ acts, act.Quiet) : Traceless acts
  | returns {own : Slot} {acts : List Act} {act : Act} (holds : Holds own acts)
      (returns : act.Shifts own .empty) : Traceless (acts ++ [act])

/--
The acts held the slot for a start, and the last of them completes it while the disk refuses its
cleanup: the slot is free again, and the run that never began is all that is left behind.
-/
inductive Marred : List Act → Prop where
  | strands {call : StartCall} {now : Int} {acts : List Act} {act : Act}
      (holds : Holds (Guard.reserved call.reservation).slot acts)
      (held : act.before.registry.slot = (Guard.reserved call.reservation).slot)
      (completes : act.after = (act.before.conclude call (.ok ()) now).2)
      (refuses : act.before.RefusesCleanup call now)
      (strands : act.before.Strands call act.after)
      (freed : act.after.registry.slot = .empty) : Marred (acts ++ [act])

variable {acts : List Act} {own : Slot}

/-- While the slot is held, nobody sees a change of anything else. -/
theorem Holds.spares (holds : Holds own acts) : ∀ act ∈ acts, act.before.Spares act.after := by
  induction holds with
  | claims quiet claims =>
    exact List.forall_mem_append.2
      ⟨fun act early => (quiet act early).spares, List.forall_mem_singleton.2 claims.spares⟩
  | keeps holds keeps inductionHypothesis =>
    exact List.forall_mem_append.2
      ⟨inductionHypothesis, List.forall_mem_singleton.2 keeps.spares⟩

/-- Nobody sees any of the acts that have no effect. -/
theorem Traceless.spares (traceless : Traceless acts) :
    ∀ act ∈ acts, act.before.Spares act.after := by
  cases traceless with
  | quiet quiet => exact fun act done => (quiet act done).spares
  | returns holds returns =>
    exact List.forall_mem_append.2 ⟨holds.spares, List.forall_mem_singleton.2 returns.spares⟩

/-- A run that is left behind is an effect. -/
theorem Marred.not_traceless (marred : Marred acts) : ¬Traceless acts := by
  intro traceless
  cases marred with
  | strands holds held completes refuses strands freed =>
    exact strands.not_spares (traceless.spares _ (List.mem_append_right _ List.mem_cons_self))

end Traces

section Standing

variable {faulty : Prop} {held : Option StartCall} {acts : List Act} {act : Act}

/-- What the acts have done so far for a request that may hold the slot for a start. -/
def Holding : Option StartCall → List Act → Prop
  | none, acts => ∀ act ∈ acts, act.Quiet
  | some call, acts => Holds (Guard.reserved call.reservation).slot acts

/-- How an exchange stands that may hold the slot for a start. -/
inductive Exchange.Stands (faulty : Prop) : Option StartCall → Exchange → Prop where
  | goesOn {held : Option StartCall} {activity : Activity Response} {acts : List Act}
      (cautious : Cautious held activity) (holding : Holding held acts) :
      Stands faulty held ⟨some activity, acts⟩
  | answered {response : Response} {acts : List Act}
      (discreet : response.Failed → Traceless acts ∨ faulty ∧ Marred acts) :
      Stands faulty none ⟨some (.done response), acts⟩
  | left {acts : List Act} (traceless : Traceless acts) : Stands faulty none ⟨none, acts⟩

theorem Holding.quietly (holding : Holding held acts) (quiet : act.Quiet)
    (own : ∀ call ∈ held, act.before.registry.slot = (Guard.reserved call.reservation).slot) :
    Holding held (acts ++ [act]) := by
  cases held with
  | none => exact List.forall_mem_append.2 ⟨holding, List.forall_mem_singleton.2 quiet⟩
  | some call =>
    refine .keeps holding ?_
    rw [← own call rfl]
    exact quiet

end Standing

namespace Desk

/-- The start for which a request holds the slot, if it is the one that does. -/
def heldBy (holder : Option (Nat × StartCall)) (index : Nat) : Option StartCall :=
  match holder with
  | none => none
  | some (place, call) => if place = index then some call else none

/-- A request keeps what it holds, claims the free slot, or gives it up. -/
inductive Passes (index : Nat) : Option (Nat × StartCall) → Option (Nat × StartCall) → Prop where
  | keeps (holder : Option (Nat × StartCall)) : Passes index holder holder
  | claims (call : StartCall) : Passes index none (some (index, call))
  | returns (call : StartCall) : Passes index (some (index, call)) none

/-- What holds of a desk whatever happens: at most one of the requests holds the slot. -/
structure Attended (desk : Desk) (faulty : Prop) (holder : Option (Nat × StartCall)) : Prop where
  orderly : System.Orderly ⟨desk.engine, (holder.map Prod.snd).toList⟩
  reliable : desk.engine.refusals = [] ∨ faulty
  inside : ∀ index call, holder = some (index, call) → index < desk.exchanges.length
  stands : ∀ (index : Nat) (exchange : Exchange), desk.exchanges[index]? = some exchange →
    exchange.Stands faulty (heldBy holder index)

variable {desk : Desk} {faulty : Prop} {holder later : Option (Nat × StartCall)} {index : Nat}
  {call : StartCall}

theorem heldBy_eq_some_iff : heldBy holder index = some call ↔ holder = some (index, call) := by
  cases holder with
  | none => simp [heldBy]
  | some pair =>
    obtain ⟨place, other⟩ := pair
    simp only [heldBy, Option.some.injEq, Prod.mk.injEq]
    split <;> simp_all

theorem Passes.heldBy_of_ne (passes : Passes index holder later) {other : Nat}
    (apart : other ≠ index) : heldBy later other = heldBy holder other := by
  cases passes with
  | keeps holder => rfl
  | claims call => simp [heldBy, Ne.symm apart]
  | returns call => simp [heldBy, Ne.symm apart]

namespace Attended

theorem opened {store : Store} (sound : store.tables.Sound) (artifacts : Artifacts)
    (options : RunOptions) : (opened store artifacts options).Attended faulty none where
  orderly := .opened sound artifacts options
  reliable := .inl rfl
  inside := by
    rintro _ _ ⟨⟩
  stands := by
    rintro _ _ ⟨⟩

/-- The request that holds the slot finds it held for its start. -/
theorem held (attended : desk.Attended faulty (some (index, call))) :
    desk.engine.registry.slot = (Guard.reserved call.reservation).slot :=
  (attended.orderly.waits rfl).held

/-- The disk refuses no writes after what uses refusals up, unless it comes to refuse more. -/
theorem reliable_after (attended : desk.Attended faulty holder) {engine : Engine}
    (used : engine.refusals <:+ desk.engine.refusals) : engine.refusals = [] ∨ faulty :=
  attended.reliable.imp_left fun reliable => List.suffix_nil.1 (by rwa [reliable] at used)

/-- A new request holds nothing. -/
theorem receive (attended : desk.Attended faulty holder) (request : Request) :
    (desk.receive request).Attended faulty holder where
  orderly := attended.orderly
  reliable := attended.reliable
  inside := by
    intro index call holds
    have inside := attended.inside index call holds
    simp only [Desk.receive, List.length_append]
    omega
  stands := by
    intro index exchange found
    simp only [Desk.receive, List.getElem?_append] at found
    split at found
    · exact attended.stands index exchange found
    · next outside =>
      have new : { activity := some (respond request) } = exchange :=
        (List.mem_singleton.1 (List.mem_of_getElem? found)).symm
      subst new
      have nothing : heldBy holder index = none := by
        cases held : heldBy holder index with
        | none => rfl
        | some call => exact absurd (attended.inside index call (heldBy_eq_some_iff.1 held)) outside
      rw [nothing]
      refine .goesOn (cautious_respond request) ?_
      rintro _ ⟨⟩

/-- An act for a request concerns no other request. -/
theorem perform (attended : desk.Attended faulty holder) {exchange : Exchange}
    {activity : Option (Activity Response)} {engine : Engine}
    (found : desk.exchanges[index]? = some exchange) (passes : Passes index holder later)
    (orderly : System.Orderly ⟨engine, (later.map Prod.snd).toList⟩)
    (reliable : engine.refusals = [] ∨ faulty)
    (stands : Exchange.Stands faulty (heldBy later index)
      ⟨activity, exchange.acts ++ [⟨desk.engine, engine⟩]⟩) :
    (desk.perform index exchange activity engine).Attended faulty later where
  orderly
  reliable
  inside := by
    intro place call holds
    simp only [Desk.perform, List.length_set]
    cases passes with
    | keeps holder => exact attended.inside place call holds
    | claims other =>
      obtain ⟨rfl, rfl⟩ := Prod.mk.inj (Option.some.inj holds)
      exact (List.getElem?_eq_some_iff.1 found).1
    | returns other => cases holds
  stands := by
    intro other standing present
    simp only [Desk.perform, List.getElem?_set] at present
    split at present
    · next same =>
      subst same
      split at present
      · obtain rfl := Option.some.inj present
        exact stands
      · cases present
    · next apart =>
      rw [passes.heldBy_of_ne (Ne.symm apart)]
      exact attended.stands other standing present

/-- A quiet act for a request leaves all to whom it belongs. -/
theorem performs_quiet (attended : desk.Attended faulty holder) {exchange : Exchange}
    {activity : Activity Response} {engine : Engine}
    (found : desk.exchanges[index]? = some exchange)
    (settles : desk.engine.Settles engine) (spares : desk.engine.Spares engine)
    (cautious : Cautious (heldBy holder index) activity)
    (holding : Holding (heldBy holder index) exchange.acts) :
    (desk.perform index exchange (some activity) engine).Attended faulty holder := by
  refine attended.perform found (.keeps holder) (attended.orderly.settled settles)
    (attended.reliable_after settles.refusals) ?_
  refine .goesOn cautious (holding.quietly ⟨spares, rfl, settles.slot⟩ fun call held => ?_)
  rw [heldBy_eq_some_iff.1 held] at attended
  exact attended.held

section Requests

variable {exchange : Exchange}

/-- A request claims the slot only while nobody holds it. -/
theorem performs_claim (attended : desk.Attended faulty holder)
    (found : desk.exchanges[index]? = some exchange) (nothing : heldBy holder index = none)
    {testCaseId : String} {browser : Browser} {options : RunOptions}
    {next : Except EngineError StartCall → Activity Response}
    (granted : ∀ call, Cautious (some call) (next (.ok call)))
    (refused : ∀ error, Cautious none (next (.error error)))
    (holding : Holding none exchange.acts) :
    ∃ later, (desk.perform index exchange
      (some (next (desk.engine.claim testCaseId browser options).1))
      (desk.engine.claim testCaseId browser options).2).Attended faulty later := by
  cases prepared : desk.engine.prepare testCaseId browser options with
  | error error =>
    simp only [Engine.claim, prepared]
    refine ⟨holder, attended.performs_quiet found .refl .refl ?_ ?_⟩
    all_goals rw [nothing]
    · exact refused error
    · exact holding
  | ok result =>
    obtain ⟨call, after⟩ := result
    simp only [Engine.claim, prepared]
    obtain ⟨-, -, -, -, -, -, registry, reserved, rfl⟩ := Engine.prepare_eq prepared
    obtain ⟨free, -, -⟩ := Registry.reserve_eq_ok_iff.1 reserved
    cases holder with
    | some pair =>
      -- A start that waits holds the slot, which was free.
      have held := attended.orderly.waits rfl
      exact absurd (held.held.symm.trans free) (Guard.slot_ne_empty _)
    | none =>
      have orderly := attended.orderly.begun prepared
      have claims : Act.Shifts ⟨desk.engine, { desk.engine with registry }⟩ .empty
          (Guard.reserved call.reservation).slot :=
        ⟨⟨rfl, rfl, rfl, rfl⟩, free, (orderly.waits rfl).held⟩
      refine ⟨some (index, call), attended.perform found (.claims call) orderly
        attended.reliable ?_⟩
      rw [heldBy_eq_some_iff.2 rfl]
      exact .goesOn (granted call) (.claims holding claims)

/-- A request that completes its start leaves no trace if the start has failed. -/
theorem performs_conclude (attended : desk.Attended faulty (some (index, call)))
    (found : desk.exchanges[index]? = some exchange) {installed : Except String Unit} {now : Int}
    {response : Except EngineError (Nat × Run) → Response}
    (fine : ∀ started, ¬(response (.ok started)).Failed)
    (holding : Holding (some call) exchange.acts) :
    (desk.perform index exchange
      (some (.done (response (desk.engine.conclude call installed now).1)))
      (desk.engine.conclude call installed now).2).Attended faulty none := by
  have waits : [call][0]? = some call := rfl
  have orderly := attended.orderly.concluded waits installed now
  have used := desk.engine.refusals_conclude call installed now
  refine attended.perform found (.returns call) orderly (attended.reliable_after used)
    (.answered fun failed => ?_)
  cases outcome : (desk.engine.conclude call installed now).1 with
  | ok started =>
    rw [outcome] at failed
    exact absurd failed (fine started)
  | error error =>
    -- A start that fails restores the tables itself, and the disk may refuse just that.
    obtain ⟨free, spares | ⟨rfl, refuses, strands⟩⟩ :=
      Engine.conclude_cases_of_error attended.orderly.tables attended.held outcome
    · exact .inl (.returns holding ⟨spares, attended.held, free⟩)
    · refine .inr ⟨attended.reliable.resolve_left fun reliable => ?_,
        .strands holding attended.held rfl refuses strands free⟩
      have taken := refuses.2
      rw [reliable] at taken
      cases taken

/-- A request that does what was asked for leaves no trace if that has failed. -/
theorem performs_settle (attended : desk.Attended faulty holder)
    (found : desk.exchanges[index]? = some exchange) (nothing : heldBy holder index = none)
    {response : Response} {engine : Engine} (settles : desk.engine.Settles engine)
    (spares : response.Failed → desk.engine.Spares engine) (holding : Holding none exchange.acts) :
    (desk.perform index exchange (some (.done response)) engine).Attended faulty holder := by
  refine attended.perform found (.keeps holder) (attended.orderly.settled settles)
    (attended.reliable_after settles.refusals) ?_
  rw [nothing]
  refine .answered fun failed => .inl (.quiet ?_)
  exact holding.quietly ⟨spares failed, rfl, settles.slot⟩ (by rintro _ ⟨⟩)

/-- The answer to a request goes on as it is attended to. -/
theorem goOn (attended : desk.Attended faulty holder)
    (found : desk.exchanges[index]? = some exchange) {now : Int} {reply : Bool}
    {activity : Activity Response} {engine : Engine}
    (paced : exchange.activity.bind (·.pace? now reply desk.engine) = some (activity, engine)) :
    ∃ later, (desk.perform index exchange (some activity) engine).Attended faulty later := by
  have stands := attended.stands index exchange found
  generalize holds : heldBy holder index = held at stands
  -- Only a claim and the completion of a start change who holds the slot.
  cases stands with
  | answered discreet => cases paced
  | left traceless => cases paced
  | @goesOn _ present acts cautious holding =>
    cases cautious with
    | done response => cases paced
    | look looks rest =>
      obtain ⟨rfl, rfl⟩ := Prod.mk.inj (Option.some.inj paced)
      obtain ⟨installs, same⟩ := looks now desk.engine
      rw [same]
      subst holds
      exact ⟨holder, attended.performs_quiet found ⟨rfl, rfl, id, List.suffix_refl _⟩
        ⟨rfl, rfl, rfl, rfl⟩ (rest now desk.engine) holding⟩
    | claim granted refused =>
      obtain ⟨rfl, rfl⟩ := Prod.mk.inj (Option.some.inj paced)
      exact attended.performs_claim found holds granted refused holding
    | conclude answers fine =>
      obtain ⟨rfl, rfl⟩ := Prod.mk.inj (Option.some.inj paced)
      obtain rfl := heldBy_eq_some_iff.1 holds
      beta_reduce
      rw [answers]
      exact ⟨none, attended.performs_conclude found fine holding⟩
    | settle settles spares =>
      obtain ⟨rfl, rfl⟩ := Prod.mk.inj (Option.some.inj paced)
      have sound := attended.orderly.tables
      exact ⟨holder, attended.performs_settle found holds (settles now desk.engine sound)
        (spares now desk.engine sound) holding⟩
    | probe rest =>
      obtain ⟨rfl, rfl⟩ := Prod.mk.inj (Option.some.inj paced)
      subst holds
      exact ⟨holder, attended.performs_quiet found .refl .refl (rest reply) holding⟩
    | @await _ event next rest =>
      simp only [Option.bind_some, Activity.pace?] at paced
      split at paced
      · obtain ⟨rfl, rfl⟩ := Prod.mk.inj (Option.some.inj paced)
        subst holds
        exact ⟨holder, attended.performs_quiet found .refl .refl rest holding⟩
      · cases paced

/-- Somebody who hangs up gives back what the request holds. -/
theorem hangUp (attended : desk.Attended faulty holder)
    (found : desk.exchanges[index]? = some exchange) {event : Wait} {dropped : Engine → Engine}
    {next : Activity Response} (waits : exchange.activity = some (.await event dropped next)) :
    ∃ later, (desk.perform index exchange none (dropped desk.engine)).Attended faulty later := by
  have stands := attended.stands index exchange found
  generalize holds : heldBy holder index = held at stands
  cases stands with
  | answered discreet => cases waits
  | left traceless => cases waits
  | @goesOn _ present acts cautious holding =>
    obtain rfl := Option.some.inj waits
    cases cautious with
    | await rest =>
      cases held with
      | none =>
        refine ⟨holder, attended.perform found (.keeps holder) attended.orderly
          attended.reliable ?_⟩
        rw [holds]
        exact .left (.quiet (holding.quietly ⟨.refl, rfl, rfl⟩ (by rintro _ ⟨⟩)))
      | some call =>
        obtain rfl := heldBy_eq_some_iff.1 holds
        have waits : [call][0]? = some call := rfl
        have orderly := attended.orderly.released waits .refl
        have free := congrArg Registry.slot (Registry.release_of_held attended.held)
        refine ⟨none, attended.perform found (.returns call) orderly attended.reliable ?_⟩
        exact .left (.returns holding ⟨⟨rfl, rfl, rfl, rfl⟩, attended.held, free⟩)

end Requests

/-- Every turn is attended to. -/
theorem step (attended : desk.Attended faulty holder) (sessions : Nat → Session) {turn : Turn}
    (notes : turn.refuses = true → faulty) :
    ∃ later, (desk.step sessions turn).Attended faulty later := by
  obtain ⟨now, move⟩ := turn
  -- What concerns no request is a turn of the system, or trouble that the system meets.
  have orderly := attended.orderly
  cases move with
  | arrive request => exact ⟨holder, attended.receive request⟩
  | goOn index reply =>
    simp only [Desk.step]
    split
    · exact ⟨holder, attended⟩
    · next found =>
      split
      · exact ⟨holder, attended⟩
      · next paced => exact attended.goOn found paced
  | hangUp index =>
    simp only [Desk.step]
    split
    · exact ⟨holder, attended⟩
    · next found =>
      split
      · next waits => exact attended.hangUp found waits
      · exact ⟨holder, attended⟩
  | proceed number =>
    have used := desk.engine.refusals_proceed (sessions number) number now
    exact ⟨holder, orderly.step sessions ⟨now, .proceed number⟩, attended.reliable_after used,
      attended.inside, attended.stands⟩
  | breakDown number =>
    refine ⟨holder, orderly.step sessions ⟨now, .breakDown number⟩, ?_, attended.inside,
      attended.stands⟩
    exact attended.reliable.imp_left (desk.engine.refusals_brokeDown number).trans
  | install change =>
    exact ⟨holder, orderly.step sessions ⟨now, .install change⟩, attended.reliable,
      attended.inside, attended.stands⟩
  | store operation =>
    exact ⟨holder, orderly.meet sessions (.store operation), attended.reliable, attended.inside,
      attended.stands⟩
  | files artifacts =>
    exact ⟨holder, orderly.rests ⟨rfl, rfl, id⟩, attended.reliable, attended.inside,
      attended.stands⟩
  | refuse refusals =>
    exact ⟨holder, orderly.meet sessions (.disk refusals), .inr (notes rfl), attended.inside,
      attended.stands⟩

theorem after (attended : desk.Attended faulty holder) (sessions : Nat → Session)
    {history : List Turn} (notes : ∀ turn ∈ history, turn.refuses = true → faulty) :
    ∃ later, (desk.after sessions history).Attended faulty later := by
  induction history generalizing desk holder with
  | nil => exact ⟨holder, attended⟩
  | cons turn history inductionHypothesis =>
    obtain ⟨first, others⟩ := List.forall_mem_cons.1 notes
    obtain ⟨middle, stepped⟩ := attended.step sessions first
    exact inductionHypothesis stepped others

/-- A request that has failed has no effect, unless the disk has spoilt the removal of its run. -/
theorem traceless (attended : desk.Attended faulty holder) {exchange : Exchange}
    {response : Response} (found : desk.exchanges[index]? = some exchange)
    (answered : exchange.activity = some (.done response)) (failed : response.Failed) :
    Traceless exchange.acts ∨ faulty ∧ Marred exchange.acts := by
  have stands := attended.stands index exchange found
  generalize heldBy holder index = held at stands
  cases stands with
  | answered discreet =>
    obtain rfl := Activity.done.inj (Option.some.inj answered)
    exact discreet failed
  | left traceless => cases answered
  | goesOn cautious holding =>
    obtain rfl := Option.some.inj answered
    cases cautious with
    | done => exact .inl (.quiet holding)

/-- A request of somebody who has hung up has no effect. -/
theorem traceless_of_left (attended : desk.Attended faulty holder) {exchange : Exchange}
    (found : desk.exchanges[index]? = some exchange) (left : exchange.activity = none) :
    Traceless exchange.acts := by
  have stands := attended.stands index exchange found
  generalize heldBy holder index = held at stands
  cases stands with
  | answered discreet => cases left
  | left traceless => exact traceless
  | goesOn cautious holding => cases left

end Attended

section Histories

variable {store : Store} (sound : store.tables.Sound) (artifacts : Artifacts)
  (options : RunOptions) (sessions : Nat → Session) (history : List Turn) {index : Nat}
  {exchange : Exchange}

include sound

theorem attended_after :
    ∃ holder, ((opened store artifacts options).after sessions history).Attended
      (∃ turn ∈ history, turn.refuses = true) holder :=
  (Attended.opened sound artifacts options).after sessions fun turn taken refuses =>
    ⟨turn, taken, refuses⟩

/-- A request leaves no trace if nobody waits for its response any more. -/
theorem traceless_of_hungUp
    (found : ((opened store artifacts options).after sessions history).exchanges[index]? =
      some exchange)
    (hungUp : exchange.activity = none) : Traceless exchange.acts := by
  obtain ⟨holder, attended⟩ := attended_after sound artifacts options sessions history
  exact attended.traceless_of_left found hungUp

/--
A request with a response that says that it has failed leaves no trace, whatever happened meanwhile.
The one exception is a start whose run the disk refuses both to begin and to remove: it leaves just
that run behind, which is still queued.
-/
theorem traceless_iff_of_failed {response : Response}
    (found : ((opened store artifacts options).after sessions history).exchanges[index]? =
      some exchange)
    (answered : exchange.activity = some (.done response)) (failed : response.Failed) :
    (Traceless exchange.acts ↔ ¬Marred exchange.acts) ∧
      (Marred exchange.acts → ∃ turn ∈ history, turn.refuses = true) := by
  obtain ⟨holder, attended⟩ := attended_after sound artifacts options sessions history
  rcases attended.traceless found answered failed with traceless | ⟨refuses, marred⟩
  · have unmarred : ¬Marred exchange.acts := fun marred => marred.not_traceless traceless
    exact ⟨⟨fun _ => unmarred, fun _ => traceless⟩, fun marred => absurd marred unmarred⟩
  · exact ⟨⟨fun traceless => absurd traceless marred.not_traceless, absurd marred⟩,
      fun _ => refuses⟩

end Histories

section Sample

/-- A request with a JSON content. -/
def samplePost (target body : String) : Move :=
  .arrive ⟨"POST", target, some "application/json", body⟩

/-- A request for a run of the test case of the sample. -/
def sampleOrder : Move :=
  samplePost "/api/runs" ("\x7b\"test_case_id\":\"" ++ Store.idOf 1 ++ "\"\x7d")

/-- Three requests: for a project, for a test case of it, and for a run of the test case. -/
def sampleRequests : List Move :=
  [samplePost "/api/projects" "\x7b\"name\":\"Shop\"\x7d", .goOn 0 false,
    samplePost ("/api/projects/" ++ Store.idOf 0 ++ "/test-cases")
      "\x7b\"title\":\"Login\",\"steps\":[\"Click \\\"Login\\\"\"]\x7d", .goOn 1 false,
    sampleOrder]

/-- The attempt to install the browser engine that the run waits for fails. -/
def sampleAttempt : List Move :=
  [.install (·.beginAttempt 0), .install (·.endAttempt 0 (.error "no network"))]

/-- The request for the run claims the slot, waits, and fails. -/
def sampleVisit : List Turn :=
  (sampleRequests ++ List.replicate 5 (Move.goOn 2 false) ++ sampleAttempt ++
    List.replicate 3 (Move.goOn 2 false)).map (⟨0, ·⟩)

/-- The desk of the sample after all its turns. -/
def sampleDesk : Desk :=
  (opened {} default System.sampleOptions).after (fun _ => .prompt) sampleVisit

/-- The request of the sample fails, and it leaves no trace though it has held the slot. -/
theorem traceless_sampleVisit :
    ∃ exchange response, sampleDesk.exchanges[2]? = some exchange ∧
      exchange.activity = some (.done response) ∧ response.status = 503 ∧
      Traceless exchange.acts := by
  have answers : sampleDesk.exchanges[2]?.bind Exchange.status? = some 503 := by decide +kernel
  obtain ⟨exchange, found, answered⟩ := Option.bind_eq_some_iff.1 answers
  obtain ⟨response, answered, status⟩ := Exchange.status?_eq_some_iff.1 answered
  have failed : response.Failed := Nat.le_trans (by decide) (Nat.le_of_eq status.symm)
  obtain ⟨exact, spoilt⟩ := traceless_iff_of_failed .empty default System.sampleOptions
    (fun _ => .prompt) sampleVisit found answered failed
  refine ⟨exchange, response, found, answered, status, exact.2 fun marred => ?_⟩
  obtain ⟨turn, taken, refuses⟩ := spoilt marred
  have calm : sampleVisit.all (!·.refuses) = true := by decide +kernel
  have quiet := List.all_eq_true.1 calm turn taken
  simp [refuses] at quiet

/-- Another request for a run comes, and the attempt that the first one waits for succeeds. -/
def sampleRivalry : List Move :=
  [sampleOrder, .goOn 3 false, .goOn 3 false, .install (·.beginAttempt 0),
    .install (·.endAttempt 0 (.ok ()))]

/-- The disk accepts the run of the first request, and it refuses to begin and to remove the run. -/
def sampleTrouble : List Turn :=
  (sampleRequests ++ List.replicate 5 (Move.goOn 2 false) ++ sampleRivalry ++
    Move.refuse [false, true, true] :: List.replicate 3 (Move.goOn 2 false)).map (⟨0, ·⟩)

/-- The desk after the trouble. -/
def troubledDesk : Desk :=
  (opened {} default System.sampleOptions).after (fun _ => .prompt) sampleTrouble

/-- Some act of an exchange changes how many runs are stored. -/
def Exchange.countsRuns (exchange : Exchange) : Bool :=
  exchange.acts.any fun act =>
    act.after.store.tables.runs.length ≠ act.before.store.tables.runs.length

/--
The first request for a run fails, and its run stays in the store.
While it waited it held the slot, so the other request was refused.
-/
theorem not_traceless_sampleTrouble :
    ∃ exchange response, troubledDesk.exchanges[2]? = some exchange ∧
      exchange.activity = some (.done response) ∧ response.status = 500 ∧
      ¬Traceless exchange.acts ∧
      troubledDesk.engine.store.tables.runs.map Run.status = [.queued] ∧
      troubledDesk.exchanges[3]?.bind Exchange.status? = some 409 := by
  have facts : (troubledDesk.exchanges[2]?.bind Exchange.status?,
      troubledDesk.exchanges[2]?.map Exchange.countsRuns,
      troubledDesk.engine.store.tables.runs.map Run.status,
      troubledDesk.exchanges[3]?.bind Exchange.status?) =
      (some 500, some true, [.queued], some 409) := by
    decide +kernel
  simp only [Prod.mk.injEq] at facts
  obtain ⟨answers, counts, queued, refused⟩ := facts
  obtain ⟨exchange, found, answered⟩ := Option.bind_eq_some_iff.1 answers
  obtain ⟨response, answered, status⟩ := Exchange.status?_eq_some_iff.1 answered
  refine ⟨exchange, response, found, answered, status, fun traceless => ?_, queued, refused⟩
  rw [found, Option.map_some, Option.some.injEq] at counts
  obtain ⟨act, done, more⟩ := List.any_eq_true.1 counts
  exact of_decide_eq_true more (by rw [(traceless.spares act done).tables])

end Sample

end Desk

end Service

end StepRunner
