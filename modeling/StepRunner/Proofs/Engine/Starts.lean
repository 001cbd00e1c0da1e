import StepRunner.Proofs.Engine.Trouble

/-!
This file shows that a start is all or nothing: it gives one run in the slot, or it leaves no trace.
-/

namespace StepRunner

open Rehearsal (Guard)

namespace Tables

variable {tables : Tables} {run : Run}

theorem id_ne_of_new (new : run.id ∉ tables.runs.map Run.id) {row : Run}
    (present : row ∈ tables.runs) : row.id ≠ run.id :=
  fun same => new (List.mem_map.2 ⟨row, present, same⟩)

/-- A change of a run that was just added concerns no other run. -/
theorem updateRun_of_added (new : run.id ∉ tables.runs.map Run.id) (change : Run → Run) :
    updateRun { tables with runs := tables.runs ++ [run] } run.id change =
      { tables with runs := tables.runs ++ [change run] } := by
  have others : (tables.runs.map fun row => if row.id = run.id then change row else row) =
      tables.runs := by
    conv_rhs => rw [← List.map_id tables.runs]
    exact List.map_congr_left fun row present => if_neg (id_ne_of_new new present)
  simp [updateRun, others]

/-- The removal of a run that was just added restores the tables. -/
theorem removeRuns_of_added (linked : tables.Linked) (new : run.id ∉ tables.runs.map Run.id)
    {test : Run → Bool} (chosen : test run = true)
    (only : ∀ row, test row = true → row.id = run.id) :
    removeRuns { tables with
      runs := tables.runs ++ [run]
      results := tables.results.filter fun result => result.runId ≠ run.id } test = tables := by
  have spared (row : Run) (present : row ∈ tables.runs) : test row = false := by
    by_contra removed
    exact id_ne_of_new new present (only row (by simpa using removed))
  have runs : (tables.runs ++ [run]).filter (!test ·) = tables.runs := by
    rw [List.filter_append, List.filter_eq_self.2 fun row present => by simp [spared row present]]
    simp [chosen]
  have removed : (tables.runs ++ [run]).filter test = [run] := by
    rw [List.filter_append,
      List.filter_eq_nil_iff.2 fun row present => by simp [spared row present]]
    simp [chosen]
  -- Results belong to stored runs, so none can belong to a run that was not stored before.
  have strange (result : StepResult) (present : result ∈ tables.results) :
      result.runId ≠ run.id := by
    obtain ⟨owner, owned, same⟩ := linked.results result present
    exact same ▸ id_ne_of_new new owned
  have results : (tables.results.filter fun result => decide (result.runId ≠ run.id)) =
      tables.results :=
    List.filter_eq_self.2 fun result present => by simpa using strange result present
  have kept : (tables.results.filter fun result => !([run].map Run.id).contains result.runId) =
      tables.results :=
    List.filter_eq_self.2 fun result present => by simpa using strange result present
  simp only [removeRuns, runs, removed, results, kept]

end Tables

namespace Store

variable {store after : Store} {run : Run}

/-- A queued run that was just inserted begins. -/
theorem moveRun_of_inserted (sound : store.tables.Sound) (queued : run.status = .queued)
    (inserted : store.insertRun run = .ok after) (now : Int) :
    after.moveRun now run.id .running none = .ok (moved run now .running none,
      store.withTables { store.tables with
        runs := store.tables.runs ++ [moved run now .running none] }) := by
  obtain ⟨new, owned, rfl⟩ := insertRun_eq inserted
  let tables : Tables := { store.tables with runs := store.tables.runs ++ [run] }
  have found : (store.withTables tables).tables.run? run.id = some run :=
    (sound.withRun new owned).keyed.run?_eq_some_iff.2 ⟨by simp, rfl⟩
  have written : (store.withTables tables).writeMove (moved run now .running none) =
      store.withTables { store.tables with
        runs := store.tables.runs ++ [moved run now .running none] } := by
    have updated := Tables.updateRun_of_added new fun row =>
      { row with
        status := (moved run now .running none).status
        startedAt := (moved run now .running none).startedAt
        endedAt := (moved run now .running none).endedAt
        error := (moved run now .running none).error }
    exact congrArg store.withTables updated
  rw [← written]
  simp [moveRun, checkMove, found, queued, RunStatus.canMoveTo, bind, Except.bind, pure,
    Except.pure, tables]

/-- The removal of a queued run that was just inserted restores the store. -/
theorem deleteQueuedRun_of_inserted (sound : store.tables.Sound) (queued : run.status = .queued)
    (inserted : store.insertRun run = .ok after) : (after.deleteQueuedRun run.id).2 = store := by
  obtain ⟨new, -, rfl⟩ := insertRun_eq inserted
  let removed (row : Run) : Bool := decide (row.id = run.id ∧ row.status = .queued)
  have chosen : removed run = true := by simp [removed, queued]
  have only (row : Run) (found : removed row = true) : row.id = run.id :=
    (of_decide_eq_true found).1
  exact congrArg store.withTables (Tables.removeRuns_of_added sound.linked new chosen only)

end Store

namespace Engine

variable {engine : Engine} {call : StartCall} {now : Int}

/--
The disk lets a start insert its run, but refuses both the move of the run and its removal.
Only then a start that fails leaves its run behind.
-/
def RefusesCleanup (engine : Engine) (call : StartCall) (now : Int) : Prop :=
  (∃ store, engine.mint.2.store.insertRun (queuedRun engine.mint.1 call now) = .ok store) ∧
    engine.refusals.take 3 = [false, true, true]

theorem take_of_heads {refusals : List Bool} (first : refusals.headD false = false)
    (second : refusals.tail.headD false = true)
    (third : refusals.tail.tail.headD false = true) : refusals.take 3 = [false, true, true] := by
  rcases refusals with _ | ⟨_, _ | ⟨_, _ | ⟨_, _⟩⟩⟩ <;> simp_all

/-- A start whose run is not inserted fails at once. -/
theorem storeRun_of_uninserted {after : Engine} {error : StoreError}
    (insertion : engine.mint.2.writeOnly (·.insertRun (queuedRun engine.mint.1 call now)) =
      (.error error, after)) :
    engine.storeRun call now = (.error (.ofStore error), after) := by
  simp only [storeRun, insertion]

section Inserted

variable {stored after : Engine}
  (insertion : engine.mint.2.writeOnly (·.insertRun (queuedRun engine.mint.1 call now)) =
    (.ok (), stored))

include insertion

/-- A start whose run is inserted and moved has stored the run. -/
theorem storeRun_of_moved {run : Run}
    (moves : stored.write (·.moveRun now engine.mint.1 .running none) = (.ok run, after)) :
    engine.storeRun call now = (.ok run, after) := by
  simp only [storeRun, insertion, moves]

/-- A start whose run is inserted and not moved tries to remove the run. -/
theorem storeRun_of_unmoved {error : StoreError}
    (fails : stored.write (·.moveRun now engine.mint.1 .running none) = (.error error, after)) :
    engine.storeRun call now =
      (.error (.ofStore error), (after.writeAlways (·.deleteQueuedRun engine.mint.1)).2) := by
  simp only [storeRun, insertion, fails]

end Inserted

/-- A start stores its run as running, or it leaves the tables as they were. -/
theorem storeRun_cases (sound : engine.store.tables.Sound)
    (cleans : ¬engine.RefusesCleanup call now) :
    (∃ error store refusals,
      engine.storeRun call now = (.error error, { engine with store, refusals }) ∧
        store.tables = engine.store.tables) ∨
      ∃ store refusals,
        engine.storeRun call now =
          (.ok (engine.startedRun call now), { engine with store, refusals }) ∧
        (engine.startedRun call now).id ∉ engine.store.tables.runs.map Run.id ∧
        store.tables = { engine.store.tables with
          runs := engine.store.tables.runs ++ [engine.startedRun call now] } := by
  let minted := engine.mint.2
  let run := queuedRun engine.mint.1 call now
  have tables : minted.store.tables.Sound := sound
  have queued : run.status = .queued := rfl
  rcases minted.writeOnly_cases (·.insertRun run) with
    ⟨error, insertion⟩ | ⟨after, first, inserted, insertion⟩
  · exact .inl ⟨.ofStore error, minted.store, minted.refusals.tail,
      storeRun_of_uninserted insertion, rfl⟩
  · let stored : Engine := { minted with store := after, refusals := minted.refusals.tail }
    cases second : stored.refusals.headD false with
    | false =>
      let begun := minted.store.withTables { minted.store.tables with
        runs := minted.store.tables.runs ++ [engine.startedRun call now] }
      have moves : stored.write (·.moveRun now engine.mint.1 .running none) =
          (.ok (engine.startedRun call now),
            { stored with store := begun, refusals := stored.refusals.tail }) :=
        write_of_healthy_of_accepted second
          (Store.moveRun_of_inserted tables queued inserted now)
      exact .inr ⟨begun, stored.refusals.tail, storeRun_of_moved insertion moves,
        (Store.insertRun_eq inserted).1, rfl⟩
    | true =>
      let failed : Engine := { stored with refusals := stored.refusals.tail }
      have fails : stored.write (·.moveRun now engine.mint.1 .running none) =
          (.error (.database .disk), failed) := write_of_faulty second
      -- This is the only place where a run may be left behind.
      have third : failed.refusals.headD false = false := by
        by_contra faulty
        rw [Bool.not_eq_false] at faulty
        exact cleans ⟨⟨after, inserted⟩, take_of_heads first second faulty⟩
      have removes : (failed.writeAlways (·.deleteQueuedRun engine.mint.1)).2 =
          { failed with store := minted.store, refusals := failed.refusals.tail } := by
        rw [writeAlways, write_of_healthy third]
        have restored := Store.deleteQueuedRun_of_inserted tables queued inserted
        exact congrArg (fun store => { failed with store, refusals := failed.refusals.tail })
          restored
      have unmoved := storeRun_of_unmoved insertion fails
      rw [removes] at unmoved
      exact .inl ⟨.ofStore (.database .disk), minted.store, failed.refusals.tail, unmoved, rfl⟩

/-- A start whose cleanup is refused leaves its run behind, which nobody has begun. -/
theorem storeRun_of_refusesCleanup (refuses : engine.RefusesCleanup call now) :
    ∃ error store refusals,
      engine.storeRun call now = (.error error, { engine with store, refusals }) ∧
        (queuedRun engine.mint.1 call now).id ∉ engine.store.tables.runs.map Run.id ∧
        store.tables = { engine.store.tables with
          runs := engine.store.tables.runs ++ [queuedRun engine.mint.1 call now] } := by
  obtain ⟨⟨store, inserted⟩, taken⟩ := refuses
  let minted := engine.mint.2
  let run := queuedRun engine.mint.1 call now
  have heads : minted.refusals = false :: true :: true :: engine.refusals.drop 3 := by
    rw [← List.take_append_drop 3 minted.refusals]
    exact congrArg (· ++ engine.refusals.drop 3) taken
  obtain ⟨new, -, made⟩ := Store.insertRun_eq inserted
  let stored : Engine := { minted with store, refusals := minted.refusals.tail }
  let failed : Engine := { stored with refusals := stored.refusals.tail }
  have accepted : (minted.store.insertRun run).map (fun store => ((), store)) = .ok ((), store) :=
    congrArg (Except.map _) inserted
  have insertion : minted.writeOnly (·.insertRun run) = (.ok (), stored) :=
    write_of_healthy_of_accepted (by rw [heads]; rfl) accepted
  have fails : stored.write (·.moveRun now engine.mint.1 .running none) =
      (.error (.database .disk), failed) :=
    write_of_faulty (by simp only [stored, heads]; rfl)
  have stays : (failed.writeAlways (·.deleteQueuedRun engine.mint.1)).2 =
      { failed with refusals := failed.refusals.tail } :=
    congrArg Prod.snd (write_of_faulty (by simp only [failed, stored, heads]; rfl))
  have unmoved := storeRun_of_unmoved insertion fails
  rw [stays] at unmoved
  exact ⟨_, store, failed.refusals.tail, unmoved, new, congrArg Store.tables made⟩

end Engine

namespace System

variable {sessions : Nat → Session} {system : System} {call : StartCall}

/-- A start holds the slot and waits for its browser engine. -/
structure Waits (system : System) (call : StartCall) : Prop where
  waiting : system.waiting = [call]
  held : system.engine.registry.slot = (Guard.reserved call.reservation).slot

/-- A start has claimed the free slot for a test case and has changed nothing else. -/
structure Claimed (before after : System) (testCaseId : String) (call : StartCall) : Prop where
  free : before.engine.registry.slot = .empty
  testCase : before.engine.store.tables.testCase? testCaseId = some call.testCase
  reservation : call.reservation.projectId = call.testCase.projectId ∧
    call.reservation.testCaseId = call.testCase.id
  waits : after.Waits call
  rest : after = ⟨{ before.engine with registry := after.engine.registry }, [call]⟩

/-- A start has given up the slot and has changed nothing that anybody sees. -/
structure Withdrawn (before after : System) : Prop where
  tables : after.engine.store.tables = before.engine.store.tables
  announcements : after.engine.announcements = before.engine.announcements
  tasks : after.engine.tasks = before.engine.tasks
  free : after.engine.registry.slot = .empty
  waiting : after.waiting = []

/-- A start has given its run: one new row that is running, one event, one task, and the slot. -/
structure Started (before after : System) (call : StartCall) (number : Nat) (run : Run) :
    Prop where
  new : run.id ∉ before.engine.store.tables.runs.map Run.id
  tables : after.engine.store.tables =
    { before.engine.store.tables with runs := before.engine.store.tables.runs ++ [run] }
  running : run.status = .running ∧ run.endedAt = none
  testCase : run.testCaseId = call.testCase.id
  held : after.engine.registry.slot = .active call.reservation.ticket
    ⟨run.id, call.reservation.projectId, call.reservation.testCaseId⟩
  told : after.engine.events =
    before.engine.events ++ [.runStarted run.id call.testCase.id call.browser]
  task : number = before.engine.tasks.length ∧ ∃ task,
    after.engine.tasks = before.engine.tasks ++ [task] ∧ task.run = run ∧ task.stage = .launching
  waiting : after.waiting = []

namespace Orderly

/-- A start that waits holds the slot. -/
theorem waits (orderly : system.Orderly) (waiting : system.waiting = [call]) :
    system.Waits call where
  waiting
  held := (orderly.serves.held_iff _).2 (by simp [guards, waiting])

/-- A start that is refused changes nothing, and one that is let in claims the free slot. -/
theorem claimed (orderly : system.Orderly) {testCaseId : String} {browser : Browser}
    {options : RunOptions} {engine : Engine}
    (prepared : system.engine.prepare testCaseId browser options = .ok (call, engine))
    (sessions : Nat → Session) (now : Int) :
    system.Claimed (system.step sessions ⟨now, .begin testCaseId browser options⟩) testCaseId
      call := by
  have later := orderly.step sessions ⟨now, .begin testCaseId browser options⟩
  obtain ⟨-, found, -, -, -, -, registry, reserved, rfl⟩ := Engine.prepare_eq prepared
  obtain ⟨free, reservation, -⟩ := Registry.reserve_eq_ok_iff.1 reserved
  have nobody : system.waiting = [] := by
    have alone := orderly.serves.free_iff.1 free
    simpa using (List.append_eq_nil_iff.1 alone).1
  simp only [System.step, prepared, nobody, List.nil_append] at later ⊢
  exact
    { free
      testCase := found
      reservation := by simp [reservation]
      waits := later.waits rfl
      rest := rfl }

/-- Nobody else is let in while a start waits. -/
theorem refuses (orderly : system.Orderly) (waits : system.Waits call) {testCaseId : String}
    {browser : Browser} {options : RunOptions} (now : Int) :
    system.step sessions ⟨now, .begin testCaseId browser options⟩ = system := by
  cases prepared : system.engine.prepare testCaseId browser options with
  | error error => simp only [System.step, prepared]
  | ok result =>
    have claimed := orderly.claimed prepared sessions now
    exact absurd (waits.held.symm.trans claimed.free) (Guard.slot_ne_empty _)

/-- A start waits on until it is completed or dropped. -/
theorem waits_meet (orderly : system.Orderly) (waits : system.Waits call) {incident : Incident}
    (unsettled : incident.settles = false) : (system.meet sessions incident).Waits call := by
  refine (orderly.meet sessions incident).waits ?_
  cases incident with
  | store operation => exact waits.waiting
  | disk refusals => exact waits.waiting
  | turn turn =>
    obtain ⟨now, move⟩ := turn
    cases move with
    | begin testCaseId browser options =>
      rw [System.meet, orderly.refuses waits now]
      exact waits.waiting
    | conclude index installed => cases unsettled
    | abandon index => cases unsettled
    | _ => exact waits.waiting

theorem waits_through (orderly : system.Orderly) (waits : system.Waits call)
    {meanwhile : List Incident} (unsettled : ∀ incident ∈ meanwhile, incident.settles = false) :
    (system.through sessions meanwhile).Waits call := by
  induction meanwhile generalizing system with
  | nil => exact waits
  | cons incident meanwhile inductionHypothesis =>
    obtain ⟨first, others⟩ := List.forall_mem_cons.1 unsettled
    exact inductionHypothesis (orderly.meet sessions incident) (orderly.waits_meet waits first)
      others

end Orderly

namespace Waits

variable {now : Int}

/-- A start that gives up after it has restored the tables leaves no trace. -/
theorem withdrawn (waits : system.Waits call) {store : Store} {refusals : List Bool}
    (restored : store.tables = system.engine.store.tables) :
    system.Withdrawn ⟨{ system.engine with store, refusals }.abandon call, []⟩ where
  tables := restored
  announcements := rfl
  tasks := rfl
  free := by
    have released := Registry.release_of_held waits.held
    exact congrArg Registry.slot released
  waiting := rfl

theorem abandon (waits : system.Waits call) (sessions : Nat → Session) (now : Int) :
    system.Withdrawn (system.step sessions ⟨now, .abandon 0⟩) := by
  simp only [step, waits.waiting]
  exact waits.withdrawn rfl

theorem step_conclude (waits : system.Waits call) (sessions : Nat → Session)
    (installed : Except String Unit) (now : Int) :
    system.step sessions ⟨now, .conclude 0 installed⟩ =
      ⟨(system.engine.conclude call installed now).2, []⟩ := by
  simp only [step, waits.waiting]
  rfl

/-- A start that ends its wait is withdrawn or has given its run, as it answers. -/
theorem conclude (waits : system.Waits call) (sound : system.engine.store.tables.Sound)
    (sessions : Nat → Session) (installed : Except String Unit)
    (cleans : ¬system.engine.RefusesCleanup call now) :
    match (system.engine.conclude call installed now).1 with
    | .error _ => system.Withdrawn (system.step sessions ⟨now, .conclude 0 installed⟩)
    | .ok (number, run) =>
      system.Started (system.step sessions ⟨now, .conclude 0 installed⟩) call number run := by
  rw [waits.step_conclude sessions installed now]
  cases installed with
  | error reason => exact waits.withdrawn rfl
  | ok _ =>
    rcases Engine.storeRun_cases sound cleans with
      ⟨error, store, refusals, outcome, restored⟩ | ⟨store, refusals, outcome, new, tables⟩
    · simp only [Engine.conclude, outcome]
      exact waits.withdrawn restored
    · simp only [Engine.conclude, outcome]
      exact
        { new
          tables
          running := ⟨rfl, rfl⟩
          testCase := rfl
          held := rfl
          told := Engine.events_emit _
          task := ⟨rfl, _, rfl, rfl, rfl⟩
          waiting := rfl }

end Waits

/-- A start of a test case has begun in a system, and it still waits whatever has happened since. -/
def Pending (sessions : Nat → Session) (system : System) (testCaseId : String) (browser : Browser)
    (options : RunOptions) (call : StartCall) (later : System) : Prop :=
  ∃ engine now meanwhile,
    system.engine.prepare testCaseId browser options = .ok (call, engine) ∧
    (∀ incident ∈ meanwhile, incident.settles = false) ∧
    later = (system.step sessions ⟨now, .begin testCaseId browser options⟩).through sessions
      meanwhile

/--
A start of a test case is all or nothing.
If it is refused, it changes nothing; else it only claims the free slot, and keeps it as long as it
waits.
If it is dropped meanwhile, or fails in the end, it has left no trace; else it has given one run.
-/
structure AllOrNothing (sessions : Nat → Session) (system : System) (testCaseId : String)
    (browser : Browser) (options : RunOptions) : Prop where
  refused : ∀ error, system.engine.prepare testCaseId browser options = .error error → ∀ now,
    system.step sessions ⟨now, .begin testCaseId browser options⟩ = system
  claimed : ∀ call engine, system.engine.prepare testCaseId browser options = .ok (call, engine) →
    ∀ now, system.Claimed (system.step sessions ⟨now, .begin testCaseId browser options⟩)
      testCaseId call
  waits : ∀ call later, Pending sessions system testCaseId browser options call later →
    later.Waits call
  dropped : ∀ call later, Pending sessions system testCaseId browser options call later → ∀ now,
    later.Withdrawn (later.step sessions ⟨now, .abandon 0⟩)
  settled : ∀ call later, Pending sessions system testCaseId browser options call later →
    ∀ now installed, ¬later.engine.RefusesCleanup call now →
    match (later.engine.conclude call installed now).1 with
    | .error _ => later.Withdrawn (later.step sessions ⟨now, .conclude 0 installed⟩)
    | .ok (number, run) =>
      later.Started (later.step sessions ⟨now, .conclude 0 installed⟩) call number run

/-- Every start of a system is all or nothing, whatever the system has met. -/
theorem allOrNothing_through {store : Store} (sound : store.tables.Sound) (artifacts : Artifacts)
    (options : RunOptions) (sessions : Nat → Session) (incidents : List Incident)
    (testCaseId : String) (browser : Browser) (runOptions : RunOptions) :
    AllOrNothing sessions ((opened store artifacts options).through sessions incidents) testCaseId
      browser runOptions := by
  have orderly := (Orderly.opened sound artifacts options).through sessions incidents
  generalize (opened store artifacts options).through sessions incidents = system at orderly
  have pending {call : StartCall} {later : System}
      (pending : Pending sessions system testCaseId browser runOptions call later) :
      later.Orderly ∧ later.Waits call := by
    obtain ⟨engine, now, meanwhile, prepared, unsettled, rfl⟩ := pending
    have begun := orderly.step sessions ⟨now, .begin testCaseId browser runOptions⟩
    have claimed := orderly.claimed prepared sessions now
    exact ⟨begun.through sessions meanwhile, begun.waits_through claimed.waits unsettled⟩
  exact
    { refused := fun error refusal now => by simp only [step, refusal]
      claimed := fun call engine prepared now => orderly.claimed prepared sessions now
      waits := fun call later waiting => (pending waiting).2
      dropped := fun call later waiting now => (pending waiting).2.abandon sessions now
      settled := fun call later waiting now installed cleans =>
        (pending waiting).2.conclude (pending waiting).1.tables sessions installed cleans }

section Sample

/-- A new system that has created a test case. -/
def sampleShop : System :=
  (opened {} default sampleOptions).through (fun _ => .prompt) (sampleCreation.map .turn)

/-- A start of the test case waits while the disk comes to refuse the second of the next writes. -/
def sampleFault : System :=
  (sampleShop.step (fun _ => .prompt) ⟨1, .begin (Store.idOf 1) .chromium sampleOptions⟩).through
    (fun _ => .prompt) [.disk [false, true]]

/-- The start of the sample fails after it has inserted its run, and it leaves no trace. -/
theorem withdrawn_after_sampleFault :
    ∃ call error, Pending (fun _ => .prompt) sampleShop (Store.idOf 1) .chromium sampleOptions call
        sampleFault ∧
      (sampleFault.engine.conclude call (.ok ()) 3).1 = .error error ∧
      sampleFault.Withdrawn
        (sampleFault.step (fun _ => .prompt) ⟨3, .conclude 0 (.ok ())⟩) := by
  have sound : ({} : Store).tables.Sound := .empty
  have whole := allOrNothing_through sound default sampleOptions (fun _ => .prompt)
    (sampleCreation.map .turn) (Store.idOf 1) .chromium sampleOptions
  have allowed :
      (sampleShop.engine.prepare (Store.idOf 1) .chromium sampleOptions).isOk = true := by
    decide +kernel
  have fails : sampleFault.waiting.all (fun call =>
      !(sampleFault.engine.conclude call (.ok ()) 3).1.isOk) = true := by
    decide +kernel
  cases prepared : sampleShop.engine.prepare (Store.idOf 1) .chromium sampleOptions with
  | error error => simp [prepared, Except.isOk, Except.toBool] at allowed
  | ok result =>
    have pending : Pending (fun _ => .prompt) sampleShop (Store.idOf 1) .chromium sampleOptions
        result.1 sampleFault :=
      ⟨result.2, 1, [.disk [false, true]], prepared, by simp [Incident.settles], rfl⟩
    have cleans : ¬sampleFault.engine.RefusesCleanup result.1 3 := by
      rintro ⟨-, refusals⟩
      cases refusals
    have settled := whole.settled result.1 sampleFault pending 3 (.ok ()) cleans
    rw [(whole.waits result.1 sampleFault pending).waiting] at fails
    cases answer : (sampleFault.engine.conclude result.1 (.ok ()) 3).1 with
    | error error =>
      rw [answer] at settled
      exact ⟨result.1, error, pending, answer, settled⟩
    | ok value => simp [answer, Except.isOk, Except.toBool] at fails

end Sample

end System

end StepRunner
