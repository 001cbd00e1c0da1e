import StepRunner.Proofs.Engine.Apart
import StepRunner.Proofs.Engine.Readings
import StepRunner.Proofs.Engine.Starts
import StepRunner.Proofs.Store.Rolls

/-!
This file follows the roll of the runs through all that happens to a system, whatever the disk
refuses.
A start that stores its run enters it at the end of the roll, and nobody is struck off but with a
test case.
-/

namespace StepRunner

namespace Engine

variable {engine : Engine}

section Runs

theorem roll_write (sound : engine.store.tables.Sound) {α : Type}
    (change : Store → Except StoreError (α × Store)) {operation : Store.Operation}
    (records : operation.records = true) (quiet : operation.IsQuiet)
    (accords : engine.store.accepting ((change engine.store).map Prod.snd) =
      engine.store.perform operation) :
    (engine.write change).2.store.tables.roll = engine.store.tables.roll := by
  cases condition : engine.refusals.headD false with
  | true => rw [write_of_faulty condition]
  | false =>
    rw [write_of_healthy condition, accords]
    exact Store.roll_perform sound records quiet

theorem roll_writeOnly (sound : engine.store.tables.Sound)
    (change : Store → Except StoreError Store) {operation : Store.Operation}
    (records : operation.records = true) (quiet : operation.IsQuiet)
    (accords : engine.store.accepting (change engine.store) = engine.store.perform operation) :
    (engine.writeOnly change).2.store.tables.roll = engine.store.tables.roll := by
  refine roll_write sound _ records quiet ?_
  rw [← accords]
  cases change engine.store <;> rfl

theorem finalStatus_ne_running (cancelled failed : Bool) :
    finalStatus cancelled failed ≠ .running := by
  cases cancelled <;> cases failed <;> exact nofun

theorem roll_finalize (sound : engine.store.tables.Sound) (number : Nat) (task : RunTask)
    (fatal : Option String) (failed : Bool) (now : Int) :
    (engine.finalize number task fatal failed now).store.tables.roll =
      engine.store.tables.roll := by
  let status := finalStatus (engine.registry.cancelRequested task.active) (fatal.isSome || failed)
  have other : status ≠ .running := finalStatus_ne_running _ _
  have quiet : (Store.Operation.moveRun now task.run.id status fatal).IsQuiet := other
  have kept := roll_write sound (·.moveRun now task.run.id status fatal) rfl quiet rfl
  exact kept

theorem roll_beginStep (sound : engine.store.tables.Sound) (number : Nat) (task : RunTask)
    (step : Step) (rest : List Step) (now : Int) :
    (engine.beginStep number task step rest now).store.tables.roll = engine.store.tables.roll := by
  let result := pendingResult engine.mint.1 task.run step now
  have quiet : (Store.Operation.insertResult result).IsQuiet := trivial
  have unminted : engine.mint.2.store.tables.Sound := sound
  have inserted := roll_writeOnly unminted (·.insertResult result) rfl quiet rfl
  simp only [beginStep]
  generalize engine.mint.2.writeOnly _ = outcome at inserted ⊢
  obtain ⟨_ | _, after⟩ := outcome
  · exact inserted
  · cases step.action? <;> exact inserted

theorem roll_endStep (sound : engine.store.tables.Sound) (number : Nat) (task : RunTask)
    (result : StepResult) (failure path : Option String) (rest : List Step) (now : Int) :
    (engine.endStep number task result failure path rest now).store.tables.roll =
      engine.store.tables.roll := by
  let outcome :=
    decidedResult (engine.registry.cancelRequested task.active) result failure path now
  have quiet : (Store.Operation.finishResult outcome).IsQuiet := trivial
  have finished := roll_writeOnly sound (·.finishResult outcome) rfl quiet rfl
  simp only [endStep_eq_match]
  generalize engine.writeOnly _ = written at finished ⊢
  obtain ⟨_ | _, after⟩ := written <;> exact finished

/-- A run in progress writes nothing on the roll. -/
theorem roll_proceed (sound : engine.store.tables.Sound) (session : Session) (number : Nat)
    (now : Int) :
    (engine.proceed session number now).store.tables.roll = engine.store.tables.roll := by
  simp only [proceed]
  cases found : engine.task? number with
  | none => rfl
  | some task =>
    simp only
    cases stage : task.stage with
    | launching =>
      simp only [launched, found, stage]
      split
      · exact roll_finalize sound ..
      · rfl
    | ready rest =>
      simp only [advance, found, stage]
      cases rest with
      | nil => rfl
      | cons step rest =>
        simp only
        split
        · rfl
        · exact roll_beginStep sound ..
    | acting result action rest =>
      simp only [acted, found, stage]
      rfl
    | photographing result failure rest =>
      simp only [photographed, found, stage]
      split
      · rfl
      · exact roll_endStep sound ..
    | storing result failure picture rest =>
      simp only [stored, found, stage]
      have kept := @roll_endStep
        { engine with artifacts := (engine.artifacts.capture task.run.id result.stepId picture).2 }
        sound number task result failure
        (engine.artifacts.capture task.run.id result.stepId picture).1.toOption rest now
      exact kept
    | closing fault =>
      simp only [closed, found, stage]
      cases fault with
      | none => exact roll_finalize sound ..
      | some fault =>
        have quiet : (Store.Operation.failPending now task.run.id fault).IsQuiet := trivial
        have failed := roll_write sound (fun store => .ok (store.failPending now task.run.id fault))
          rfl quiet rfl
        have rests : engine.Rests (engine.writeAlways (·.failPending now task.run.id fault)).2 :=
          .writeAlways (.failPending now task.run.id fault) rfl
        exact (roll_finalize (rests.sound sound) ..).trans failed
    | ended run => rfl
    | panicked => rfl

end Runs

section Catalogue

theorem strikes_write (sound : engine.store.tables.Sound) {α : Type}
    {change : Store → Except StoreError (α × Store)} {operation : Store.Operation}
    (quiet : operation.IsQuiet)
    (accords : engine.store.accepting ((change engine.store).map Prod.snd) =
      engine.store.perform operation) :
    engine.store.tables.Strikes (engine.write change).2.store.tables := by
  cases condition : engine.refusals.headD false with
  | true =>
    rw [write_of_faulty condition]
    exact .of_runs sound.linked rfl
  | false =>
    rw [write_of_healthy condition, accords]
    exact Store.strikes_perform sound quiet

/-- A deletion strikes off the runs of the test cases that it removes. -/
theorem strikes_delete (sound : engine.store.tables.Sound) {remove : Store → Bool × Store}
    {operation : Store.Operation} (quiet : operation.IsQuiet)
    (accords : (remove engine.store).2 = engine.store.perform operation)
    (check : Except EngineError Unit) (missing : EngineError) (runIds : List String) :
    engine.store.tables.Strikes
      (engine.delete check missing runIds remove).2.store.tables := by
  have removed : engine.store.tables.Strikes (engine.writeAlways remove).2.store.tables :=
    strikes_write sound quiet accords
  unfold Engine.delete
  split
  · exact .of_runs sound.linked rfl
  · generalize engine.writeAlways remove = outcome at removed ⊢
    obtain ⟨_ | _ | _, after⟩ := outcome <;> exact removed

end Catalogue

end Engine

namespace System

/-- The run that a start gives in a turn. -/
def given? (system : System) (turn : Turn) : Option Run :=
  match turn.move with
  | .conclude index installed =>
    system.waiting[index]?.bind fun call =>
      (system.engine.conclude call installed turn.now).1.toOption.map Prod.snd
  | _ => none

/-- A start fails in a turn and leaves its run behind. -/
def Leaves (system : System) (turn : Turn) : Prop :=
  ∃ index call, turn.move = .conclude index (.ok ()) ∧ system.waiting[index]? = some call ∧
    system.engine.RefusesCleanup call turn.now

/-- The run that a start gives in an occurrence. -/
def granted? (system : System) (occurrence : Occurrence) : Option Run :=
  occurrence.turn?.bind (system.facing occurrence).given?

/-- What an occurrence enters on the roll. -/
def entered (system : System) (occurrence : Occurrence) : List Entry :=
  (system.occur occurrence).engine.store.tables.roll.filter fun entry =>
    entry.runId ∉ system.engine.store.tables.runs.map Run.id

/-- A turn enters a new run at the end of the roll, where a start gives the run or leaves it. -/
structure Enters (system : System) (turn : Turn) (run : Run) (after : Tables) : Prop where
  id : run.id = Store.idOf system.engine.store.minted
  startedAt : run.startedAt = turn.now
  tables : after =
    { system.engine.store.tables with runs := system.engine.store.tables.runs ++ [run] }
  given : system.given? turn = some run ∨ system.given? turn = none ∧ system.Leaves turn

variable {system : System} {occurrence : Occurrence} {turn : Turn} {record : List Entry}

section Steps

/-- A start that ends its wait enters its run, or it gives none and leaves the roll alone. -/
theorem rolls_conclude (sound : system.engine.store.Sound) {index : Nat} {call : StartCall}
    (waits : system.waiting[index]? = some call) (installed : Except String Unit) (now : Int) :
    (system.engine.store.tables.Strikes
        (system.engine.conclude call installed now).2.store.tables ∧
      system.given? ⟨now, .conclude index installed⟩ = none) ∨
      ∃ run, system.Enters ⟨now, .conclude index installed⟩ run
        (system.engine.conclude call installed now).2.store.tables := by
  have answer : system.given? ⟨now, .conclude index installed⟩ =
      (system.engine.conclude call installed now).1.toOption.map Prod.snd := by
    simp only [given?, waits, Option.bind_some]
  have same : system.engine.store.tables.Strikes system.engine.store.tables :=
    .of_runs sound.tables.linked rfl
  cases installed with
  | error reason => exact .inl ⟨same, answer⟩
  | ok _ =>
    by_cases refuses : system.engine.RefusesCleanup call now
    · obtain ⟨error, store, refusals, outcome, -, tables⟩ :=
        Engine.storeRun_of_refusesCleanup refuses
      simp only [Engine.conclude, outcome] at answer ⊢
      exact .inr ⟨Engine.queuedRun system.engine.mint.1 call now, rfl, rfl, tables,
        .inr ⟨answer, index, call, rfl, waits, refuses⟩⟩
    · rcases Engine.storeRun_cases sound.tables refuses with
        ⟨error, store, refusals, outcome, tables⟩ | ⟨store, refusals, outcome, -, tables⟩
      · simp only [Engine.conclude, outcome] at answer ⊢
        refine .inl ⟨?_, answer⟩
        change system.engine.store.tables.Strikes store.tables
        rwa [tables]
      · simp only [Engine.conclude, outcome] at answer ⊢
        exact .inr ⟨system.engine.startedRun call now, rfl, rfl, tables, .inl answer⟩

/-- A turn enters the run of a start, or it strikes runs off with their test cases only. -/
theorem rolls_step (sound : system.engine.store.Sound) (sessions : Nat → Session) (turn : Turn) :
    (system.engine.store.tables.Strikes (system.step sessions turn).engine.store.tables ∧
      system.given? turn = none) ∨
      ∃ run, system.Enters turn run (system.step sessions turn).engine.store.tables := by
  have later : (system.step sessions turn).engine.store.Sound :=
    (system.passes_occur (.turn sessions turn)).sound sound
  have same : system.engine.store.tables.Strikes system.engine.store.tables :=
    .of_runs sound.tables.linked rfl
  obtain ⟨now, move⟩ := turn
  cases move with
  | begin testCaseId browser options =>
    refine .inl ⟨?_, rfl⟩
    simp only [step]
    split
    · next prepared =>
      obtain ⟨-, -, -, -, -, -, registry, -, rfl⟩ := Engine.prepare_eq prepared
      exact same
    · exact same
  | conclude index installed =>
    simp only [step]
    split
    · next waits => exact rolls_conclude sound waits installed now
    · next nobody => exact .inl ⟨same, by simp only [given?, nobody, Option.bind_none]⟩
  | abandon index =>
    refine .inl ⟨?_, rfl⟩
    simp only [step]
    split <;> exact same
  | proceed number =>
    have kept := Engine.roll_proceed sound.tables (sessions number) number now
    exact .inl ⟨.of_same later.tables.linked kept, rfl⟩
  | breakDown number =>
    refine .inl ⟨?_, rfl⟩
    simp only [step, change, Engine.brokeDown]
    split
    · exact same
    · split <;> exact same
  | cancel runId => exact .inl ⟨same, rfl⟩
  | createProject name =>
    have quiet : (Store.Operation.createProject now name).IsQuiet := trivial
    exact .inl ⟨Engine.strikes_write sound.tables quiet rfl, rfl⟩
  | createTestCase projectId title lines =>
    refine .inl ⟨?_, rfl⟩
    simp only [step, change, Engine.createTestCase]
    split
    · exact same
    · next drafts _ =>
      have quiet : (Store.Operation.createTestCase now projectId title drafts).IsQuiet := trivial
      exact Engine.strikes_write sound.tables quiet rfl
  | updateSteps testCaseId lines =>
    refine .inl ⟨?_, rfl⟩
    simp only [step, change, Engine.updateSteps]
    split
    · exact same
    · next drafts _ =>
      have quiet : (Store.Operation.replaceSteps now testCaseId drafts).IsQuiet := trivial
      exact Engine.strikes_write sound.tables quiet rfl
  | deleteProject id =>
    have quiet : (Store.Operation.deleteProject id).IsQuiet := trivial
    exact .inl ⟨Engine.strikes_delete sound.tables quiet rfl .., rfl⟩
  | deleteTestCase id =>
    have quiet : (Store.Operation.deleteTestCase id).IsQuiet := trivial
    exact .inl ⟨Engine.strikes_delete sound.tables quiet rfl .., rfl⟩
  | read path variant => exact .inl ⟨same, rfl⟩
  | install change => exact .inl ⟨same, rfl⟩

/-- Before a crash the store is as it is. -/
theorem store_facing (system : System) (occurrence : Occurrence) :
    (system.facing occurrence).engine.store = system.engine.store := by
  cases occurrence <;> rfl

/-- What an occurrence makes of the roll. -/
theorem rolls_occur (sound : system.engine.store.Sound) (occurrence : Occurrence) :
    (system.engine.store.tables.Strikes (system.occur occurrence).engine.store.tables ∧
      system.granted? occurrence = none) ∨
      ∃ turn run, occurrence.turn? = some turn ∧ (system.facing occurrence).Enters turn run
        (system.occur occurrence).engine.store.tables := by
  have same : system.engine.store.tables.Strikes system.engine.store.tables :=
    .of_runs sound.tables.linked rfl
  cases occurrence with
  | turn sessions turn =>
    rcases rolls_step sound sessions turn with struck | ⟨run, enters⟩
    · exact .inl struck
    · exact .inr ⟨turn, run, rfl, enters⟩
  | crash sessions turn writes artifacts options =>
    have sound : (system.refuseAfter writes).engine.store.Sound := sound
    rcases rolls_step sound sessions turn with struck | ⟨run, enters⟩
    · exact .inl struck
    · exact .inr ⟨turn, run, rfl, enters⟩
  | disk refusals => exact .inl ⟨same, rfl⟩
  | restart artifacts options => exact .inl ⟨same, rfl⟩
  | recovery now =>
    have quiet : (Store.Operation.recover now).IsQuiet := trivial
    exact .inl ⟨Store.strikes_perform sound.tables quiet, rfl⟩
  | halfRecovery now =>
    have later := (system.passes_occur (.halfRecovery now)).sound sound
    exact .inl ⟨.of_runs later.tables.linked rfl, rfl⟩

theorem Enters.roll {run : Run} {after : Tables}
    (enters : (system.facing occurrence).Enters turn run after) :
    after.roll = system.engine.store.tables.roll ++ [run.entry] := by
  rw [enters.tables, store_facing, Tables.roll, List.map_append]
  rfl

/-- A run that is entered is new. -/
theorem Enters.new {run : Run} {after : Tables} (sound : system.engine.store.Sound)
    (enters : (system.facing occurrence).Enters turn run after) :
    run.id ∉ system.engine.store.tables.runs.map Run.id := by
  intro stored
  refine sound.spent_run stored _ le_rfl ?_
  rw [enters.id, store_facing]

theorem entered_of_strikes
    (strikes : system.engine.store.tables.Strikes
      (system.occur occurrence).engine.store.tables) : system.entered occurrence = [] := by
  rw [entered, strikes, List.filter_eq_nil_iff]
  intro entry among
  obtain ⟨run, present, rfl⟩ := List.mem_map.1 (List.mem_of_mem_filter among)
  simpa using ⟨run, present, rfl⟩

theorem Enters.entered_eq {run : Run} (sound : system.engine.store.Sound)
    (enters : (system.facing occurrence).Enters turn run
      (system.occur occurrence).engine.store.tables) : system.entered occurrence = [run.entry] := by
  have old : system.engine.store.tables.roll.filter
      (fun entry => entry.runId ∉ system.engine.store.tables.runs.map Run.id) = [] := by
    rw [List.filter_eq_nil_iff]
    intro entry among
    obtain ⟨row, present, rfl⟩ := List.mem_map.1 among
    simpa using ⟨row, present, rfl⟩
  rw [entered, enters.roll, List.filter_append, old, List.nil_append]
  have new : run.entry.runId ∉ system.engine.store.tables.runs.map Run.id := enters.new sound
  exact List.filter_eq_self.2 (by simpa using new)

end Steps

end System

end StepRunner
