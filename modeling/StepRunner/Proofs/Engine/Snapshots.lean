import StepRunner.Proofs.Engine.Apart
import StepRunner.Proofs.Store.Scripts

/-!
This file shows that a run carries out the steps as they were when its start has read them.
It compares an execution in which somebody writes the script of the test case meanwhile with the
execution in which nobody does, and it shows that what is written is stored all the same.
-/

namespace StepRunner

/-- What a browser is asked to do for a step of the run of a task. -/
structure Deed where
  number : Nat
  stepId : String
  order : Nat
  action : Action
  deriving DecidableEq, Repr

/-- What the browser of the task with a number is asked to do for a step. -/
def Step.deed? (number : Nat) (step : Step) : Option Deed :=
  step.action?.map fun action => ⟨number, step.id, step.order, action⟩

/-- What the browser of a task with a number is busy with. -/
def RunTask.deed? (number : Nat) (task : RunTask) : Option Deed :=
  match task.stage with
  | .acting result action _ => some ⟨number, result.stepId, result.order, action⟩
  | _ => none

/-- What a browser is asked to do at the end of a turn. -/
def Engine.deed? (engine : Engine) (turn : Turn) : Option Deed :=
  match turn.move with
  | .proceed number => (engine.task? number).bind (·.deed? number)
  | _ => none

/-- An engine with the same projects, test cases and steps, in which there has never been a run. -/
def Engine.quiet (engine : Engine) : Engine where
  store := engine.store.catalogue
  artifacts := engine.artifacts
  options := engine.options

namespace Turn

/-- Somebody writes the script of a test case in a turn. -/
def rewrites (id : String) (turn : Turn) : Bool :=
  match turn.move with
  | .updateSteps testCaseId _ => testCaseId = id
  | _ => false

/-- The script that somebody writes for a test case in a turn, if its lines can be read. -/
def script? (id : String) (turn : Turn) : Option (List StepDraft) :=
  match turn.move with
  | .updateSteps testCaseId lines =>
    if testCaseId = id then (StepDraft.ofLines lines).toOption else none
  | _ => none

/-- The last script that somebody writes for a test case in a history. -/
def lastScript? (id : String) : List Turn → Option (List StepDraft)
  | [] => none
  | turn :: later => (lastScript? id later).or (turn.script? id)

end Turn

namespace System

variable (sessions : Nat → Session)

/--
A turn in an execution in which nobody writes the script of a test case.
The ids that the steps of a script would get are left unused.
-/
def stepWithout (id : String) (system : System) (turn : Turn) : System :=
  match turn.move with
  | .updateSteps testCaseId lines =>
    if testCaseId = id then system.change (·.skipping (Engine.newIds lines))
    else system.step sessions turn
  | _ => system.step sessions turn

/-- The system after a history in which nobody writes the script of a test case. -/
def afterWithout (id : String) (system : System) (history : List Turn) : System :=
  history.foldl (stepWithout sessions id) system

/-- What the browsers are asked to do in a history, in which turns have some effect. -/
def deeds (advance : System → Turn → System) (system : System) : List Turn → List Deed
  | [] => []
  | turn :: history =>
    ((advance system turn).engine.deed? turn).toList ++ deeds advance (advance system turn) history

/-- A start or a run of a test case holds the slot before each turn of a history. -/
def occupied (id : String) (system : System) : List Turn → Bool
  | [] => true
  | turn :: history =>
    system.engine.registry.holdsTestCase id && occupied id (system.step sessions turn) history

/-- The system apart from the script of a test case. -/
def apart (system : System) (id : String) : System :=
  { system with engine := system.engine.apart id }

variable {sessions}
variable {system later real calm : System} {turn : Turn} {id : String}

section Shadow

/-- The test case of the start or the run that holds the slot exists. -/
theorem Consistent.known (consistent : system.Consistent)
    (held : system.engine.registry.holdsTestCase id = true) :
    (system.engine.store.tables.testCase? id).isNone = false := by
  have owned : ∃ projectId, system.engine.store.tables.Owns projectId id := by
    rcases consistent.phase with idle | ⟨call, starting⟩ | ⟨number, task, finished, running⟩
    · simp [Registry.holdsTestCase, idle.free] at held
    · simp only [Registry.holdsTestCase, starting.held, decide_eq_true_eq] at held
      exact ⟨_, held ▸ starting.sound.testCaseId ▸ starting.sound.owned⟩
    · simp only [Registry.holdsTestCase, running.held, decide_eq_true_eq] at held
      exact ⟨_, held ▸ running.sound.testCaseId ▸ running.sound.owned⟩
  obtain ⟨projectId, testCase, present, same, -⟩ := owned
  exact Tables.testCase?_known_iff.2 (List.mem_map.2 ⟨testCase, present, same⟩)

theorem slot_of_holds (held : system.engine.registry.holdsTestCase id = true) :
    system.engine.registry.slot ≠ .empty := by
  intro free
  simp [Registry.holdsTestCase, free] at held

/-- A turn that does not write the script does the same without it. -/
theorem Consistent.step_apart (consistent : system.Consistent)
    (held : system.engine.registry.holdsTestCase id = true) (other : turn.rewrites id = false) :
    (system.step sessions turn).apart id = (system.apart id).step sessions turn := by
  obtain ⟨now, move⟩ := turn
  have sound := consistent.store
  cases move with
  | begin testCaseId browser options =>
    have taken := slot_of_holds held
    obtain ⟨fault, refused⟩ := system.engine.prepare_of_held taken testCaseId browser options
    obtain ⟨error, again⟩ :=
      (system.engine.apart id).prepare_of_held taken testCaseId browser options
    simp only [System.step, refused, System.apart, again]
  | conclude index installed =>
    simp only [System.step, System.apart]
    cases system.waiting[index]? with
    | none => rfl
    | some call =>
      have concluded := system.engine.apart_conclude id call installed now
      simp only [← concluded, Engine.leave]
  | abandon index =>
    simp only [System.step, System.apart]
    cases system.waiting[index]? <;> rfl
  | proceed number =>
    exact congrArg (System.mk · system.waiting)
      (system.engine.apart_proceed id number (sessions number) now)
  | breakDown number =>
    exact congrArg (System.mk · system.waiting) (system.engine.apart_brokeDown id number)
  | cancel runId => rfl
  | createProject name =>
    have created := system.engine.apart_createProject id now name
    exact congrArg (System.mk · system.waiting) (congrArg Prod.snd created)
  | createTestCase projectId title lines =>
    have created := system.engine.apart_createTestCase sound (consistent.known held) now projectId
      title lines
    exact congrArg (System.mk · system.waiting) (congrArg Prod.snd created)
  | updateSteps testCaseId lines =>
    have different : testCaseId ≠ id := by simpa [Turn.rewrites] using other
    have updated := system.engine.apart_updateSteps sound different now lines
    exact congrArg (System.mk · system.waiting) (congrArg Prod.snd updated)
  | deleteProject projectId =>
    have deleted := system.engine.apart_deleteProject id projectId
    exact congrArg (System.mk · system.waiting) (congrArg Prod.snd deleted)
  | deleteTestCase testCaseId =>
    have deleted := system.engine.apart_deleteTestCase id testCaseId
    exact congrArg (System.mk · system.waiting) (congrArg Prod.snd deleted)
  | read path variant => rfl
  | install change => rfl

/-- More ids may be used up at any time. -/
theorem Consistent.skipping (consistent : system.Consistent) (count : Nat) :
    (system.change (·.skipping count)).Consistent := by
  have sound : Store.Sound ⟨system.engine.store.tables, system.engine.store.minted + count⟩ :=
    ⟨consistent.store.tables,
      fun number later => consistent.store.fresh number (Nat.le_of_add_right_le later)⟩
  exact consistent.aside ⟨_, system.engine.installs, system.engine.artifacts,
    .of_spares sound (Nat.le_add_right _ _) (fun _ _ => .refl), rfl⟩

/-- An execution in which somebody writes a script, and one in which nobody does. -/
structure Shadows (id : String) (real calm : System) : Prop where
  sound : real.Consistent
  calmSound : calm.Consistent
  same : real.apart id = calm.apart id

/-- Whatever does not look at the script is the same in both executions. -/
theorem Shadows.view {α : Type} (shadows : Shadows id real calm) (view : System → α)
    (blind : ∀ system, view (system.apart id) = view system) : view real = view calm := by
  rw [← blind real, shadows.same, blind]

/-- While its test case holds the slot, a script makes no difference in a turn but to itself. -/
theorem Shadows.step (shadows : Shadows id real calm) (sessions : Nat → Session)
    (held : real.engine.registry.holdsTestCase id = true) (turn : Turn) :
    Shadows id (real.step sessions turn) (calm.stepWithout sessions id turn) := by
  have kept : calm.engine.registry.holdsTestCase id = true :=
    (shadows.view (·.engine.registry.holdsTestCase id) fun _ => rfl) ▸ held
  obtain ⟨sound, calmSound, same⟩ := shadows
  have alike (other : turn.rewrites id = false) :
      Shadows id (real.step sessions turn) (calm.step sessions turn) := by
    refine ⟨sound.step sessions turn, calmSound.step sessions turn, ?_⟩
    rw [sound.step_apart held other, calmSound.step_apart kept other, same]
  obtain ⟨now, move⟩ := turn
  cases move with
  | updateSteps testCaseId lines =>
    by_cases own : testCaseId = id
    · subst own
      have left := Engine.apart_updateSteps_own sound.reliable sound.store (sound.known held) now
        lines
      have bare : calm.stepWithout sessions testCaseId ⟨now, .updateSteps testCaseId lines⟩ =
          calm.change (·.skipping (Engine.newIds lines)) := if_pos rfl
      rw [bare]
      refine ⟨sound.step sessions _, calmSound.skipping _, ?_⟩
      calc (real.step sessions ⟨now, .updateSteps testCaseId lines⟩).apart testCaseId
          = (real.apart testCaseId).change (·.skipping (Engine.newIds lines)) :=
            congrArg (System.mk · real.waiting) left
        _ = (calm.apart testCaseId).change (·.skipping (Engine.newIds lines)) := by rw [same]
    · have bare : calm.stepWithout sessions id ⟨now, .updateSteps testCaseId lines⟩ =
          calm.step sessions ⟨now, .updateSteps testCaseId lines⟩ := if_neg own
      rw [bare]
      exact alike (by simpa [Turn.rewrites] using own)
  | _ => exact alike rfl

/-- While its test case holds the slot, a script makes no difference but to itself. -/
theorem Shadows.after (shadows : Shadows id real calm) (sessions : Nat → Session)
    {history : List Turn} (occupied : real.occupied sessions id history = true) :
    Shadows id (real.after sessions history) (calm.afterWithout sessions id history) ∧
      real.deeds (System.step sessions) history =
        calm.deeds (System.stepWithout sessions id) history := by
  induction history generalizing real calm with
  | nil => exact ⟨shadows, rfl⟩
  | cons turn history inductionHypothesis =>
    obtain ⟨held, later⟩ := Bool.and_eq_true_iff.1 occupied
    have next := shadows.step sessions held turn
    obtain ⟨rest, deeds⟩ := inductionHypothesis next later
    have own := next.view (·.engine.deed? turn) fun _ => rfl
    refine ⟨rest, ?_⟩
    simp only [System.deeds, own, deeds]

end Shadow

section Snapshot

variable {sessions : Nat → Session} {number : Nat} {snapshot : List Step} {past : List Deed}

/-- The actions of the first steps of a snapshot. -/
def deedsOf (number : Nat) (snapshot : List Step) (count : Nat) : List Deed :=
  (snapshot.take count).filterMap (Step.deed? number)

/-- The holder of the slot carries out a snapshot, one step after the other. -/
inductive Performs (number : Nat) (snapshot : List Step) (past : List Deed) (system : System) :
    Prop where
  | awaiting (call : StartCall) (starting : system.Starting call) (read : call.steps = snapshot)
      (next : system.engine.tasks.length = number) (none : past = [])
  | underway (task : RunTask) (finished : List StepResult)
      (running : system.Running number task finished) (read : task.steps = snapshot)
      (begun : past = deedsOf number snapshot (task.rows finished).length)
  | free (idle : system.Idle)
      (read : ∀ task, system.engine.task? number = some task → task.steps = snapshot)
      (count : Nat) (begun : past = deedsOf number snapshot count)

namespace Performs

/-- A run with the slot is that of the snapshot. -/
theorem amid (performs : system.Performs number snapshot past) {other : Nat} {task : RunTask}
    {finished : List StepResult} (running : system.Running other task finished) :
    other = number ∧ task.steps = snapshot ∧
      past = deedsOf number snapshot (task.rows finished).length := by
  cases performs with
  | awaiting call starting read next none =>
    exact absurd (starting.held.symm.trans running.held) (by simp)
  | underway task rows again read begun =>
    obtain ⟨rfl, rfl, rfl⟩ := again.unique running
    exact ⟨rfl, read, begun⟩
  | free idle read count begun => exact absurd (idle.free.symm.trans running.held) (by simp)

/-- A start with the slot is that of the snapshot. -/
theorem before (performs : system.Performs number snapshot past) {call : StartCall}
    (starting : system.Starting call) :
    call.steps = snapshot ∧ system.engine.tasks.length = number ∧ past = [] := by
  cases performs with
  | awaiting other again read next none =>
    obtain rfl : other = call := by simpa using again.waiting.symm.trans starting.waiting
    exact ⟨read, next, none⟩
  | underway task rows running read begun =>
    exact absurd (starting.held.symm.trans running.held) (by simp)
  | free idle read count begun => exact absurd (idle.free.symm.trans starting.held) (by simp)

/-- What happens beside the holder of the slot adds nothing. -/
theorem beside (performs : system.Performs number snapshot past) {engine : Engine}
    (beside : system.engine.Beside engine) :
    (system.change fun _ => engine).Performs number snapshot past := by
  cases performs with
  | awaiting call starting read next none =>
    have starting := starting.beside beside
    obtain ⟨store, installs, artifacts, -, rfl⟩ := beside
    exact .awaiting call starting read next none
  | underway task finished running read begun =>
    exact .underway task finished (running.beside beside) read begun
  | free idle read count begun =>
    obtain ⟨store, installs, artifacts, -, rfl⟩ := beside
    exact .free ⟨idle.free, idle.waiting, idle.ceased⟩ read count begun

end Performs

section Deeds

variable {engine : Engine}

/-- A turn asks a browser for nothing if no task has turned to an action in it. -/
theorem deed?_eq_none
    (idle : ∀ number task, turn.move = .proceed number → engine.task? number = some task →
      task.deed? number = none) : engine.deed? turn = none := by
  obtain ⟨now, move⟩ := turn
  cases move with
  | proceed number =>
    simp only [Engine.deed?]
    cases found : engine.task? number with
    | none => rfl
    | some task => exact idle number task rfl found
  | _ => rfl

theorem deed?_of_proceed {task : RunTask} (own : turn.move = .proceed number)
    (found : engine.task? number = some task) : engine.deed? turn = task.deed? number := by
  simp only [Engine.deed?, own, found, Option.bind_some]

theorem deed?_of_settles (settles : turn.settles = true) : engine.deed? turn = none :=
  deed?_eq_none fun number _ proceeds => by simp [Turn.settles, proceeds] at settles

theorem deed?_of_isOver {task : RunTask} (ended : task.isOver = true) :
    task.deed? number = none := by
  unfold RunTask.deed?
  split
  · next stage => simp [RunTask.isOver, stage] at ended
  · rfl

theorem deed?_afterStep (task : RunTask) (status : StepStatus) (rest : List Step) :
    (Engine.afterStep status rest task).deed? number = none := by
  rcases Engine.stageAfter_cases task.options status rest with goes | stops
  · simp only [RunTask.deed?, Engine.afterStep, goes]
  · simp only [RunTask.deed?, Engine.afterStep, stops]

/-- The action of the next step follows those of the steps before. -/
theorem deedsOf_succ {count : Nat} {step : Step} (next : snapshot[count]? = some step) :
    deedsOf number snapshot (count + 1) =
      deedsOf number snapshot count ++ (step.deed? number).toList := by
  simp only [deedsOf, List.take_add_one, next, List.filterMap_append, Option.toList_some]
  cases given : step.deed? number <;> simp [given]

end Deeds

/-- A turn adds the action of a step that begins, and no other. -/
theorem Transition.performs (transition : Transition sessions system turn later)
    (consistent : system.Consistent) (performs : system.Performs number snapshot past)
    (taken : system.engine.registry.slot ≠ .empty) :
    later.Performs number snapshot (past ++ (later.engine.deed? turn).toList) := by
  have quiet (idle : later.engine.deed? turn = none)
      (next : later.Performs number snapshot past) :
      later.Performs number snapshot (past ++ (later.engine.deed? turn).toList) := by
    simpa [idle] using next
  cases transition with
  | aside unmoved beside =>
    refine quiet (deed?_eq_none fun other task proceeds found => ?_) (performs.beside beside)
    obtain ⟨store, installs, artifacts, -, rfl⟩ := beside
    exact deed?_of_isOver (unmoved.proceed other task proceeds found)
  | claimed idle call ticket testCaseId owned numbered => exact absurd idle.free taken
  | dropped call starting settles =>
    obtain ⟨read, next, none⟩ := performs.before starting
    refine quiet (deed?_of_settles settles) (.free ⟨rfl, rfl, starting.ceased⟩ ?_ 0 none)
    intro task found
    simp [Engine.task?, ← next] at found
  | started call starting settles =>
    obtain ⟨read, rfl, none⟩ := performs.before starting
    exact quiet (deed?_of_settles settles)
      (.underway _ _ (starting.started consistent.store turn.now) read none)
  | stopped running asked =>
    obtain ⟨rfl, read, begun⟩ := performs.amid running
    refine quiet (deed?_eq_none fun _ _ proceeds => ?_)
      (.underway _ _ (running.stopped _) read begun)
    simp [asked] at proceeds
  | passed running own passes =>
    obtain ⟨rfl, read, begun⟩ := performs.amid running
    obtain ⟨-, rows⟩ := running.sound.trail.passes passes
    have next := running.passed passes
    refine quiet ((deed?_of_proceed own next.found).trans ?_)
      (.underway _ _ next read (rows ▸ begun))
    cases passes <;> rfl
  | @begun _ task finished running own step rest stage goes =>
    obtain ⟨rfl, read, begun⟩ := performs.amid running
    have next := running.begun stage turn.now
    have idle : task.rows finished = finished := by simp [RunTask.rows, RunTask.pending?, stage]
    obtain ⟨-, rows⟩ := running.sound.trail.begun
      (system.engine.begunResult task step turn.now) stage rfl rfl rfl
    obtain ⟨present, -⟩ := running.sound.trail.step_of_ready stage
    refine .underway _ _ next read ?_
    rw [deed?_of_proceed own next.found, rows, List.length_append, List.length_singleton, idle,
      deedsOf_succ (read ▸ present), begun, idle]
    congr 2
    unfold RunTask.deed? Engine.begunStage Step.deed?
    cases step.action? <;> rfl
  | decided running own decides made artifacts store sound minted testCases runs results =>
    obtain ⟨rfl, read, begun⟩ := performs.amid running
    have next := running.decided decides made artifacts testCases runs results
    refine quiet ((deed?_of_proceed own next.found).trans ?_) (.underway _ _ next read ?_)
    · exact deed?_afterStep ..
    · simp only [begun, RunTask.rows, decides.pending?_eq, RunTask.pending?_afterStep,
        List.length_append, Option.toList_some, Option.toList_none, List.length_singleton,
        List.length_nil, Nat.add_zero]
  | ended running own ends =>
    obtain ⟨rfl, read, begun⟩ := performs.amid running
    refine quiet ((deed?_of_proceed own (running.found_updateTask _)).trans rfl)
      (.free ⟨rfl, running.waiting, running.over_of_changed rfl⟩ (fun task same => ?_) _ begun)
    obtain rfl := Option.some.inj (same.symm.trans (running.found_updateTask _))
    exact read
  | brokeDown running fault =>
    obtain ⟨rfl, read, begun⟩ := performs.amid running
    refine quiet (deed?_eq_none fun _ _ proceeds => ?_)
      (.free ⟨rfl, running.waiting, running.over_of_changed rfl⟩ (fun task same => ?_) _ begun)
    · simp [fault] at proceeds
    · obtain rfl := Option.some.inj (same.symm.trans (running.found_updateTask _))
      exact read

/-- A history adds the actions of the steps that begin in it, and no others. -/
theorem Performs.after (performs : system.Performs number snapshot past)
    (consistent : system.Consistent) {history : List Turn}
    (occupied : system.occupied sessions id history = true) :
    (system.after sessions history).Performs number snapshot
      (past ++ system.deeds (System.step sessions) history) := by
  induction history generalizing system past with
  | nil => simpa [System.after, deeds] using performs
  | cons turn history inductionHypothesis =>
    obtain ⟨held, later⟩ := Bool.and_eq_true_iff.1 occupied
    have next := (consistent.transition sessions turn).performs consistent performs
      (slot_of_holds held)
    have rest := inductionHypothesis next (consistent.step sessions turn) later
    rwa [List.append_assoc] at rest

/-- The task that carries out a snapshot keeps it. -/
theorem Performs.steps (performs : system.Performs number snapshot past) :
    ∀ task, system.engine.task? number = some task → task.steps = snapshot := by
  intro task found
  cases performs with
  | awaiting call starting read next none => simp [Engine.task?, ← next] at found
  | underway other finished running read begun =>
    obtain rfl := Option.some.inj (found.symm.trans running.found)
    exact read
  | free idle read count begun => exact read task found

theorem Performs.begun (performs : system.Performs number snapshot past) :
    ∃ count, past = deedsOf number snapshot count := by
  cases performs with
  | awaiting call starting read next none => exact ⟨0, none⟩
  | underway task finished running read begun => exact ⟨_, begun⟩
  | free idle read count begun => exact ⟨count, begun⟩

end Snapshot

section Updates

/-- A script is replaced in the same way, with the same answer, whether or not there are runs. -/
theorem updateSteps_quiet {engine : Engine} (reliable : engine.refusals = []) (now : Int)
    (id : String) (lines : List String) :
    Prod.map (fun answer => answer) (·.store.catalogue) (engine.updateSteps now id lines) =
      Prod.map (fun answer => answer) (·.store) (engine.quiet.updateSteps now id lines) := by
  simp only [Engine.updateSteps]
  cases StepDraft.ofLines lines with
  | error complaint => rfl
  | ok drafts =>
    have same := Store.catalogue_replaceSteps engine.store now id drafts
    simp only [Engine.answered, Engine.write, Engine.quiet, reliable, List.headD_nil,
      Bool.false_eq_true, if_false, ← same]
    cases engine.store.replaceSteps now id drafts <;> rfl

/-- A call of the store leaves a test case with the script that it writes for it. -/
theorem script_perform {store : Store} (sound : store.Sound) (operation : Store.Operation)
    (known : ((store.perform operation).tables.testCase? id).isNone = false) :
    (store.perform operation).tables.script id =
      (operation.script? store id).getD (store.tables.script id) := by
  obtain ⟨testCase, found⟩ := Option.isSome_iff_exists.1 (Option.isNone_eq_false_iff.1 known)
  have present := List.mem_of_find?_eq_some found
  have named : testCase.id = id := by simpa using List.find?_some found
  have content := (Store.writes_perform sound.tables operation).content testCase present
  rwa [named] at content

/-- The script stays as it was in a turn that changes no step. -/
theorem script_of_catalogue {before after : Tables} (same : after.catalogue = before.catalogue)
    (id : String) : after.script id = before.script id := by
  change after.catalogue.script id = before.catalogue.script id
  rw [same]

/-- A test case that is created is not one that exists. -/
theorem script?_createTestCase {store : Store} (sound : store.Sound)
    (known : (store.tables.testCase? id).isNone = false) (now : Int) (projectId title : String)
    (drafts : List StepDraft) :
    (Store.Operation.createTestCase now projectId title drafts).script? store id = none := by
  simp only [Store.Operation.script?]
  split
  · next testCase steps after created =>
    rw [if_neg]
    rw [(Store.createTestCase_eq created).1]
    exact sound.minted_ne known
  · rfl

/-- A script is replaced by the one that is written. -/
theorem script?_replaceSteps {store : Store} (sound : store.Sound)
    (known : (store.tables.testCase? id).isNone = false) (now : Int) (testCaseId : String)
    {lines : List String} {drafts : List StepDraft} (read : StepDraft.ofLines lines = .ok drafts) :
    (Store.Operation.replaceSteps now testCaseId drafts).script? store id =
      Turn.script? id ⟨now, .updateSteps testCaseId lines⟩ := by
  simp only [Store.Operation.script?, Turn.script?, read, Except.toOption]
  by_cases own : testCaseId = id
  · subst own
    obtain ⟨steps, after, replaced, -⟩ := sound.apart_replaceSteps_own known now drafts
    simp only [replaced]
  · simp only [if_neg own]
    split <;> rfl

/-- While a test case has the slot, a turn changes no script, or it writes one in the catalogue. -/
theorem Consistent.scripted (consistent : system.Consistent) (sessions : Nat → Session)
    (held : system.engine.registry.holdsTestCase id = true) (turn : Turn) :
    ((system.step sessions turn).engine.store.tables.catalogue =
        system.engine.store.tables.catalogue ∧ turn.script? id = none) ∨
      ∃ operation : Store.Operation,
        (system.step sessions turn).engine.store = system.engine.store.perform operation ∧
          (system.step sessions turn).engine.registry = system.engine.registry ∧
            operation.script? system.engine.store id = turn.script? id := by
  have sound := consistent.store
  have known := consistent.known held
  obtain ⟨now, move⟩ := turn
  cases move with
  | begin testCaseId browser options =>
    obtain ⟨fault, refused⟩ :=
      system.engine.prepare_of_held (slot_of_holds held) testCaseId browser options
    refine .inl ⟨?_, rfl⟩
    simp only [System.step, refused]
  | conclude index installed =>
    refine .inl ⟨?_, rfl⟩
    simp only [System.step]
    split
    · exact Engine.catalogue_conclude ..
    · rfl
  | abandon index =>
    refine .inl ⟨?_, rfl⟩
    simp only [System.step]
    split <;> rfl
  | proceed number => exact .inl ⟨Engine.catalogue_proceed .., rfl⟩
  | breakDown number => exact .inl ⟨Engine.catalogue_brokeDown .., rfl⟩
  | cancel runId => exact .inl ⟨rfl, rfl⟩
  | createProject name =>
    refine .inr ⟨.createProject now name, ?_, (Engine.Rests.createProject ..).registry, rfl⟩
    exact Engine.store_write _ consistent.reliable _
  | createTestCase projectId title lines =>
    cases read : StepDraft.ofLines lines with
    | error complaint =>
      refine .inl ⟨?_, rfl⟩
      simp only [System.step, System.change, Engine.createTestCase, read]
    | ok drafts =>
      refine .inr ⟨.createTestCase now projectId title drafts, ?_,
        (Engine.Rests.createTestCase ..).registry,
        script?_createTestCase sound known now projectId title drafts⟩
      simp only [System.step, System.change, Engine.createTestCase, read]
      exact Engine.store_write _ consistent.reliable _
  | updateSteps testCaseId lines =>
    cases read : StepDraft.ofLines lines with
    | error complaint =>
      refine .inl ⟨?_, by simp [Turn.script?, read, Except.toOption]⟩
      simp only [System.step, System.change, Engine.updateSteps, read]
    | ok drafts =>
      refine .inr ⟨.replaceSteps now testCaseId drafts, ?_, (Engine.Rests.updateSteps ..).registry,
        script?_replaceSteps sound known now testCaseId read⟩
      simp only [System.step, System.change, Engine.updateSteps, read]
      exact Engine.store_write _ consistent.reliable _
  | deleteProject projectId =>
    rcases Engine.store_delete system.engine consistent.reliable
      (system.engine.registry.checkProject projectId) (.notFound .project projectId)
      (system.engine.store.tables.runIdsOfProject projectId) (·.deleteProject projectId) with
      forbidden | removed
    · exact .inl ⟨congrArg (·.tables.catalogue) forbidden, rfl⟩
    · exact .inr ⟨.deleteProject projectId, removed,
        (Engine.Rests.delete (.deleteProject projectId) rfl ..).registry, rfl⟩
  | deleteTestCase testCaseId =>
    rcases Engine.store_delete system.engine consistent.reliable
      (system.engine.registry.checkTestCase testCaseId) (.notFound .testCase testCaseId)
      ((system.engine.store.tables.listRuns testCaseId).map Run.id)
      (·.deleteTestCase testCaseId) with forbidden | removed
    · exact .inl ⟨congrArg (·.tables.catalogue) forbidden, rfl⟩
    · exact .inr ⟨.deleteTestCase testCaseId, removed,
        (Engine.Rests.delete (.deleteTestCase testCaseId) rfl ..).registry, rfl⟩
  | read path variant => exact .inl ⟨rfl, rfl⟩
  | install change => exact .inl ⟨rfl, rfl⟩

/-- While a test case has the slot, its script is what was written last. -/
theorem Consistent.script_step (consistent : system.Consistent) (sessions : Nat → Session)
    (held : system.engine.registry.holdsTestCase id = true) (turn : Turn) :
    (system.step sessions turn).engine.store.tables.script id =
      (turn.script? id).getD (system.engine.store.tables.script id) := by
  rcases consistent.scripted sessions held turn with
    ⟨same, none⟩ | ⟨operation, performed, kept, writes⟩
  · rw [none, script_of_catalogue same, Option.getD_none]
  · have known := (consistent.step sessions turn).known (kept ▸ held)
    rw [performed] at known ⊢
    rw [script_perform consistent.store operation known, writes]

/-- While a test case has the slot, each script that is written for it replaces the one before. -/
theorem Consistent.script_after (consistent : system.Consistent) {sessions : Nat → Session}
    {history : List Turn} (occupied : system.occupied sessions id history = true) :
    (system.after sessions history).engine.store.tables.script id =
      (Turn.lastScript? id history).getD (system.engine.store.tables.script id) := by
  induction history generalizing system with
  | nil => rfl
  | cons turn history inductionHypothesis =>
    obtain ⟨held, later⟩ := Bool.and_eq_true_iff.1 occupied
    have first := consistent.script_step sessions held turn
    have rest := inductionHypothesis (consistent.step sessions turn) later
    refine rest.trans ?_
    rw [first]
    simp only [Turn.lastScript?]
    cases Turn.lastScript? id history <;> rfl

end Updates

/--
What becomes of a test case that holds the slot in a history: nothing but its script depends on
what is written for it, the steps that its run carries out are those it had before, and what is
written is stored.
-/
structure Isolated (sessions : Nat → Session) (id : String) (system : System)
    (history : List Turn) : Prop where
  tasks : (system.after sessions history).engine.tasks =
    (system.afterWithout sessions id history).engine.tasks
  waiting : (system.after sessions history).waiting =
    (system.afterWithout sessions id history).waiting
  registry : (system.after sessions history).engine.registry =
    (system.afterWithout sessions id history).engine.registry
  runs : (system.after sessions history).engine.store.tables.runs =
    (system.afterWithout sessions id history).engine.store.tables.runs
  results : (system.after sessions history).engine.store.tables.results =
    (system.afterWithout sessions id history).engine.store.tables.results
  events : (system.after sessions history).engine.events =
    (system.afterWithout sessions id history).engine.events
  artifacts : (system.after sessions history).engine.artifacts =
    (system.afterWithout sessions id history).engine.artifacts
  deeds : system.deeds (step sessions) history = system.deeds (stepWithout sessions id) history
  steps : ∀ task,
    (system.after sessions history).engine.task? system.engine.tasks.length = some task →
      task.steps = system.engine.store.tables.listSteps id
  performed : ∃ count, system.deeds (step sessions) history =
    deedsOf system.engine.tasks.length (system.engine.store.tables.listSteps id) count
  /-- A script that is written is answered and stored as if there had never been a run. -/
  answered : ∀ earlier now lines later, history = earlier ++ ⟨now, .updateSteps id lines⟩ :: later →
    let engine := (system.after sessions earlier).engine
    Prod.map (fun answer => answer) (·.store.catalogue) (engine.updateSteps now id lines) =
      Prod.map (fun answer => answer) (·.store) (engine.quiet.updateSteps now id lines)
  script : (system.after sessions history).engine.store.tables.script id =
    (Turn.lastScript? id history).getD (system.engine.store.tables.script id)

/-- A start that has read the steps of its test case is isolated from what is written later. -/
theorem Consistent.unaffected (consistent : system.Consistent) {call : StartCall}
    (starting : system.Starting call)
    (read : call.steps = system.engine.store.tables.listSteps id) {sessions : Nat → Session}
    {history : List Turn} (occupied : system.occupied sessions id history = true) :
    Isolated sessions id system history := by
  obtain ⟨shadows, deeds⟩ := (Shadows.mk consistent consistent rfl).after sessions occupied
  have performs := (Performs.awaiting call starting read rfl rfl).after consistent occupied
  exact
    { tasks := shadows.view (·.engine.tasks) fun _ => rfl
      waiting := shadows.view (·.waiting) fun _ => rfl
      registry := shadows.view (·.engine.registry) fun _ => rfl
      runs := shadows.view (·.engine.store.tables.runs) fun _ => rfl
      results := shadows.view (·.engine.store.tables.results) fun _ => rfl
      events := shadows.view (·.engine.events) fun system => by
        simp [Engine.events, System.apart, Engine.apart, Announcement.apart]
      artifacts := shadows.view (·.engine.artifacts) fun _ => rfl
      deeds
      steps := performs.steps
      performed := performs.begun
      answered := fun earlier now lines _ _ =>
        updateSteps_quiet (consistent.after sessions earlier).reliable now id lines
      script := consistent.script_after occupied }

/--
A run carries out the steps as its start has read them.
From the start on, nothing but the script of the test case depends on what is written for it.
-/
theorem isolated {store : Store} (sound : store.Sound) (artifacts : Artifacts)
    (options : RunOptions) (sessions : Nat → Session) (early late : List Turn) (now : Int)
    (id : String) (browser : Browser) (own : RunOptions)
    (begins : (((opened store artifacts options).after sessions early).engine.prepare id browser
      own).toBool = true)
    (occupied : occupied sessions id ((opened store artifacts options).after sessions
      (early ++ [⟨now, .begin id browser own⟩])) late = true) :
    Isolated sessions id ((opened store artifacts options).after sessions
      (early ++ [⟨now, .begin id browser own⟩])) late := by
  let before := (opened store artifacts options).after sessions early
  have consistent : before.Consistent := (Consistent.opened sound artifacts options).after _ _
  have claims : (opened store artifacts options).after sessions
      (early ++ [⟨now, .begin id browser own⟩]) =
        before.step sessions ⟨now, .begin id browser own⟩ := List.foldl_append
  rw [claims] at occupied ⊢
  have later := consistent.step sessions ⟨now, .begin id browser own⟩
  cases prepared : before.engine.prepare id browser own with
  | error fault => simp [before, prepared, Except.toBool] at begins
  | ok result =>
    obtain ⟨call, engine⟩ := result
    obtain ⟨idle, ticket, testCaseId, owned, numbered, same⟩ := consistent.claim prepared
    obtain ⟨-, -, read, -⟩ := Engine.prepare_eq prepared
    have claimed : before.step sessions ⟨now, .begin id browser own⟩ =
        ⟨engine, before.waiting ++ [call]⟩ := by
      simp only [System.step, prepared]
    rw [claimed, same] at later occupied ⊢
    exact later.unaffected (idle.claimed consistent.tickets ticket testCaseId owned numbered) read
      occupied

section Sample

/-- Writes another script for the test case. -/
def sampleRewrite : Turn := ⟨4, .updateSteps (Store.idOf 1) ["Click \"Pay\"", "Expect \"Paid\""]⟩

/-- Completes a start and lets its run end, with another script before and after each stage. -/
def sampleRewrites : List Turn :=
  [sampleRewrite, ⟨2, .conclude 0 (.ok ())⟩] ++
    (List.replicate 6 [sampleRewrite, ⟨3, .proceed 0⟩]).flatten

theorem isolated_sampleRewrites :
    (sample sampleClaim).deeds (step fun _ => .prompt) sampleRewrites =
        [⟨0, Store.idOf 2, 1, .click "Login" none⟩] ∧
      Isolated (fun _ => .prompt) (Store.idOf 1) (sample sampleClaim) sampleRewrites :=
  ⟨by decide +kernel, isolated .empty default sampleOptions _ sampleCreation sampleRewrites 1 _
    .chromium sampleOptions (by decide +kernel) (by decide +kernel)⟩

end Sample

end System

end StepRunner
