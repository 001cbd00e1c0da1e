import StepRunner.Proofs.Engine.Authoring
import StepRunner.Proofs.Engine.Calls
import StepRunner.Proofs.Engine.Lifetimes

/-!
This file follows steps that somebody has read through all that happens afterwards.
Their test case keeps them until its script is replaced, and from then on it has none of them.
-/

namespace StepRunner

/-- The turn that an occurrence takes, to its end or until the process dies. -/
def Occurrence.turn? : Occurrence → Option Turn
  | .turn _ taken | .crash _ taken _ _ _ => some taken
  | _ => none

namespace System

/-- The system that a turn finds; before a crash the disk lets only some writes through. -/
def facing (system : System) : Occurrence → System
  | .crash _ _ writes _ _ => system.refuseAfter writes
  | _ => system

/-- An occurrence replaces the steps of a test case. -/
def Replaces (system : System) (id : String) (occurrence : Occurrence) : Prop :=
  ∃ now lines steps, occurrence.turn? = some ⟨now, .updateSteps id lines⟩ ∧
    ((system.facing occurrence).engine.updateSteps now id lines).1 = .ok steps

/-- The steps of a test case are replaced at some time in a history. -/
def Replaced (system : System) (id : String) : List Occurrence → Prop
  | [] => False
  | occurrence :: later =>
    system.Replaces id occurrence ∨ (system.occur occurrence).Replaced id later

/-- A call of the store that an occurrence makes. -/
def Made (system : System) (occurrence : Occurrence) (store : Store)
    (operation : Store.Operation) : Prop :=
  operation.IsTame ∨ ∃ turn, occurrence.turn? = some turn ∧
    (system.facing occurrence).Makes turn store operation

/--
The stores that an occurrence passes through.
A recovery that is cut off is no call of the store, only the first half of one.
-/
inductive Passes (system : System) (occurrence : Occurrence) : Store → Prop where
  | start : Passes system occurrence system.engine.store
  | call {store : Store} {operation : Store.Operation} (passes : Passes system occurrence store)
      (made : system.Made occurrence store operation) :
      Passes system occurrence (store.perform operation)
  | half {store : Store} (now : Int) (passes : Passes system occurrence store) :
      Passes system occurrence (store.recoverResults now)

end System

/-- Every step of a test case can be run. -/
def Store.Legible (store : Store) : Prop :=
  ∀ id ∈ store.tables.testCases.map TestCase.id, ∀ step ∈ store.tables.listSteps id,
    ∃ action, step.action? = some action

/-- What holds of a system whatever happens to it. -/
structure System.Regular (system : System) : Prop where
  tracked : system.Tracked
  sound : system.engine.store.Sound
  legible : system.engine.store.Legible

/-- A test case has the steps that were read, or none of them any more. -/
structure Store.Holds (store : Store) (id : String) (steps : List Step) (replaced : Prop) :
    Prop where
  spent : store.Spent id
  past : ∀ step ∈ steps, store.Spent step.id
  same : id ∈ store.tables.testCases.map TestCase.id → ¬replaced →
    store.tables.listSteps id = steps
  other : id ∈ store.tables.testCases.map TestCase.id → replaced →
    ∀ step ∈ store.tables.listSteps id, step.id ∉ steps.map Step.id

section Scripts

variable {store : Store} {operation : Store.Operation} {id : String} {lines : List String}
  {drafts : List StepDraft}

theorem StepDraft.ofLines_eq_ok (read : ofLines lines = .ok drafts) :
    (∀ line ∈ lines, ¬Blank line) ∧ drafts.map StepDraft.rawText = lines.map Text.trimmed := by
  rcases firstBlank_or_solid lines with ⟨number, first⟩ | solid
  · rw [ofLines_of_firstBlank first] at read
    cases read
  · obtain ⟨others, drafted, texts⟩ := ofLines_of_solid solid
    obtain rfl : drafts = others := Except.ok.inj (read.symm.trans drafted)
    exact ⟨solid, texts⟩

theorem Store.Operation.IsTame.script?_eq_none (tame : operation.IsTame) :
    operation.script? store id = none := by
  cases operation with
  | createTestCase now projectId title drafts => cases tame
  | replaceSteps now testCaseId drafts => cases tame
  | _ => rfl

theorem Store.Operation.IsTame.handed (tame : operation.IsTame) (minted : Nat) :
    operation.Handed minted := by
  cases operation with
  | insertRun run => cases tame
  | insertResult result => cases tame
  | _ => trivial

/-- Scripts that are read from lines keep a store legible. -/
theorem Store.Legible.perform (legible : store.Legible) (sound : store.tables.Sound)
    (written : ∀ id drafts, operation.script? store id = some drafts →
      ∃ lines, StepDraft.ofLines lines = .ok drafts) : (store.perform operation).Legible := by
  intro id known step among
  obtain ⟨testCase, present, rfl⟩ := List.mem_map.1 known
  cases script : operation.script? store testCase.id with
  | none =>
    rw [listSteps_perform sound operation present script] at among
    exact legible _ ((writes_perform sound operation).origin testCase present script) step among
  | some drafts =>
    obtain ⟨lines, read⟩ := written _ _ script
    obtain ⟨solid, texts⟩ := StepDraft.ofLines_eq_ok read
    obtain ⟨middle, -, drafted⟩ := drafted_perform sound script
    rw [drafted] at among
    exact (enacts_draftSteps solid texts).runnable step among step.storedAction

/-- An answer with steps means that the store has replaced the script. -/
theorem Engine.updateSteps_eq_ok {engine : Engine} {now : Int} {steps : List Step}
    (answer : (engine.updateSteps now id lines).1 = .ok steps) :
    ∃ operation drafts, (engine.updateSteps now id lines).2.store = engine.store.perform operation ∧
      operation.script? engine.store id = some drafts := by
  cases read : StepDraft.ofLines lines with
  | error complaint =>
    simp only [updateSteps, read] at answer
    cases answer
  | ok drafts =>
    have outcome : engine.updateSteps now id lines =
        answered (engine.write (·.replaceSteps now id drafts)) := by
      simp only [updateSteps, read]
    rw [outcome] at answer ⊢
    rcases engine.write_cases (·.replaceSteps now id drafts) with
      ⟨error, refused⟩ | ⟨steps, store, -, replaced, written⟩
    · rw [refused] at answer
      cases answer
    · refine ⟨.replaceSteps now id drafts, drafts, ?_, ?_⟩
      · rw [written, Store.perform, replaced]
        rfl
      · exact Store.script?_replaceSteps_eq_some.2 ⟨steps, store, replaced, rfl, rfl⟩

end Scripts

namespace System

variable {system : System} {occurrence : Occurrence} {store : Store}
  {operation : Store.Operation} {id runId : String}

section Calls

theorem Made.handed (made : system.Made occurrence store operation) :
    operation.Handed store.minted := by
  rcases made with tame | ⟨turn, -, makes⟩
  · exact tame.handed store.minted
  · cases makes with
    | tame tame => exact tame.handed store.minted
    | creates read => trivial
    | rewrites move read answer => trivial
    | inserts early gives => exact ⟨_, early, rfl⟩
    | withdraws new => trivial
    | begins among stage same early => exact ⟨_, early, rfl⟩

/-- An occurrence passes through the store that it leads to. -/
theorem passes_occur (system : System) (occurrence : Occurrence) :
    system.Passes occurrence (system.occur occurrence).engine.store := by
  have calls {turn : Turn} (taken : occurrence.turn? = some turn) {after : Store}
      (comes : system.engine.store.Comes ((system.facing occurrence).Makes turn) after) :
      system.Passes occurrence after := by
    induction comes with
    | refl => exact .start
    | call comes makes passes => exact passes.call (.inr ⟨turn, taken, makes⟩)
  cases occurrence with
  | turn sessions turn => exact calls rfl (turns_step sessions system turn).calls
  | disk refusals => exact .start
  | restart artifacts options => exact .start
  | crash sessions turn writes artifacts options =>
    exact calls rfl (turns_step sessions (system.refuseAfter writes) turn).calls
  | recovery now =>
    have made : system.Made (.recovery now) system.engine.store (.recover now) := .inl trivial
    exact .call .start made
  | halfRecovery now => exact .half now .start

theorem Passes.sound (passes : system.Passes occurrence store)
    (sound : system.engine.store.Sound) : store.Sound := by
  induction passes with
  | start => exact sound
  | call passes made before => exact before.perform made.handed
  | half now passes before => exact before.updateResults _ (fun _ => rfl) fun _ => rfl

theorem Passes.minted_le (passes : system.Passes occurrence store) :
    system.engine.store.minted ≤ store.minted := by
  induction passes with
  | start => exact le_rfl
  | call passes made before => exact before.trans (Store.minted_le_perform _ _)
  | half now passes before => exact before

end Calls

section Scripts

variable {drafts : List StepDraft}

/-- A script that an occurrence writes is read from lines, for an old test case or a new one. -/
theorem Made.written (made : system.Made occurrence store operation)
    (script : operation.script? store id = some drafts) :
    (∃ lines, StepDraft.ofLines lines = .ok drafts) ∧
      (system.Replaces id occurrence ∨ ¬store.Spent id) := by
  rcases made with tame | ⟨turn, taken, makes⟩
  · rw [tame.script?_eq_none] at script
    cases script
  · cases makes with
    | tame tame =>
      rw [tame.script?_eq_none] at script
      cases script
    | creates read =>
      obtain ⟨testCase, steps, after, created, rfl, rfl⟩ :=
        Store.script?_createTestCase_eq_some.1 script
      exact ⟨⟨_, read⟩, .inr fun spent => spent _ le_rfl (Store.createTestCase_eq created).1⟩
    | rewrites move read answer =>
      obtain ⟨steps, after, -, rfl, rfl⟩ := Store.script?_replaceSteps_eq_some.1 script
      obtain ⟨now, _⟩ := turn
      obtain rfl := move
      exact ⟨⟨_, read⟩, .inl ⟨now, _, _, taken, answer⟩⟩
    | inserts early gives => cases script
    | withdraws new => cases script
    | begins among stage same early => cases script

/-- A test case whose id was spent before an occurrence was there before it. -/
theorem Passes.known (passes : system.Passes occurrence store)
    (sound : system.engine.store.Sound) (spent : system.engine.store.Spent id)
    (present : id ∈ store.tables.testCases.map TestCase.id) :
    id ∈ system.engine.store.tables.testCases.map TestCase.id := by
  induction passes with
  | start => exact present
  | call passes made before =>
    -- Only a creation adds a test case, and it takes an id that is not spent.
    rcases Store.known_perform (passes.sound sound).tables _ present with old | new
    · exact before old
    · exact absurd new (spent.later passes.minted_le _ le_rfl)
  | half now passes before => exact before present

/-- A test case keeps its steps unless they are replaced. -/
theorem Passes.listSteps (passes : system.Passes occurrence store)
    (sound : system.engine.store.Sound) (spent : system.engine.store.Spent id)
    (unreplaced : ¬system.Replaces id occurrence)
    (known : id ∈ store.tables.testCases.map TestCase.id) :
    store.tables.listSteps id = system.engine.store.tables.listSteps id := by
  induction passes with
  | start => rfl
  | @call store operation passes made before =>
    have tables := (passes.sound sound).tables
    obtain ⟨testCase, among, rfl⟩ := List.mem_map.1 known
    cases script : operation.script? store testCase.id with
    | none =>
      rw [Store.listSteps_perform tables operation among script]
      exact before ((Store.writes_perform tables operation).origin testCase among script)
    | some drafts =>
      -- The script is written by a replacement, or it comes with a new test case.
      rcases (made.written script).2 with replaces | new
      · exact absurd replaces unreplaced
      · exact absurd (spent.later passes.minted_le) new
  | half now passes before => exact before known

theorem Passes.legible (passes : system.Passes occurrence store)
    (sound : system.engine.store.Sound) (legible : system.engine.store.Legible) :
    store.Legible := by
  induction passes with
  | start => exact legible
  | call passes made before =>
    exact before.perform (passes.sound sound).tables fun _ _ script => (made.written script).1
  | half now passes before => exact before

/-- The steps of a script that is replaced are new. -/
theorem Replaces.unspent (replaces : system.Replaces id occurrence)
    (sound : system.engine.store.Sound) :
    ∀ step ∈ (system.occur occurrence).engine.store.tables.listSteps id,
      ¬system.engine.store.Spent step.id := by
  obtain ⟨now, lines, steps, taken, answer⟩ := replaces
  obtain ⟨operation, drafts, store, script⟩ := Engine.updateSteps_eq_ok answer
  have written : (system.occur occurrence).engine.store = system.engine.store.perform operation ∧
      operation.script? system.engine.store id = some drafts := by
    cases occurrence with
    | turn sessions turn =>
      obtain rfl := Option.some.inj taken
      exact ⟨store, script⟩
    | crash sessions turn writes artifacts options =>
      obtain rfl := Option.some.inj taken
      exact ⟨store, script⟩
    | _ => cases taken
  obtain ⟨middle, later, drafted⟩ := Store.drafted_perform sound.tables written.2
  intro step among spent
  rw [written.1, drafted] at among
  exact Store.draftSteps_unspent among (spent.later later)

end Scripts

namespace Regular

theorem opened (artifacts : Artifacts) (options : RunOptions) :
    (opened {} artifacts options).Regular where
  tracked := .opened Store.faithful_empty artifacts options
  sound := .empty
  legible := by simp [Store.Legible, System.opened]

theorem occur (regular : system.Regular) (occurrence : Occurrence) :
    (system.occur occurrence).Regular where
  tracked := regular.tracked.occur occurrence
  sound := (system.passes_occur occurrence).sound regular.sound
  legible := (system.passes_occur occurrence).legible regular.sound regular.legible

theorem lived (regular : system.Regular) (history : List Occurrence) :
    (system.lived history).Regular := by
  induction history generalizing system with
  | nil => exact regular
  | cons occurrence history inductionHypothesis =>
    exact inductionHypothesis (regular.occur occurrence)

end Regular

section Histories

variable {steps : List Step} {replaced : Prop}

theorem lived_cons (occurrence : Occurrence) (late : List Occurrence) :
    system.lived (occurrence :: late) = (system.occur occurrence).lived late := rfl

theorem lived_append (early late : List Occurrence) :
    system.lived (early ++ late) = (system.lived early).lived late :=
  List.foldl_append

theorem replaced_append (early late : List Occurrence) :
    system.Replaced id (early ++ late) ↔
      system.Replaced id early ∨ (system.lived early).Replaced id late := by
  induction early generalizing system with
  | nil => simp [Replaced, lived]
  | cons occurrence early inductionHypothesis =>
    simp only [List.cons_append, Replaced, inductionHypothesis, or_assoc]
    rfl

/-- Steps that were read are those of the test case, or no step of it, after any occurrence. -/
theorem holds_occur (sound : system.engine.store.Sound)
    (holds : system.engine.store.Holds id steps replaced) (occurrence : Occurrence) :
    (system.occur occurrence).engine.store.Holds id steps
      (replaced ∨ system.Replaces id occurrence) := by
  have passes := system.passes_occur occurrence
  refine ⟨holds.spent.later passes.minted_le,
    fun step read => (holds.past step read).later passes.minted_le,
    fun known unreplaced => ?_, fun known changed step among read => ?_⟩
  · obtain ⟨before, now⟩ := not_or.1 unreplaced
    rw [passes.listSteps sound holds.spent now known]
    exact holds.same (passes.known sound holds.spent known) before
  · by_cases replaces : system.Replaces id occurrence
    · obtain ⟨old, listed, same⟩ := List.mem_map.1 read
      exact replaces.unspent sound step among (same ▸ holds.past old listed)
    · rw [passes.listSteps sound holds.spent replaces known] at among
      exact holds.other (passes.known sound holds.spent known)
        (changed.resolve_right replaces) step among read

/-- What every occurrence keeps, with the replacements so far, is kept by every history. -/
theorem replaced_induction (id : String) (Good : System → Prop → Prop)
    (step : ∀ {system replaced}, system.Regular → Good system replaced → ∀ occurrence,
      Good (system.occur occurrence) (replaced ∨ system.Replaces id occurrence))
    (regular : system.Regular) (good : Good system replaced) (history : List Occurrence) :
    Good (system.lived history) (replaced ∨ system.Replaced id history) := by
  induction history generalizing system replaced with
  | nil => simpa [Replaced, lived] using good
  | cons occurrence history inductionHypothesis =>
    have later := inductionHypothesis (regular.occur occurrence) (step regular good occurrence)
    rwa [or_assoc] at later

end Histories

end System

end StepRunner
