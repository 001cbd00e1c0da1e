import StepRunner.Proofs.Engine.Frames
import StepRunner.Proofs.Engine.System
import StepRunner.Proofs.Step.Storage
import StepRunner.Proofs.Store.Apart
import StepRunner.Proofs.Store.Scripts

/-!
This file shows what becomes of the lines of a script that is written for a test case.
Either the store stays as it is, and the first thing that is wrong is named, or all lines are
stored in their order, and each of them can be run whatever becomes of the action stored with it.
-/

namespace StepRunner

/-- A text without anything but blanks. -/
def Blank (text : String) : Prop := ∀ char ∈ text.toList, Text.isBlank char = true

instance (text : String) : Decidable (Blank text) :=
  List.decidableBAll (fun char => Text.isBlank char = true) text.toList

/-- A number counts the lines of a script up to its first blank line. -/
def FirstBlank (lines : List String) (number : Nat) : Prop :=
  ∃ early line late, lines = early ++ line :: late ∧ Blank line ∧
    (∀ other ∈ early, ¬Blank other) ∧ number = early.length + 1

/-- Steps hold the lines of a script, and each of them can be run. -/
structure Enacts (lines : List String) (testCaseId : String) (steps : List Step) : Prop where
  texts : steps.map Step.rawText = lines.map Text.trimmed
  orders : steps.map Step.order = List.range' 1 lines.length
  owned : ∀ step ∈ steps, step.testCaseId = testCaseId
  /-- The stored action may be lost or spoiled. -/
  runnable : ∀ step ∈ steps, ∀ storedAction, ∃ action,
    { step with storedAction }.action? = some action

namespace Engine

/-- A request fails and leaves all but the refusals of the disk as it is. -/
def Fails {α : Type} (engine : Engine) (outcome : Except EngineError α × Engine)
    (error : EngineError) : Prop :=
  outcome.1 = .error error ∧ ∃ refusals, outcome.2 = { engine with refusals }

/-- One test case is stored with the lines of a script, and nothing else is changed. -/
def Stores (engine : Engine) (now : Int) (projectId title : String) (lines : List String) : Prop :=
  ∃ testCase steps minted refusals,
    engine.createTestCase now projectId title lines =
      (.ok (testCase, steps),
        { engine with
          store := ⟨{ engine.store.tables with
            testCases := engine.store.tables.testCases ++ [testCase]
            steps := engine.store.tables.steps ++ steps }, minted⟩
          refusals }) ∧
    testCase = ⟨testCase.id, projectId, Text.trimmed title, now, now⟩ ∧
    testCase.id ∉ engine.store.tables.ids ∧ Enacts lines testCase.id steps ∧
    (engine.createTestCase now projectId title lines).2.store.tables.listSteps testCase.id = steps

/-- What the creation of a test case from the lines of a script does. -/
structure Creates (engine : Engine) (now : Int) (projectId title : String)
    (lines : List String) : Prop where
  blank : ∀ number, FirstBlank lines number →
    engine.Fails (engine.createTestCase now projectId title lines)
        (.validation (.blankLine number)) ∧
      (EngineError.validation (.blankLine number)).message =
        "Step " ++ toString number ++ ": Step cannot be empty."
  refused : (∀ line ∈ lines, ¬Blank line) → engine.refusals.headD false = true →
    engine.Fails (engine.createTestCase now projectId title lines) (.storage (.database .disk))
  untitled : (∀ line ∈ lines, ¬Blank line) → engine.refusals.headD false = false → Blank title →
    engine.Fails (engine.createTestCase now projectId title lines) (.validation .blankTitle)
  homeless : (∀ line ∈ lines, ¬Blank line) → engine.refusals.headD false = false →
    ¬Blank title → projectId ∉ engine.store.tables.projects.map Project.id →
    engine.Fails (engine.createTestCase now projectId title lines) (.notFound .project projectId)
  created : (∀ line ∈ lines, ¬Blank line) → engine.refusals.headD false = false →
    ¬Blank title → projectId ∈ engine.store.tables.projects.map Project.id →
    engine.Stores now projectId title lines

/-- What the replacement of a script by other lines does. -/
structure Rewrites (engine : Engine) (now : Int) (id : String) (lines : List String) : Prop where
  blank : ∀ number, FirstBlank lines number →
    engine.Fails (engine.updateSteps now id lines) (.validation (.blankLine number))
  refused : (∀ line ∈ lines, ¬Blank line) → engine.refusals.headD false = true →
    engine.Fails (engine.updateSteps now id lines) (.storage (.database .disk))
  missing : (∀ line ∈ lines, ¬Blank line) → engine.refusals.headD false = false →
    id ∉ engine.store.tables.testCases.map TestCase.id →
    engine.Fails (engine.updateSteps now id lines) (.notFound .testCase id)
  /-- Only the instant of the last change is new in the test case. -/
  rewritten : (∀ line ∈ lines, ¬Blank line) → engine.refusals.headD false = false →
    id ∈ engine.store.tables.testCases.map TestCase.id →
    ∃ steps minted refusals,
      engine.updateSteps now id lines =
        (.ok steps,
          { engine with
            store := ⟨{ engine.store.tables with
              testCases := engine.store.tables.testCases.map fun testCase =>
                if testCase.id = id then { testCase with updatedAt := now } else testCase
              steps := (engine.store.tables.steps.filter fun step => step.testCaseId ≠ id) ++
                steps }, minted⟩
            refusals }) ∧
      Enacts lines id steps ∧
      (engine.updateSteps now id lines).2.store.tables.listSteps id = steps

end Engine

section Lines

variable {line : String} {lines early late : List String} {start number : Nat}

theorem firstBlank_or_solid (lines : List String) :
    (∃ number, FirstBlank lines number) ∨ ∀ line ∈ lines, ¬Blank line := by
  induction lines with
  | nil => exact .inr (List.forall_mem_nil _)
  | cons line lines inductionHypothesis =>
    by_cases blank : Blank line
    · exact .inl ⟨1, [], line, lines, rfl, blank, List.forall_mem_nil _, rfl⟩
    · rcases inductionHypothesis with ⟨number, early, other, late, rfl, last, solid, -⟩ | solid
      · exact .inl ⟨_, line :: early, other, late, rfl, last,
          List.forall_mem_cons.2 ⟨blank, solid⟩, rfl⟩
      · exact .inr (List.forall_mem_cons.2 ⟨blank, solid⟩)

theorem trimmed_isEmpty_iff {text : String} : (Text.trimmed text).isEmpty = true ↔ Blank text := by
  rw [Text.trimmed, String.isEmpty_iff, String.ofList_eq_empty_iff, Text.trim_eq_nil_iff, Blank]

/-- A blank line has no reading. -/
theorem ofLine?_of_blank (blank : Blank line) : StepReading.ofLine? line = none := by
  have nothing : Text.trim line.toList = [] := Text.trim_eq_nil_iff.2 blank
  simp [StepReading.ofLine?, StepReading.ofChars?, nothing]

/-- Every other line has one. -/
theorem exists_ofLine?_of_solid (solid : ¬Blank line) :
    ∃ reading, StepReading.ofLine? line = some reading := by
  apply StepReading.exists_ofLine?
  simpa [Blank] using solid

/-- The reports on the lines of a script from some place on. -/
def reportsFrom (start : Nat) (lines : List String) : List LineReport :=
  (lines.zipIdx start).map fun (text, index) => ⟨index + 1, text, StepReading.ofLine? text⟩

theorem reportsFrom_cons (start : Nat) (line : String) (lines : List String) :
    reportsFrom start (line :: lines) =
      ⟨start + 1, line, StepReading.ofLine? line⟩ :: reportsFrom (start + 1) lines := rfl

/-- The first blank line is refused, whatever comes after it. -/
theorem mapM_reportsFrom_of_blank (start : Nat) (late : List String) (blank : Blank line)
    (solid : ∀ other ∈ early, ¬Blank other) :
    (reportsFrom start (early ++ line :: late)).mapM StepDraft.ofReport =
      .error (.blankLine (start + early.length + 1)) := by
  induction early generalizing start with
  | nil =>
    rw [List.nil_append, reportsFrom_cons, List.mapM_cons, ofLine?_of_blank blank]
    rfl
  | cons other early inductionHypothesis =>
    obtain ⟨first, others⟩ := List.forall_mem_cons.1 solid
    obtain ⟨reading, read⟩ := exists_ofLine?_of_solid first
    have later := inductionHypothesis (start + 1) others
    rw [List.cons_append, reportsFrom_cons, List.mapM_cons, read, later, List.length_cons,
      Nat.add_right_comm start 1, ← Nat.add_assoc start]
    rfl

/-- Lines that are not blank are all drafted. -/
theorem mapM_reportsFrom_of_solid (solid : ∀ line ∈ lines, ¬Blank line) :
    ∃ drafts, (reportsFrom start lines).mapM StepDraft.ofReport = .ok drafts ∧
      drafts.map StepDraft.rawText = lines.map Text.trimmed := by
  induction lines generalizing start with
  | nil => exact ⟨[], rfl, rfl⟩
  | cons line lines inductionHypothesis =>
    obtain ⟨first, others⟩ := List.forall_mem_cons.1 solid
    obtain ⟨reading, read⟩ := exists_ofLine?_of_solid first
    obtain ⟨drafts, drafted, texts⟩ := @inductionHypothesis (start + 1) others
    refine ⟨StepDraft.ofReading line reading :: drafts, ?_, congrArg _ texts⟩
    rw [reportsFrom_cons, List.mapM_cons, read, drafted]
    rfl

theorem ofLines_of_firstBlank (first : FirstBlank lines number) :
    StepDraft.ofLines lines = .error (.blankLine number) := by
  obtain ⟨early, line, late, rfl, blank, solid, rfl⟩ := first
  have refused := mapM_reportsFrom_of_blank 0 late blank solid
  rwa [Nat.zero_add] at refused

theorem ofLines_of_solid (solid : ∀ line ∈ lines, ¬Blank line) :
    ∃ drafts, StepDraft.ofLines lines = .ok drafts ∧
      drafts.map StepDraft.rawText = lines.map Text.trimmed :=
  mapM_reportsFrom_of_solid solid

/-- A step whose text is not blank can be run without the action that is stored with it. -/
theorem Step.exists_action? {step : Step} (solid : ¬Blank line)
    (text : step.rawText = Text.trimmed line) : ∃ action, step.action? = some action := by
  unfold Step.action?
  split
  · exact ⟨_, rfl⟩
  · obtain ⟨reading, read⟩ := exists_ofLine?_of_solid solid
    rw [text, StepReading.ofLine?_trimmed, read]
    exact ⟨_, rfl⟩

/-- The steps that are drafted from a script enact it. -/
theorem enacts_draftSteps {store : Store} {id : String} {drafts : List StepDraft}
    (solid : ∀ line ∈ lines, ¬Blank line)
    (texts : drafts.map StepDraft.rawText = lines.map Text.trimmed) :
    Enacts lines id (store.draftSteps id drafts) := by
  have rawTexts : (store.draftSteps id drafts).map Step.rawText = lines.map Text.trimmed := by
    rw [← texts]
    conv_rhs => rw [← Store.draftSteps_drafts store id drafts, List.map_map]
    rfl
  have length : (store.draftSteps id drafts).length = lines.length := by
    simpa using congrArg List.length rawTexts
  refine ⟨rawTexts, ?_, fun step drafted => (Store.draftSteps_own drafted).1, ?_⟩
  · rw [Store.draftSteps_orders, length]
  · intro step drafted storedAction
    have among : step.rawText ∈ lines.map Text.trimmed := rawTexts ▸ List.mem_map_of_mem drafted
    obtain ⟨line, listed, same⟩ := List.mem_map.1 among
    exact Step.exists_action? (solid line listed) same.symm

end Lines

namespace Store

variable {store : Store} {now : Int} {projectId title id : String} {drafts : List StepDraft}

section Refusals

theorem createTestCase_of_untitled (untitled : Blank title) :
    store.createTestCase now projectId title drafts = .error (.validation .blankTitle) := by
  simp only [createTestCase, trimmed_isEmpty_iff.2 untitled, if_true]
  rfl

theorem createTestCase_of_homeless (titled : ¬Blank title)
    (homeless : projectId ∉ store.tables.projects.map Project.id) :
    store.createTestCase now projectId title drafts = .error (.notFound .project projectId) := by
  have named : ¬(Text.trimmed title).isEmpty = true := fun empty =>
    titled (trimmed_isEmpty_iff.1 empty)
  have none : store.tables.project? projectId = none := Tables.project?_eq_none_iff.2 homeless
  simp only [createTestCase, named, none, Option.isNone_none, if_true]
  rfl

theorem replaceSteps_of_missing (missing : id ∉ store.tables.testCases.map TestCase.id) :
    store.replaceSteps now id drafts = .error (.notFound .testCase id) := by
  have none : store.tables.testCase? id = none := Tables.testCase?_eq_none_iff.2 missing
  rw [replaceSteps_eq_ite, none, Option.isNone_none, if_pos rfl]

end Refusals

section Writings

/-- The new id is that of no row. -/
theorem Sound.new_testCase (sound : store.Sound) :
    idOf store.minted ∉ store.tables.testCases.map TestCase.id := by
  intro present
  refine sound.fresh store.minted le_rfl ?_
  simp only [Tables.ids, List.mem_append]
  exact .inl (.inl (.inl (.inr present)))

theorem addTestCase_of_new {tables : Tables} {testCase : TestCase}
    (new : testCase.id ∉ tables.testCases.map TestCase.id)
    (home : testCase.projectId ∈ tables.projects.map Project.id) :
    tables.addTestCase testCase =
      .ok { tables with testCases := tables.testCases ++ [testCase] } := by
  have vacant : tables.testCase? testCase.id = none := Tables.testCase?_eq_none_iff.2 new
  have owned : tables.project? testCase.projectId ≠ none := fun absent =>
    Tables.project?_eq_none_iff.1 absent home
  simp [Tables.addTestCase, vacant, owned]

/-- A test case with a title in a project that exists is stored with its steps. -/
theorem Sound.createTestCase_of_titled (sound : store.Sound) (drafts : List StepDraft)
    {testCase : TestCase} (titled : ¬Blank title)
    (home : projectId ∈ store.tables.projects.map Project.id)
    (made : testCase = ⟨idOf store.minted, projectId, Text.trimmed title, now, now⟩) :
    store.createTestCase now projectId title drafts =
      .ok ((testCase, draftSteps ⟨store.tables, store.minted + 1⟩ testCase.id drafts),
        ⟨{ store.tables with
          testCases := store.tables.testCases ++ [testCase]
          steps := store.tables.steps ++
            draftSteps ⟨store.tables, store.minted + 1⟩ testCase.id drafts },
          store.minted + 1 + drafts.length⟩) := by
  subst made
  have named : ¬(Text.trimmed title).isEmpty = true := fun empty =>
    titled (trimmed_isEmpty_iff.1 empty)
  have owned : store.tables.project? projectId ≠ none := fun absent =>
    Tables.project?_eq_none_iff.1 absent home
  have found : ¬(store.tables.project? projectId).isNone = true := by simpa using owned
  let testCase : TestCase := ⟨idOf store.minted, projectId, Text.trimmed title, now, now⟩
  have added : store.tables.addTestCase testCase =
      .ok { store.tables with testCases := store.tables.testCases ++ [testCase] } :=
    addTestCase_of_new sound.new_testCase home
  have present : (Tables.testCase? { store.tables with
      testCases := store.tables.testCases ++ [testCase] } testCase.id).isNone = false := by
    simp [Tables.testCase?]
  have inserted := ((sound.withTestCase rfl added).receives present).insertSteps_eq drafts
  simp only [Store.createTestCase, refuse_eq_ok_iff, change, bind_eq_ok_iff, map_eq_ok_iff,
    pure_eq_ok_iff, Prod.mk.injEq]
  exact ⟨named, found, _, ⟨_, added, rfl⟩, _, inserted, ⟨rfl, rfl⟩, rfl⟩

/-- The script of a test case that exists is replaced as a whole. -/
theorem Sound.replaceSteps_of_owned (sound : store.Sound) (now : Int) (drafts : List StepDraft)
    (owned : id ∈ store.tables.testCases.map TestCase.id) :
    store.replaceSteps now id drafts =
      .ok (store.draftSteps id drafts, ⟨{ store.tables.cleared id now with
        steps := (store.tables.cleared id now).steps ++ store.draftSteps id drafts },
          store.minted + drafts.length⟩) := by
  have found : (store.tables.testCase? id).isNone = false := by
    rw [Option.isNone_eq_false_iff, Option.isSome_iff_ne_none]
    exact fun absent => Tables.testCase?_eq_none_iff.1 absent owned
  rw [replaceSteps_eq_ite, found, if_neg Bool.false_ne_true,
    ((sound.receives found).cleared id now).insertSteps_eq drafts]
  rfl

/-- The steps that are drafted for a test case without steps are listed as its script. -/
theorem listSteps_draftSteps {tables : Tables} (base : Store) (drafts : List StepDraft)
    (bare : ∀ step ∈ tables.steps, step.testCaseId ≠ id) :
    Tables.listSteps { tables with steps := tables.steps ++ base.draftSteps id drafts } id =
      base.draftSteps id drafts :=
  Tables.listSteps_append_own bare (fun _ drafted => (draftSteps_own drafted).1)
    (draftSteps_orders id drafts)

end Writings

end Store

namespace Engine

variable {engine : Engine} {now : Int} {projectId title id : String} {lines : List String}
  {number : Nat}

section Writes

variable {α : Type} {change : Store → Except StoreError (α × Store)}

theorem fails_answered {error : StoreError} (healthy : engine.refusals.headD false = false)
    (failed : change engine.store = .error error) :
    engine.Fails (answered (engine.write change)) (.ofStore error) := by
  rw [write_of_healthy healthy, failed]
  exact ⟨rfl, _, rfl⟩

theorem fails_answered_of_faulty (faulty : engine.refusals.headD false = true) :
    engine.Fails (answered (engine.write change)) (.storage (.database .disk)) := by
  rw [write_of_faulty faulty]
  exact ⟨rfl, _, rfl⟩

theorem answered_of_accepted (change : Store → Except StoreError (α × Store)) {value : α}
    {store : Store} (healthy : engine.refusals.headD false = false)
    (accepted : change engine.store = .ok (value, store)) :
    answered (engine.write change) =
      (.ok value, { engine with store, refusals := engine.refusals.tail }) := by
  rw [write_of_healthy_of_accepted healthy accepted]
  rfl

end Writes

section Results

/-- The lines of a script without blank lines are passed on to the store. -/
theorem createTestCase_eq_answered (engine : Engine) (now : Int) (projectId title : String)
    (solid : ∀ line ∈ lines, ¬Blank line) :
    ∃ drafts, drafts.map StepDraft.rawText = lines.map Text.trimmed ∧
      engine.createTestCase now projectId title lines =
        answered (engine.write (·.createTestCase now projectId title drafts)) := by
  obtain ⟨drafts, drafted, texts⟩ := ofLines_of_solid solid
  refine ⟨drafts, texts, ?_⟩
  rw [Engine.createTestCase, drafted]

theorem updateSteps_eq_answered (engine : Engine) (now : Int) (id : String)
    (solid : ∀ line ∈ lines, ¬Blank line) :
    ∃ drafts, drafts.map StepDraft.rawText = lines.map Text.trimmed ∧
      engine.updateSteps now id lines =
        answered (engine.write (·.replaceSteps now id drafts)) := by
  obtain ⟨drafts, drafted, texts⟩ := ofLines_of_solid solid
  refine ⟨drafts, texts, ?_⟩
  rw [Engine.updateSteps, drafted]

/-- A test case with a title is stored in a project that exists, together with its steps. -/
theorem stores_of_solid (sound : engine.store.Sound) (now : Int)
    (solid : ∀ line ∈ lines, ¬Blank line) (healthy : engine.refusals.headD false = false)
    (titled : ¬Blank title) (home : projectId ∈ engine.store.tables.projects.map Project.id) :
    engine.Stores now projectId title lines := by
  obtain ⟨drafts, texts, asked⟩ := createTestCase_eq_answered engine now projectId title solid
  obtain ⟨testCase, made⟩ : ∃ testCase : TestCase,
      testCase = ⟨Store.idOf engine.store.minted, projectId, Text.trimmed title, now, now⟩ :=
    ⟨_, rfl⟩
  have id : testCase.id = Store.idOf engine.store.minted := by rw [made]
  have fresh : testCase.id ∉ engine.store.tables.ids := by
    rw [id]
    exact sound.fresh _ le_rfl
  have new : testCase.id ∉ engine.store.tables.testCases.map TestCase.id := by
    rw [id]
    exact sound.new_testCase
  have stored := sound.createTestCase_of_titled drafts titled home made
  have outcome := answered_of_accepted (·.createTestCase now projectId title drafts) healthy stored
  rw [← asked] at outcome
  refine ⟨testCase, _, _, _, outcome, ?_, fresh, enacts_draftSteps solid texts, ?_⟩
  · rw [made]
  · rw [outcome]
    exact Store.listSteps_draftSteps _ drafts (sound.tables.bare_of_new new)

theorem creates (sound : engine.store.Sound) (now : Int) (projectId title : String)
    (lines : List String) : engine.Creates now projectId title lines where
  blank := by
    intro number first
    rw [Engine.createTestCase, ofLines_of_firstBlank first]
    exact ⟨⟨rfl, engine.refusals, rfl⟩, rfl⟩
  refused := by
    intro solid faulty
    obtain ⟨drafts, -, asked⟩ := createTestCase_eq_answered engine now projectId title solid
    rw [asked]
    exact fails_answered_of_faulty faulty
  untitled := by
    intro solid healthy untitled
    obtain ⟨drafts, -, asked⟩ := createTestCase_eq_answered engine now projectId title solid
    rw [asked]
    show engine.Fails _ (.ofStore (.validation .blankTitle))
    apply fails_answered healthy
    exact Store.createTestCase_of_untitled untitled
  homeless := by
    intro solid healthy titled homeless
    obtain ⟨drafts, -, asked⟩ := createTestCase_eq_answered engine now projectId title solid
    rw [asked]
    show engine.Fails _ (.ofStore (.notFound .project projectId))
    apply fails_answered healthy
    exact Store.createTestCase_of_homeless titled homeless
  created := stores_of_solid sound now

theorem rewrites (sound : engine.store.Sound) (now : Int) (id : String) (lines : List String) :
    engine.Rewrites now id lines where
  blank := by
    intro number first
    rw [Engine.updateSteps, ofLines_of_firstBlank first]
    exact ⟨rfl, engine.refusals, rfl⟩
  refused := by
    intro solid faulty
    obtain ⟨drafts, -, asked⟩ := updateSteps_eq_answered engine now id solid
    rw [asked]
    exact fails_answered_of_faulty faulty
  missing := by
    intro solid healthy missing
    obtain ⟨drafts, -, asked⟩ := updateSteps_eq_answered engine now id solid
    rw [asked]
    show engine.Fails _ (.ofStore (.notFound .testCase id))
    apply fails_answered healthy
    exact Store.replaceSteps_of_missing missing
  rewritten := by
    intro solid healthy owned
    obtain ⟨drafts, texts, asked⟩ := updateSteps_eq_answered engine now id solid
    have outcome := answered_of_accepted (·.replaceSteps now id drafts) healthy
      (sound.replaceSteps_of_owned now drafts owned)
    rw [← asked] at outcome
    have bare : ∀ step ∈ (engine.store.tables.cleared id now).steps, step.testCaseId ≠ id := by
      intro step kept
      simpa using (List.mem_filter.1 kept).2
    refine ⟨_, _, _, outcome, enacts_draftSteps solid texts, ?_⟩
    rw [outcome]
    exact Store.listSteps_draftSteps engine.store drafts bare

/--
A script is stored as a whole or not at all, whether it is new or replaces another one.
What is refused is named: the first blank line, then the title, then what does not exist.
-/
theorem authored (sound : engine.store.Sound) (now : Int) (projectId title id : String)
    (lines : List String) :
    engine.Creates now projectId title lines ∧ engine.Rewrites now id lines ∧
      ((∃ number, FirstBlank lines number) ∨ ∀ line ∈ lines, ¬Blank line) :=
  ⟨creates sound now projectId title lines, rewrites sound now id lines, firstBlank_or_solid lines⟩

end Results

section Sample

/-- An engine with one project. -/
def sampleShop : Engine :=
  { (System.opened {} default System.sampleOptions).engine with
    store := ⟨{ projects := [⟨Store.idOf 0, "Shop", 0⟩] }, 1⟩ }

theorem sound_sampleShop : sampleShop.store.Sound := by
  have created : Store.createProject {} 0 "Shop" =
      .ok (⟨Store.idOf 0, "Shop", 0⟩, sampleShop.store) := by decide +kernel
  exact Store.Sound.empty.createProject created

theorem authored_sampleShop : sampleShop.store.Sound ∧
    sampleShop.Stores 1 (Store.idOf 0) " Login " ["Click \"Login\"", " Go to \"/home\" "] ∧
    sampleShop.Fails (sampleShop.createTestCase 1 "nowhere" "" ["Click \"Login\"", " "])
      (.validation (.blankLine 2)) ∧
    sampleShop.Fails (sampleShop.updateSteps 1 "nothing" ["Click \"Login\""])
      (.notFound .testCase "nothing") := by
  refine ⟨sound_sampleShop, ?_, ?_, ?_⟩
  · exact (authored sound_sampleShop 1 (Store.idOf 0) " Login " ""
      ["Click \"Login\"", " Go to \"/home\" "]).1.created (by decide) rfl (by decide)
      List.mem_cons_self
  · exact ((authored sound_sampleShop 1 "nowhere" "" "" ["Click \"Login\"", " "]).1.blank 2
      ⟨["Click \"Login\""], " ", [], rfl, by decide, by decide, rfl⟩).1
  · exact (authored sound_sampleShop 1 "" "" "nothing" ["Click \"Login\""]).2.1.missing
      (by decide) rfl List.not_mem_nil

end Sample

end Engine

end StepRunner
