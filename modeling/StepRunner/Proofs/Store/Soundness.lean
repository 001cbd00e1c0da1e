import Mathlib.Tactic.IntervalCases
import StepRunner.Json.Reader
import StepRunner.Proofs.Fallible
import StepRunner.Proofs.Store.Integrity
import StepRunner.Store.Basic

/-!
This file shows that every operation keeps the store sound: its tables are sound, and the ids that
it will hand out are new.
An id is read back as the number that it was made from, so the store never hands out one id twice.
-/

namespace StepRunner.Store

section Identity

/-- The number that hexadecimal digits write. -/
def hexNumber (digits : List Char) : Nat :=
  digits.foldl (fun value digit => 16 * value + (Json.hexValue? digit).getD 0) 0

theorem hexValue_digitChar (value : Nat) (small : value < 16) :
    Json.hexValue? value.digitChar = some value := by
  interval_cases value <;> decide

theorem hexNumber_concat (digits : List Char) (value : Nat) (small : value < 16) :
    hexNumber (digits ++ [value.digitChar]) = 16 * hexNumber digits + value := by
  simp [hexNumber, hexValue_digitChar value small]

theorem hexNumber_toDigits (number : Nat) : hexNumber (Nat.toDigits 16 number) = number := by
  induction number using Nat.strongRecOn with
  | ind number inductionHypothesis =>
    by_cases small : number < 16
    · rw [Nat.toDigits_of_lt_base small]
      have single := hexNumber_concat [] number small
      simpa [hexNumber] using single
    · rw [Nat.toDigits_of_base_le (by decide) (by omega),
        hexNumber_concat _ _ (Nat.mod_lt _ (by decide)),
        inductionHypothesis _ (by omega)]
      omega

/-- The digits of a number are hexadecimal. -/
theorem digitChar_of_mem_toDigits {number : Nat} {digit : Char}
    (present : digit ∈ Nat.toDigits 16 number) : ∃ value < 16, digit = value.digitChar := by
  induction number using Nat.strongRecOn with
  | ind number inductionHypothesis =>
    by_cases small : number < 16
    · rw [Nat.toDigits_of_lt_base small, List.mem_singleton] at present
      exact ⟨number, small, present⟩
    · rw [Nat.toDigits_of_base_le (by decide) (by omega), List.mem_append,
        List.mem_singleton] at present
      rcases present with earlier | last
      · exact inductionHypothesis _ (by omega) earlier
      · exact ⟨_, Nat.mod_lt _ (by decide), last⟩

theorem hexNumber_padded (zeros : Nat) (digits : List Char) :
    hexNumber (List.replicate zeros '0' ++ digits) = hexNumber digits := by
  induction zeros with
  | zero => rfl
  | succ zeros inductionHypothesis => exact inductionHypothesis

/-- Two numbers never make the same id. -/
theorem idOf_injective : Function.Injective idOf := by
  intro first second equal
  have written := String.ofList_injective equal
  simp only [List.append_assoc] at written
  have digits := congrArg hexNumber (List.append_cancel_left written)
  simpa only [hexNumber_padded, hexNumber_toDigits] using digits

end Identity

/--
The tables are sound, and no row has an id that is still to be handed out.
The empty store is sound, and every operation of an engine keeps its store sound.
-/
structure Sound (store : Store) : Prop where
  tables : store.tables.Sound
  fresh : ∀ number, store.minted ≤ number → idOf number ∉ store.tables.ids

variable {store after : Store}

/-- Ids that are old or handed out by now leave the later ids new. -/
theorem Sound.fresh_of (sound : store.Sound) {tables : Tables} {minted : Nat}
    (later : store.minted ≤ minted)
    (known : ∀ id ∈ tables.ids, id ∈ store.tables.ids ∨ ∃ number < minted, id = idOf number) :
    ∀ number, minted ≤ number → idOf number ∉ tables.ids := by
  intro number coming present
  rcases known _ present with old | ⟨made, early, same⟩
  · exact sound.fresh number (le_trans later coming) old
  · have equal := idOf_injective same
    omega

theorem Sound.empty : Sound {} where
  tables := .empty
  fresh := by simp [Tables.ids]

section Creation

theorem createProject_eq {now : Int} {name : String} {project : Project}
    (created : store.createProject now name = .ok (project, after)) :
    project.id = idOf store.minted ∧ project.id ∉ store.tables.projects.map Project.id ∧
      after = ⟨{ store.tables with projects := store.tables.projects ++ [project] },
        store.minted + 1⟩ := by
  simp only [createProject, refuse_eq_ok_iff, change, bind_eq_ok_iff, map_eq_ok_iff,
    pure_eq_ok_iff, Prod.mk.injEq] at created
  obtain ⟨-, _, ⟨tables, added, rfl⟩, rfl, rfl⟩ := created
  obtain ⟨new, rfl⟩ := Tables.addProject_eq added
  exact ⟨rfl, new, rfl⟩

/-- Steps that are added one after the other are new and belong to test cases that exist. -/
theorem addSteps_eq {tables result : Tables} {steps : List Step}
    (added : tables.addSteps steps = .ok result) :
    result = { tables with steps := tables.steps ++ steps } ∧
      ((tables.steps.map Step.id).Nodup → ((tables.steps ++ steps).map Step.id).Nodup) ∧
      ∀ step ∈ steps, ∃ testCase ∈ tables.testCases, testCase.id = step.testCaseId := by
  induction steps generalizing tables with
  | nil =>
    obtain rfl : tables = result := Except.ok.inj added
    simp
  | cons step steps inductionHypothesis =>
    obtain ⟨middle, first, later⟩ := bind_eq_ok_iff.1 added
    obtain ⟨new, owned, rfl⟩ := Tables.addStep_eq first
    obtain ⟨rfl, unique, others⟩ := inductionHypothesis later
    refine ⟨by simp, fun before => ?_, ?_⟩
    · simpa using unique (Rows.nodup_append_singleton before new)
    · intro other present
      rcases List.mem_cons.1 present with rfl | later
      · exact owned
      · exact others other later

theorem insertSteps_eq {id : String} {drafts : List StepDraft} {steps : List Step}
    (inserted : store.insertSteps id drafts = .ok (steps, after)) :
    steps = store.draftSteps id drafts ∧ store.tables.addSteps steps = .ok after.tables ∧
      after.minted = store.minted + drafts.length := by
  simp only [insertSteps, bind_eq_ok_iff, pure_eq_ok_iff, Prod.mk.injEq] at inserted
  obtain ⟨tables, added, rfl, rfl⟩ := inserted
  exact ⟨rfl, added, rfl⟩

theorem createTestCase_eq {now : Int} {projectId title : String} {drafts : List StepDraft}
    {testCase : TestCase} {steps : List Step}
    (created : store.createTestCase now projectId title drafts = .ok ((testCase, steps), after)) :
    testCase.id = idOf store.minted ∧ ∃ tables, store.tables.addTestCase testCase = .ok tables ∧
      insertSteps ⟨tables, store.minted + 1⟩ testCase.id drafts = .ok (steps, after) := by
  simp only [createTestCase, refuse_eq_ok_iff, change, bind_eq_ok_iff, map_eq_ok_iff,
    pure_eq_ok_iff, Prod.mk.injEq] at created
  obtain ⟨-, -, _, ⟨tables, added, rfl⟩, ⟨_, _⟩, inserted, ⟨rfl, rfl⟩, rfl⟩ := created
  exact ⟨rfl, tables, added, inserted⟩

theorem replaceSteps_eq {now : Int} {testCaseId : String} {drafts : List StepDraft}
    {steps : List Step} (replaced : store.replaceSteps now testCaseId drafts = .ok (steps, after)) :
    testCaseId ∈ store.tables.testCases.map TestCase.id ∧
      (store.withTables
        { store.tables with
          testCases := store.tables.testCases.map fun testCase =>
            if testCase.id = testCaseId then { testCase with updatedAt := now } else testCase
          steps := store.tables.steps.filter fun step => step.testCaseId ≠ testCaseId }).insertSteps
        testCaseId drafts = .ok (steps, after) := by
  simp only [replaceSteps, refuse_eq_ok_iff, Bool.not_eq_true, Option.isNone_eq_false_iff,
    Option.isSome_iff_ne_none, ne_eq, Tables.testCase?_eq_none_iff, not_not] at replaced
  exact replaced

theorem draftSteps_orders (testCaseId : String) (drafts : List StepDraft) :
    (store.draftSteps testCaseId drafts).map Step.order =
      List.range' 1 (store.draftSteps testCaseId drafts).length := by
  have orders : (store.draftSteps testCaseId drafts).map Step.order =
      (drafts.zipIdx.map Prod.snd).map (1 + ·) := by
    rw [draftSteps, List.map_map, List.map_map]
    exact List.map_congr_left fun entry _ => Nat.add_comm entry.2 1
  rw [orders, List.zipIdx_map_snd, List.map_add_range']
  simp [draftSteps]

theorem draftSteps_own {testCaseId : String} {drafts : List StepDraft} {step : Step}
    (drafted : step ∈ store.draftSteps testCaseId drafts) :
    step.testCaseId = testCaseId ∧
      ∃ number < store.minted + drafts.length, step.id = idOf number := by
  simp only [draftSteps, List.mem_map] at drafted
  obtain ⟨⟨draft, index⟩, present, rfl⟩ := drafted
  have inside := List.mem_zipIdx' present
  exact ⟨rfl, store.minted + index, by omega, rfl⟩

end Creation

section Scripts

theorem tables_insertSteps (sound : store.tables.Sound) {id : String} {drafts : List StepDraft}
    {steps : List Step} (owned : ∃ testCase ∈ store.tables.testCases, testCase.id = id)
    (bare : ∀ step ∈ store.tables.steps, step.testCaseId ≠ id)
    (inserted : store.insertSteps id drafts = .ok (steps, after)) : after.tables.Sound := by
  obtain ⟨rfl, added, -⟩ := insertSteps_eq inserted
  obtain ⟨tables, unique, -⟩ := addSteps_eq added
  rw [tables]
  exact sound.withSteps (unique sound.keyed.steps) owned bare
    (fun step drafted => (draftSteps_own drafted).1) (draftSteps_orders id drafts)

theorem tables_createTestCase (sound : store.tables.Sound) {now : Int} {projectId title : String}
    {drafts : List StepDraft} {made : TestCase × List Step}
    (created : store.createTestCase now projectId title drafts = .ok (made, after)) :
    after.tables.Sound := by
  obtain ⟨testCase, steps⟩ := made
  obtain ⟨-, tables, added, inserted⟩ := createTestCase_eq created
  obtain ⟨new, owned, rfl⟩ := Tables.addTestCase_eq added
  refine tables_insertSteps ?_ ?_ ?_ inserted
  · exact sound.withTestCase new owned
  · exact ⟨testCase, by simp, rfl⟩
  · exact sound.bare_of_new new

/-- A test case whose steps are replaced has lost its old ones when the new ones are added. -/
theorem replaceSteps_ready (sound : store.tables.Sound) {now : Int} {testCaseId : String}
    {drafts : List StepDraft} {steps : List Step}
    (replaced : store.replaceSteps now testCaseId drafts = .ok (steps, after)) :
    let cleared : Tables :=
      { store.tables with
        testCases := store.tables.testCases.map fun testCase =>
          if testCase.id = testCaseId then { testCase with updatedAt := now } else testCase
        steps := store.tables.steps.filter fun step => step.testCaseId ≠ testCaseId }
    cleared.Sound ∧ (∃ testCase ∈ cleared.testCases, testCase.id = testCaseId) ∧
      (∀ step ∈ cleared.steps, step.testCaseId ≠ testCaseId) ∧
      cleared.testCases.map TestCase.id = store.tables.testCases.map TestCase.id := by
  obtain ⟨named, -⟩ := replaceSteps_eq replaced
  have kept := Rows.map_key_update TestCase.id store.tables.testCases
    (fun testCase => decide (testCase.id = testCaseId))
    (fun testCase => { testCase with updatedAt := now }) fun _ => rfl
  simp only [decide_eq_true_eq] at kept
  refine ⟨?_, ?_, ?_, kept⟩
  · exact (sound.clearSteps testCaseId).updateTestCase testCaseId
      (fun testCase => { testCase with updatedAt := now }) (fun _ => rfl) fun _ => rfl
  · rw [← kept] at named
    exact List.mem_map.1 named
  · intro step present
    simpa using (List.mem_filter.1 present).2

theorem tables_replaceSteps (sound : store.tables.Sound) {now : Int} {testCaseId : String}
    {drafts : List StepDraft} {steps : List Step}
    (replaced : store.replaceSteps now testCaseId drafts = .ok (steps, after)) :
    after.tables.Sound := by
  obtain ⟨cleared, owned, bare, -⟩ := replaceSteps_ready sound replaced
  exact tables_insertSteps cleared owned bare (replaceSteps_eq replaced).2

end Scripts

namespace Sound

theorem createProject (sound : store.Sound) {now : Int} {name : String} {project : Project}
    (created : store.createProject now name = .ok (project, after)) : after.Sound := by
  obtain ⟨made, new, rfl⟩ := createProject_eq created
  refine ⟨sound.tables.withProject new, sound.fresh_of (Nat.le_succ _) ?_⟩
  intro id present
  by_cases same : id = project.id
  · exact .inr ⟨store.minted, Nat.lt_succ_self _, same.trans made⟩
  · refine .inl ?_
    simp only [Tables.ids, List.map_append, List.mem_append] at present ⊢
    simpa [same] using present

theorem insertSteps (sound : store.Sound) {id : String} {drafts : List StepDraft}
    {steps : List Step} (owned : ∃ testCase ∈ store.tables.testCases, testCase.id = id)
    (bare : ∀ step ∈ store.tables.steps, step.testCaseId ≠ id)
    (inserted : store.insertSteps id drafts = .ok (steps, after)) : after.Sound := by
  refine ⟨tables_insertSteps sound.tables owned bare inserted, ?_⟩
  obtain ⟨rfl, added, minted⟩ := insertSteps_eq inserted
  refine sound.fresh_of (by omega) ?_
  intro other present
  rw [(addSteps_eq added).1] at present
  simp only [Tables.ids, List.map_append, List.mem_append] at present ⊢
  by_cases drafted : other ∈ (store.draftSteps id drafts).map Step.id
  · obtain ⟨step, among, rfl⟩ := List.mem_map.1 drafted
    rw [minted]
    exact .inr (draftSteps_own among).2
  · exact .inl (by simpa [drafted] using present)

theorem withTestCase (sound : store.Sound) {testCase : TestCase} {tables : Tables}
    (made : testCase.id = idOf store.minted)
    (added : store.tables.addTestCase testCase = .ok tables) :
    Sound ⟨tables, store.minted + 1⟩ := by
  obtain ⟨new, owned, rfl⟩ := Tables.addTestCase_eq added
  refine ⟨sound.tables.withTestCase new owned, sound.fresh_of (Nat.le_succ _) ?_⟩
  intro id present
  by_cases same : id = testCase.id
  · exact .inr ⟨store.minted, Nat.lt_succ_self _, same.trans made⟩
  · refine .inl ?_
    simp only [Tables.ids, List.map_append, List.mem_append] at present ⊢
    simpa [same] using present

theorem createTestCase (sound : store.Sound) {now : Int} {projectId title : String}
    {drafts : List StepDraft} {made : TestCase × List Step}
    (created : store.createTestCase now projectId title drafts = .ok (made, after)) :
    after.Sound := by
  obtain ⟨testCase, steps⟩ := made
  obtain ⟨made, tables, added, inserted⟩ := createTestCase_eq created
  obtain ⟨new, -, rfl⟩ := Tables.addTestCase_eq added
  exact (sound.withTestCase made added).insertSteps ⟨testCase, by simp, rfl⟩
    (sound.tables.bare_of_new new) inserted

theorem replaceSteps (sound : store.Sound) {now : Int} {testCaseId : String}
    {drafts : List StepDraft} {steps : List Step}
    (replaced : store.replaceSteps now testCaseId drafts = .ok (steps, after)) : after.Sound := by
  obtain ⟨cleared, owned, bare, kept⟩ := replaceSteps_ready sound.tables replaced
  refine insertSteps ⟨cleared, ?_⟩ owned bare (replaceSteps_eq replaced).2
  refine sound.fresh_of le_rfl fun id present => .inl (Tables.ids_subset ?_ ?_ ?_ ?_ ?_ present)
  · exact List.Subset.refl _
  · exact fun id present => kept ▸ present
  · exact List.map_subset _ List.filter_sublist.subset
  · exact List.Subset.refl _
  · exact List.Subset.refl _

theorem deleteProject (sound : store.Sound) (id : String) : (store.deleteProject id).2.Sound :=
  ⟨sound.tables.removeProject id,
    sound.fresh_of le_rfl fun _ present => .inl (Tables.ids_removeProject_subset id present)⟩

theorem deleteTestCase (sound : store.Sound) (id : String) : (store.deleteTestCase id).2.Sound :=
  ⟨sound.tables.removeTestCases _,
    sound.fresh_of le_rfl fun _ present => .inl (Tables.ids_removeTestCases_subset _ present)⟩

end Sound

end StepRunner.Store
