import StepRunner.Proofs.Store.Soundness

/-!
This file makes the calls of the store data, so that it can speak of every sequence of them.
Whatever is called with whatever arguments, the tables stay sound.
-/

namespace StepRunner.Store

/-- A call that may change the store. -/
inductive Operation where
  | mint
  | createProject (now : Int) (name : String)
  | createTestCase (now : Int) (projectId title : String) (drafts : List StepDraft)
  | replaceSteps (now : Int) (testCaseId : String) (drafts : List StepDraft)
  | deleteProject (id : String)
  | deleteTestCase (id : String)
  | insertRun (run : Run)
  | moveRun (now : Int) (id : String) (next : RunStatus) (error : Option String)
  | deleteQueuedRun (id : String)
  | recover (now : Int)
  | insertResult (result : StepResult)
  | finishResult (outcome : StepResult)
  | failPending (now : Int) (runId error : String)

/-- The store after a change that it may refuse. -/
def accepting (store : Store) : Except StoreError Store → Store
  | .ok after => after
  | .error _ => store

/-- The store after a call. -/
def perform (store : Store) : Operation → Store
  | .mint => store.mint.2
  | .createProject now name => store.accepting ((store.createProject now name).map Prod.snd)
  | .createTestCase now projectId title drafts =>
    store.accepting ((store.createTestCase now projectId title drafts).map Prod.snd)
  | .replaceSteps now testCaseId drafts =>
    store.accepting ((store.replaceSteps now testCaseId drafts).map Prod.snd)
  | .deleteProject id => (store.deleteProject id).2
  | .deleteTestCase id => (store.deleteTestCase id).2
  | .insertRun run => store.accepting (store.insertRun run)
  | .moveRun now id next error =>
    store.accepting ((store.moveRun now id next error).map Prod.snd)
  | .deleteQueuedRun id => (store.deleteQueuedRun id).2
  | .recover now => (store.recover now).2
  | .insertResult result => store.accepting (store.insertResult result)
  | .finishResult outcome => store.accepting (store.finishResult outcome)
  | .failPending now runId error => (store.failPending now runId error).2

/-- The store after a sequence of calls. -/
def performAll (store : Store) (operations : List Operation) : Store :=
  operations.foldl perform store

variable {store after : Store}

section Acceptance

/-- What holds of the store itself and of every accepted change holds after the change. -/
theorem accepting_induction (Good : Store → Prop) {outcome : Except StoreError Store}
    (refused : Good store) (accepted : ∀ after, outcome = .ok after → Good after) :
    Good (store.accepting outcome) := by
  cases outcome with
  | error fault => exact refused
  | ok after => exact accepted after rfl

theorem accepting_map_induction {Value : Type} (Good : Store → Prop)
    {outcome : Except StoreError (Value × Store)} (refused : Good store)
    (accepted : ∀ value after, outcome = .ok (value, after) → Good after) :
    Good (store.accepting (outcome.map Prod.snd)) := by
  cases outcome with
  | error fault => exact refused
  | ok change => exact accepted change.1 change.2 rfl

theorem moveRun_eq {now : Int} {id : String} {next : RunStatus} {error : Option String}
    {run : Run} (moves : store.moveRun now id next error = .ok (run, after)) :
    ∃ row, store.tables.run? id = some row ∧ row.status.canMoveTo next = true ∧
      run = moved row now next error ∧ after = store.writeMove run := by
  obtain ⟨changed, checked, made⟩ := bind_eq_ok_iff.1 moves
  obtain ⟨rfl, rfl⟩ := Prod.mk.inj (pure_eq_ok_iff.1 made)
  unfold checkMove at checked
  split at checked
  · cases checked
  · next row found =>
    split at checked
    · next edge => exact ⟨row, found, edge, (Except.ok.inj checked).symm, rfl⟩
    · cases checked

theorem insertRun_eq {run : Run} (inserted : store.insertRun run = .ok after) :
    run.id ∉ store.tables.runs.map Run.id ∧
      (∃ testCase ∈ store.tables.testCases, testCase.id = run.testCaseId) ∧
      after = store.withTables { store.tables with runs := store.tables.runs ++ [run] } := by
  obtain ⟨tables, added, rfl⟩ := map_eq_ok_iff.1 inserted
  obtain ⟨new, owned, rfl⟩ := Tables.addRun_eq added
  exact ⟨new, owned, rfl⟩

theorem insertResult_eq {result : StepResult} (inserted : store.insertResult result = .ok after) :
    result.id ∉ store.tables.results.map StepResult.id ∧
      (∃ run ∈ store.tables.runs, run.id = result.runId) ∧
      after = store.withTables
        { store.tables with results := store.tables.results ++ [result] } := by
  obtain ⟨tables, added, rfl⟩ := map_eq_ok_iff.1 inserted
  obtain ⟨new, owned, rfl⟩ := Tables.addResult_eq added
  exact ⟨new, owned, rfl⟩

/-- The outcome of a step changes step results only. -/
theorem finishResult_eq {outcome : StepResult} (finished : store.finishResult outcome = .ok after) :
    after = store.withTables (store.tables.updateResults (isPending outcome.id) fun result =>
      { result with
        status := outcome.status
        errorText := outcome.errorText
        screenshotPath := outcome.screenshotPath
        endedAt := outcome.endedAt }) := by
  unfold finishResult at finished
  split at finished
  · exact (Except.ok.inj finished).symm
  · cases finished

end Acceptance

/-- Every call keeps the tables sound. -/
theorem tables_perform (sound : store.tables.Sound) (operation : Operation) :
    (store.perform operation).tables.Sound := by
  cases operation with
  | mint => exact sound
  | createProject now name =>
    refine accepting_map_induction (·.tables.Sound) sound fun project after created => ?_
    obtain ⟨-, new, rfl⟩ := createProject_eq created
    exact sound.withProject new
  | createTestCase now projectId title drafts =>
    refine accepting_map_induction (·.tables.Sound) sound fun made after created => ?_
    exact tables_createTestCase sound created
  | replaceSteps now testCaseId drafts =>
    refine accepting_map_induction (·.tables.Sound) sound fun steps after replaced => ?_
    exact tables_replaceSteps sound replaced
  | deleteProject id => exact sound.removeProject id
  | deleteTestCase id => exact sound.removeTestCases _
  | insertRun run =>
    refine accepting_induction (·.tables.Sound) sound fun after inserted => ?_
    obtain ⟨new, owned, rfl⟩ := insertRun_eq inserted
    exact sound.withRun new owned
  | moveRun now id next error =>
    refine accepting_map_induction (·.tables.Sound) sound fun run after moves => ?_
    obtain ⟨row, -, -, -, rfl⟩ := moveRun_eq moves
    exact sound.updateRun run.id (fun _ => rfl) fun _ => rfl
  | deleteQueuedRun id => exact (sound.filterResults _).removeRuns _
  | recover now =>
    have failed : (store.recoverResults now).tables.Sound :=
      sound.updateResults _ (fun _ => rfl) fun _ => rfl
    refine failed.mapRuns (fun run => ?_) fun run => ?_
    · split <;> rfl
    · split <;> rfl
  | insertResult result =>
    refine accepting_induction (·.tables.Sound) sound fun after inserted => ?_
    obtain ⟨new, owned, rfl⟩ := insertResult_eq inserted
    exact sound.withResult new owned
  | finishResult outcome =>
    refine accepting_induction (·.tables.Sound) sound fun after finished => ?_
    rw [finishResult_eq finished]
    exact sound.updateResults _ (fun _ => rfl) fun _ => rfl
  | failPending now runId error =>
    exact sound.updateResults _ (fun _ => rfl) fun _ => rfl

theorem tables_performAll (sound : store.tables.Sound) (operations : List Operation) :
    (store.performAll operations).tables.Sound := by
  induction operations generalizing store with
  | nil => exact sound
  | cons operation operations inductionHypothesis =>
    exact inductionHypothesis (tables_perform sound operation)

end StepRunner.Store
