import Mathlib.Data.List.Induction
import StepRunner.Proofs.Engine.Readings

/-!
This file shows that the report of a run never shows a wrong step.
A start reads the steps of its test case, waits, and stores its run; scripts may be replaced, test
cases created and processes may die at any time before, between and after.
-/

namespace StepRunner

/-- What an entry of a report says of a step that a run has begun, and of the result of the step. -/
structure ReportStep.Tells (entry : ReportStep) (result : StepResult) (step : Step)
    (replaced : Prop) : Prop where
  place : result.place = step.place
  stepId : entry.stepId = step.id
  order : entry.order = step.order
  status : entry.status = result.status
  errorText : entry.errorText = result.errorText
  screenshotPath : entry.screenshotPath = result.screenshotPath
  shown : ¬replaced → ∃ action, step.action? = some action ∧
    entry.rawText = some step.rawText ∧ entry.action = some action.label
  hidden : replaced → entry.rawText = none ∧ entry.action = none

/-- A report has one entry for each result of its run, in the order of the steps. -/
structure RunReport.Lists (report : RunReport) (results : List StepResult) (steps : List Step)
    (replaced : Prop) : Prop where
  orders : report.steps.map ReportStep.order = List.range' 1 results.length
  short : results.length ≤ steps.length
  entries : List.Forall₂ (fun entry (result, step) => entry.Tells result step replaced)
    report.steps (results.zip steps)

/-- A run carries out some steps, and its report tells what has become of them. -/
structure Engine.Recounts (engine : Engine) (run : Run) (steps : List Step) (replaced : Prop) :
    Prop where
  carried : ∀ task ∈ engine.tasks, task.run.id = run.id → task.steps = steps
  reported : ∃ report, engine.report run.id = .ok report ∧ report.run = run ∧
    report.testCase.id = run.testCaseId ∧
    report.Lists (engine.store.tables.resultsOf run.id) steps replaced

namespace System

/-- An occurrence ends the wait of a start and stores a run for it. -/
structure Stores (system : System) (occurrence : Occurrence) (call : StartCall)
    (runId : String) : Prop where
  waits : ∃ turn index installed, occurrence.turn? = some turn ∧
    turn.move = .conclude index installed ∧ system.waiting[index]? = some call
  new : runId ∉ system.engine.store.tables.runs.map Run.id
  stored : runId ∈ (system.occur occurrence).engine.store.tables.runs.map Run.id

/-- A start that reads the steps of its test case in a history, and later stores its run. -/
structure Launch (first : System) (history : List Occurrence) where
  call : StartCall
  runId : String
  early : List Occurrence
  sessions : Nat → Session
  reading : Turn
  /-- What happens while the start waits. -/
  meanwhile : List Occurrence
  storing : Occurrence
  late : List Occurrence
  split : history = early ++ .turn sessions reading :: (meanwhile ++ storing :: late)
  reads : (first.lived early).Reads reading call
  stores : (((first.lived early).step sessions reading).lived meanwhile).Stores storing call runId

/-- The steps of the test case are replaced after the start has read them. -/
def Launch.Replaced {first : System} {history : List Occurrence} (launch : Launch first history) :
    Prop :=
  ((first.lived launch.early).step launch.sessions launch.reading).Replaced launch.call.testCase.id
    (launch.meanwhile ++ launch.storing :: launch.late)

/--
Each run has been launched, and its report shows the steps that its start has read, or no text of
any step once they are replaced.
-/
structure Recounted (first : System) (history : List Occurrence) : Prop where
  launched : ∀ run ∈ (first.lived history).engine.store.tables.runs,
    ∃ launch : Launch first history, launch.runId = run.id
  /-- A run stays as long as its test case. -/
  shown : ∀ launch : Launch first history,
    let engine := (first.lived history).engine
    launch.call.testCase.id ∈ engine.store.tables.testCases.map TestCase.id →
      ∃ run ∈ engine.store.tables.runs,
        run.id = launch.runId ∧ run.testCaseId = launch.call.testCase.id ∧
          engine.Recounts run launch.call.steps launch.Replaced

/-- An occurrence ends the wait of a start and gives it a new id for its run. -/
def Grants (system : System) (occurrence : Occurrence) (call : StartCall) (runId : String) :
    Prop :=
  ∃ turn, occurrence.turn? = some turn ∧ system.Gives turn call runId

/-- The tasks and the results of a run are about some steps. -/
structure Carries (system : System) (runId : String) (steps : List Step) : Prop where
  errands : ∀ errand ∈ system.engine.errands, errand.1 = runId → errand.2 = steps
  subjects : ∀ subject ∈ system.engine.store.subjects, subject.1 = runId →
    subject.2 ∈ steps.map Step.place

/-- What a launch has led to. -/
structure Bears (system : System) (call : StartCall) (runId : String) (replaced : Prop) :
    Prop where
  holds : system.engine.store.Holds call.testCase.id call.steps replaced
  carries : system.Carries runId call.steps
  spent : system.engine.store.Spent runId
  stays : call.testCase.id ∈ system.engine.store.tables.testCases.map TestCase.id →
    ∃ run ∈ system.engine.store.tables.runs,
      run.id = runId ∧ run.testCaseId = call.testCase.id

variable {system : System} {occurrence : Occurrence} {store : Store} {call : StartCall}
  {runId : String}

section Occurrences

theorem Made.inserted {run : Run} (made : system.Made occurrence store (.insertRun run)) :
    ∃ call, system.Grants occurrence call run.id ∧ run.testCaseId = call.testCase.id := by
  rcases made with tame | ⟨turn, taken, makes⟩
  · cases tame
  · cases makes with
    | tame tame => cases tame
    | @inserts call number early gives =>
      refine ⟨call, ⟨turn, taken, ?_⟩, rfl⟩
      cases occurrence <;> exact gives

theorem Made.withdrawn (made : system.Made occurrence store (.deleteQueuedRun runId)) :
    ¬system.engine.store.Spent runId := by
  rcases made with tame | ⟨turn, taken, makes⟩
  · cases tame
  · cases makes with
    | tame tame => cases tame
    | @withdraws number new =>
      refine fun spent => spent number ?_ rfl
      cases occurrence <;> exact new

/-- A result is inserted for the next step of a task. -/
theorem Made.begun {result : StepResult}
    (made : system.Made occurrence store (.insertResult result)) :
    store.tables = system.engine.store.tables ∧ ∃ task ∈ system.engine.tasks, ∃ step rest,
      task.stage = .ready (step :: rest) ∧ result.subject = (task.run.id, step.place) := by
  rcases made with tame | ⟨turn, taken, makes⟩
  · cases tame
  · cases makes with
    | tame tame => cases tame
    | @begins task step rest number among stage same early =>
      cases occurrence <;> exact ⟨same, task, among, step, rest, stage, rfl⟩

/-- A run was there before, or a start that ended its wait got it. -/
theorem Passes.runs (passes : system.Passes occurrence store)
    (sound : system.engine.store.Sound) :
    ∀ row ∈ store.tables.runs, (∃ run ∈ system.engine.store.tables.runs, run.id = row.id) ∨
      ∃ call, system.Grants occurrence call row.id ∧ row.testCaseId = call.testCase.id := by
  induction passes with
  | start => exact fun row present => .inl ⟨row, present, rfl⟩
  | @call store operation passes made before =>
    intro row present
    rcases (Store.alters_perform (passes.sound sound).tables operation).origin row present with
      ⟨run, among, changes⟩ | ⟨rfl, -⟩
    · rw [changes.id_eq, changes.testCaseId_eq]
      exact before run among
    · exact .inr made.inserted
  | half now passes before => exact before

/-- A result was there before, or it is about a step of a task. -/
theorem Passes.subjects (passes : system.Passes occurrence store) (regular : system.Regular) :
    ∀ subject ∈ store.subjects, subject ∈ system.engine.store.subjects ∨
      ∃ errand ∈ system.engine.errands,
        errand.1 = subject.1 ∧ subject.2 ∈ errand.2.map Step.place := by
  induction passes with
  | start => exact fun _ => .inl
  | @call store operation passes made before =>
    intro subject present
    by_cases inserts : ∃ result, operation = .insertResult result
    · obtain ⟨result, rfl⟩ := inserts
      rcases store.subjects_insertResult result subject present with old | ⟨rfl, owned⟩
      · exact before subject old
      · obtain ⟨same, task, among, step, rest, stage, about⟩ := made.begun
        have own : result.runId = task.run.id := congrArg Prod.fst about
        rw [same, own] at owned
        have left : step :: rest ∈ task.rest? := by simp [RunTask.rest?, stage]
        have steps := (regular.tracked.coherent.tracks task among).rest owned _ left
        have next : step ∈ task.steps := by
          apply List.mem_of_mem_drop
          rw [← steps]
          exact List.mem_cons_self
        refine .inr ⟨task.errand, List.mem_map_of_mem among, own.symm, ?_⟩
        rw [about]
        exact List.mem_map_of_mem next
    · refine before subject (Store.subjects_perform operation (fun result same => ?_) present)
      exact inserts ⟨result, same⟩
  | half now passes before =>
    exact fun subject present => before subject (Store.subjects_recoverResults _ now present)

/-- A run stays as long as its test case. -/
theorem Passes.stays (passes : system.Passes occurrence store)
    (sound : system.engine.store.Sound) {id : String} (spent : system.engine.store.Spent id)
    (runSpent : system.engine.store.Spent runId)
    (stays : ∃ run ∈ system.engine.store.tables.runs, run.id = runId ∧ run.testCaseId = id)
    (known : id ∈ store.tables.testCases.map TestCase.id) :
    ∃ run ∈ store.tables.runs, run.id = runId ∧ run.testCaseId = id := by
  induction passes with
  | start => exact stays
  | @call store operation passes made before =>
    have tables := (passes.sound sound).tables
    have still : id ∈ store.tables.testCases.map TestCase.id := by
      refine (Store.known_perform tables operation known).resolve_right fun new => ?_
      exact spent.later passes.minted_le _ le_rfl new
    obtain ⟨run, present, rfl, rfl⟩ := before still
    refine Store.stays_perform tables present (fun withdraws => ?_) known
    subst withdraws
    exact made.withdrawn runSpent
  | half now passes before => exact before known

theorem errands_occur (system : System) (occurrence : Occurrence) :
    ∀ errand ∈ (system.occur occurrence).engine.errands, errand ∈ system.engine.errands ∨
      ∃ call, system.Grants occurrence call errand.1 ∧ errand.2 = call.steps := by
  intro errand among
  cases occurrence with
  | turn sessions turn =>
    rcases (turns_step sessions system turn).errands errand among with old | ⟨call, gives, same⟩
    · exact .inl old
    · exact .inr ⟨call, ⟨turn, rfl, gives⟩, same⟩
  | disk refusals => exact .inl among
  | restart artifacts options => cases among
  | crash sessions turn writes artifacts options => cases among
  | recovery now => exact .inl among
  | halfRecovery now => exact .inl among

theorem waiting_occur (system : System) (occurrence : Occurrence) :
    ∀ call ∈ (system.occur occurrence).waiting, call ∈ system.waiting ∨
      ∃ sessions turn, occurrence = .turn sessions turn ∧ system.Reads turn call := by
  intro call waits
  cases occurrence with
  | turn sessions turn =>
    rcases (turns_step sessions system turn).waiting call waits with old | reads
    · exact .inl old
    · exact .inr ⟨sessions, turn, rfl, reads⟩
  | disk refusals => exact .inl waits
  | restart artifacts options => cases waits
  | crash sessions turn writes artifacts options => cases waits
  | recovery now => exact .inl waits
  | halfRecovery now => exact .inl waits

end Occurrences

section Launches

variable {steps : List Step} {replaced : Prop}

/-- A run goes on with the steps of its start. -/
theorem Carries.occur (carries : system.Carries runId steps) (regular : system.Regular)
    (occurrence : Occurrence)
    (given : ∀ call, system.Grants occurrence call runId → call.steps = steps) :
    (system.occur occurrence).Carries runId steps where
  errands errand among own := by
    rcases errands_occur system occurrence errand among with old | ⟨call, grants, same⟩
    · exact carries.errands errand old own
    · rw [same]
      exact given call (own ▸ grants)
  subjects subject present own := by
    rcases (system.passes_occur occurrence).subjects regular subject present with
      old | ⟨errand, among, run, placed⟩
    · exact carries.subjects subject old own
    · rwa [carries.errands errand among (run.trans own)] at placed

/-- Nobody gets an id again that is spent. -/
theorem Grants.unspent (grants : system.Grants occurrence call runId) :
    ¬system.engine.store.Spent runId := by
  obtain ⟨turn, -, -, number, new, same⟩ := grants
  exact fun spent => spent number new same

theorem Bears.occur (bears : system.Bears call runId replaced) (regular : system.Regular)
    (occurrence : Occurrence) :
    (system.occur occurrence).Bears call runId
      (replaced ∨ system.Replaces call.testCase.id occurrence) := by
  have passes := system.passes_occur occurrence
  refine ⟨holds_occur regular.sound bears.holds occurrence, ?_,
    bears.spent.later passes.minted_le, fun known => ?_⟩
  -- No start gets the id of the run again, so nothing is added to the run but its own results.
  · exact bears.carries.occur regular occurrence fun _ grants => absurd bears.spent grants.unspent
  · have before := passes.known regular.sound bears.holds.spent known
    exact passes.stays regular.sound bears.holds.spent bears.spent (bears.stays before) known

theorem Stores.eq_of_grants (stores : system.Stores occurrence call runId) {other : StartCall}
    {id : String} (grants : system.Grants occurrence other id) : other = call := by
  obtain ⟨turn, index, installed, taken, move, waits⟩ := stores.waits
  obtain ⟨again, same, ⟨place, outcome, concludes, found⟩, -⟩ := grants
  obtain rfl : turn = again := Option.some.inj (taken.symm.trans same)
  obtain ⟨rfl, -⟩ := Move.conclude.inj (move.symm.trans concludes)
  exact Option.some.inj (found.symm.trans waits)

/-- A run that is stored for a start has got its id and its test case from the start. -/
theorem Stores.row (stores : system.Stores occurrence call runId)
    (sound : system.engine.store.Sound) :
    system.Grants occurrence call runId ∧
      ∃ run ∈ (system.occur occurrence).engine.store.tables.runs,
        run.id = runId ∧ run.testCaseId = call.testCase.id := by
  obtain ⟨run, present, rfl⟩ := List.mem_map.1 stores.stored
  rcases (system.passes_occur occurrence).runs sound run present with
    ⟨old, among, same⟩ | ⟨other, grants, owner⟩
  · exact absurd (List.mem_map.2 ⟨old, among, same⟩) stores.new
  · obtain rfl := stores.eq_of_grants grants
    exact ⟨grants, run, present, rfl, owner⟩

/-- A run that is not stored yet, with a new id, is nobody's. -/
theorem Regular.carries_of_new (regular : system.Regular)
    (new : runId ∉ system.engine.store.tables.runs.map Run.id)
    (unspent : ¬system.engine.store.Spent runId) : system.Carries runId steps where
  errands errand among own := by
    obtain ⟨task, present, rfl⟩ := List.mem_map.1 among
    obtain ⟨number, early, named⟩ := (regular.tracked.coherent.tracks task present).minted
    refine absurd (fun later coming same => ?_) unspent
    have equal := Store.idOf_injective ((named.symm.trans own).trans same)
    omega
  subjects subject among own := by
    obtain ⟨result, present, rfl⟩ := List.mem_map.1 among
    obtain ⟨run, stored, named⟩ := regular.sound.tables.linked.results result present
    exact absurd (List.mem_map.2 ⟨run, stored, named.trans own⟩) new

/-- A launch begins to bear when its run is stored. -/
theorem Stores.bears (stores : system.Stores occurrence call runId) (regular : system.Regular)
    (holds : system.engine.store.Holds call.testCase.id call.steps replaced) :
    (system.occur occurrence).Bears call runId
      (replaced ∨ system.Replaces call.testCase.id occurrence) := by
  obtain ⟨grants, run, present, own, owner⟩ := stores.row regular.sound
  refine ⟨holds_occur regular.sound holds occurrence, ?_, ?_, fun _ => ⟨run, present, own, owner⟩⟩
  -- Nothing has the id before, and only the start of the run gets it now.
  · have before : system.Carries runId call.steps :=
      regular.carries_of_new stores.new grants.unspent
    exact before.occur regular occurrence fun other granted =>
      congrArg StartCall.steps (stores.eq_of_grants granted)
  · exact (regular.occur occurrence).sound.spent_run stores.stored

/-- A start reads the steps that its test case has. -/
theorem Reads.holds {turn : Turn} (reads : system.Reads turn call) (regular : system.Regular)
    (sessions : Nat → Session) :
    (system.step sessions turn).engine.store.Holds call.testCase.id call.steps False ∧
      call.steps.map Step.order = List.range' 1 call.steps.length := by
  obtain ⟨id, browser, options, engine, move, prepared⟩ := reads
  have stepped : (system.step sessions turn).engine.store = system.engine.store := by
    obtain ⟨-, -, -, -, -, -, registry, -, rfl⟩ := Engine.prepare_eq prepared
    simp only [step, move, prepared]
  obtain ⟨-, found, steps, -⟩ := Engine.prepare_eq prepared
  obtain ⟨present, rfl⟩ := (regular.sound.tables.keyed.testCase?_eq_some_iff).1 found
  rw [stepped, steps]
  refine ⟨⟨regular.sound.spent_testCase (List.mem_map_of_mem present), fun step among => ?_,
    fun _ _ => rfl, fun _ impossible => impossible.elim⟩, regular.sound.tables.numbered _⟩
  exact regular.sound.spent_step (List.mem_filter.1 ((List.mergeSort_perm _ _).mem_iff.1 among)).1

end Launches

section Entries

variable {steps : List Step} {replaced : Prop}

/-- Numbered places that are all found among numbered places are the first of them. -/
theorem isPrefix_of_numbered {places others : List (String × Nat)}
    (numbered : places.map Prod.snd = List.range' 1 places.length)
    (ordered : others.map Prod.snd = List.range' 1 others.length) (subset : places ⊆ others) :
    places <+: others := by
  have counts {list : List (String × Nat)} (counted : list.map Prod.snd = List.range' 1 list.length)
      {index : Nat} {place : String × Nat} (found : list[index]? = some place) :
      place.2 = index + 1 := by
    obtain ⟨inside, rfl⟩ := List.getElem?_eq_some_iff.1 found
    have same := congrArg (·[index]?) counted
    simpa [inside, Nat.add_comm] using same
  refine List.prefix_iff_getElem?.2 fun index inside => ?_
  obtain ⟨other, found⟩ := List.mem_iff_getElem?.1 (subset (List.getElem_mem inside))
  have here := counts numbered (List.getElem?_eq_getElem inside)
  have there := counts ordered found
  obtain rfl : other = index := by omega
  exact found

/-- The results of a run are about the first of the steps that it carries out. -/
theorem Carries.places (carries : system.Carries runId steps) (regular : system.Regular)
    (numbered : steps.map Step.order = List.range' 1 steps.length) :
    (system.engine.store.tables.resultsOf runId).map StepResult.place <+: steps.map Step.place := by
  apply isPrefix_of_numbered
  · rw [List.map_map, List.length_map]
    exact regular.tracked.coherent.faithful.ordered runId
  · rw [List.map_map, List.length_map]
    exact numbered
  · intro place present
    obtain ⟨result, among, rfl⟩ := List.mem_map.1 present
    obtain ⟨stored, own⟩ := List.mem_filter.1 among
    exact carries.subjects result.subject (List.mem_map_of_mem stored) (of_decide_eq_true own)

/-- The result and the step at one place belong together. -/
theorem place_of_mem_zip {results : List StepResult}
    (places : results.map StepResult.place <+: steps.map Step.place) {pair : StepResult × Step}
    (among : pair ∈ results.zip steps) : pair.1.place = pair.2.place ∧ pair.2 ∈ steps := by
  obtain ⟨index, placed⟩ := List.mem_iff_getElem?.1 among
  obtain ⟨result, step⟩ := List.getElem?_zip_eq_some.1 placed
  obtain ⟨inside, same⟩ := List.getElem?_eq_some_iff.1 result
  have shared := List.prefix_iff_getElem?.1 places index (by simpa using inside)
  simp only [List.getElem?_map, step, List.getElem_map, same, Option.map_some,
    Option.some.injEq] at shared
  exact ⟨shared.symm, List.mem_of_getElem? step⟩

/-- An entry shows the step that was read, unless the steps were replaced. -/
theorem tells_reportStep {engine : Engine} {id : String} (sound : engine.store.Sound)
    (legible : engine.store.Legible) (holds : engine.store.Holds id steps replaced)
    (known : id ∈ engine.store.tables.testCases.map TestCase.id) {result : StepResult} {step : Step}
    (read : step ∈ steps) (place : result.place = step.place) :
    (engine.reportStep (engine.store.tables.listSteps id) result).Tells result step replaced := by
  obtain ⟨stepId, order⟩ := Prod.mk.inj place
  refine ⟨place, stepId, order, rfl, rfl, rfl, fun unreplaced => ?_, fun changed => ?_⟩
  · have present : step ∈ engine.store.tables.listSteps id := by rwa [holds.same known unreplaced]
    have unique : ((engine.store.tables.listSteps id).map Step.id).Nodup :=
      ((List.mergeSort_perm _ _).map Step.id).nodup_iff.2
        (Rows.nodup_filter sound.tables.keyed.steps _)
    have found := (Rows.find?_key_eq_some_iff unique).2 ⟨present, stepId.symm⟩
    obtain ⟨action, acts⟩ := legible id known step present
    refine ⟨action, acts, ?_, ?_⟩
    · simp [Engine.reportStep, found]
    · simp [Engine.reportStep, found, acts]
  · have lost : result.stepId ∉ (engine.store.tables.listSteps id).map Step.id := by
      intro among
      obtain ⟨other, listed, same⟩ := List.mem_map.1 among
      refine holds.other known changed other listed ?_
      exact same.trans stepId ▸ List.mem_map_of_mem read
    have missing := Rows.find?_key_eq_none_iff.2 lost
    simp [Engine.reportStep, missing]

/-- The report of a run tells what has become of the steps that its start has read. -/
theorem Bears.recounts (bears : system.Bears call runId replaced) (regular : system.Regular)
    (numbered : call.steps.map Step.order = List.range' 1 call.steps.length)
    (known : call.testCase.id ∈ system.engine.store.tables.testCases.map TestCase.id) :
    ∃ run ∈ system.engine.store.tables.runs, run.id = runId ∧
      run.testCaseId = call.testCase.id ∧ system.engine.Recounts run call.steps replaced := by
  obtain ⟨run, present, rfl, owner⟩ := bears.stays known
  obtain ⟨testCase, stored, named⟩ := List.mem_map.1 known
  have places := bears.carries.places regular numbered
  have short : (system.engine.store.tables.resultsOf run.id).length ≤ call.steps.length := by
    simpa using places.length_le
  have keyed := regular.sound.tables.keyed
  have found : system.engine.run run.id = .ok run := by
    rw [Engine.run, keyed.run?_eq_some_iff.2 ⟨present, rfl⟩]
  have owned : system.engine.testCase run.testCaseId = .ok testCase := by
    rw [Engine.testCase, keyed.testCase?_eq_some_iff.2 ⟨stored, named.trans owner.symm⟩]
  have listed := regular.tracked.coherent.faithful.listResults_eq run.id
  let entry := system.engine.reportStep (system.engine.store.tables.listSteps testCase.id)
  refine ⟨run, present, rfl, owner, fun task among own => ?_, ⟨run, testCase,
    (system.engine.store.tables.resultsOf run.id).map entry⟩, ?_, rfl, named.trans owner.symm, ?_⟩
  · exact bears.carries.errands task.errand (List.mem_map_of_mem among) own
  · refine bind_eq_ok_iff.2 ⟨run, found, bind_eq_ok_iff.2 ⟨testCase, owned, ?_⟩⟩
    rw [listed]
    rfl
  · refine ⟨?_, short, ?_⟩
    · rw [List.map_map]
      exact regular.tracked.coherent.faithful.ordered run.id
    · -- The entries are compared with the pairs that they are made from.
      conv_lhs => rw [← List.map_fst_zip short]
      rw [List.map_map]
      refine List.forall₂_map_left_iff.2 (List.forall₂_same.2 fun pair among => ?_)
      obtain ⟨place, read⟩ := place_of_mem_zip places among
      exact tells_reportStep regular.sound regular.legible (named ▸ bears.holds) (named ▸ known)
        read place

end Entries

section Histories

variable {first : System} {history : List Occurrence}

theorem lived_concat (history : List Occurrence) (occurrence : Occurrence) :
    first.lived (history ++ [occurrence]) = (first.lived history).occur occurrence :=
  lived_append history [occurrence]

/-- A launch still bears when all that happens is over. -/
theorem Launch.bears (launch : Launch first history) (regular : first.Regular) :
    (first.lived history).Bears launch.call launch.runId launch.Replaced ∧
      launch.call.steps.map Step.order = List.range' 1 launch.call.steps.length := by
  obtain ⟨call, runId, early, sessions, reading, meanwhile, storing, late, rfl, reads, stores⟩ :=
    launch
  have begun := regular.lived early
  have read : ((first.lived early).step sessions reading).Regular :=
    begun.occur (.turn sessions reading)
  obtain ⟨holds, numbered⟩ := reads.holds begun sessions
  refine ⟨?_, numbered⟩
  -- The steps are followed from their reading on, and the run from its storing on.
  have waited := read.lived meanwhile
  have held := replaced_induction call.testCase.id
    (fun system => system.engine.store.Holds call.testCase.id call.steps)
    (fun regular => holds_occur regular.sound) read holds meanwhile
  have borne := replaced_induction call.testCase.id (fun system => system.Bears call runId)
    (fun regular bears => bears.occur regular) (waited.occur storing)
    (stores.bears waited held) late
  simpa only [Launch.Replaced, replaced_append, System.Replaced, false_or, or_assoc, lived_append,
    lived_cons, System.occur] using borne

/-- A start that waits has read its steps. -/
theorem exists_reading (idle : first.waiting = []) (history : List Occurrence) :
    ∀ call ∈ (first.lived history).waiting, ∃ early sessions turn meanwhile,
      history = early ++ .turn sessions turn :: meanwhile ∧
        (first.lived early).Reads turn call := by
  induction history using List.reverseRecOn with
  | nil =>
    intro call waits
    rw [show first.lived [] = first from rfl, idle] at waits
    cases waits
  | append_singleton history occurrence inductionHypothesis =>
    intro call waits
    rw [lived_concat] at waits
    rcases waiting_occur _ occurrence call waits with old | ⟨sessions, turn, rfl, reads⟩
    · obtain ⟨early, sessions, turn, meanwhile, rfl, reads⟩ := inductionHypothesis call old
      exact ⟨early, sessions, turn, meanwhile ++ [occurrence], by simp, reads⟩
    · exact ⟨history, sessions, turn, [], rfl, reads⟩

/-- Every run that is stored has been launched. -/
theorem exists_launch (regular : first.Regular) (idle : first.waiting = [])
    (empty : first.engine.store.tables.runs = []) (history : List Occurrence) :
    ∀ run ∈ (first.lived history).engine.store.tables.runs,
      ∃ launch : Launch first history, launch.runId = run.id := by
  induction history using List.reverseRecOn with
  | nil =>
    intro run present
    rw [show first.lived [] = first from rfl, empty] at present
    cases present
  | append_singleton history occurrence inductionHypothesis =>
    intro run present
    rw [lived_concat] at present
    have before := regular.lived history
    rcases (passes_occur _ occurrence).runs before.sound run present with
      ⟨old, among, same⟩ | ⟨call, grants, owner⟩
    · obtain ⟨launch, named⟩ := inductionHypothesis old among
      refine ⟨{ launch with late := launch.late ++ [occurrence], split := ?_ }, named.trans same⟩
      simp [launch.split]
    -- The run is new, and the start that got it has read its steps before it began to wait.
    · obtain ⟨turn, taken, ⟨index, installed, move, waits⟩, number, new, named⟩ := grants
      obtain ⟨early, sessions, reading, meanwhile, rfl, reads⟩ :=
        exists_reading idle history call (List.mem_of_getElem? waits)
      rw [lived_append] at before waits new present
      have stores : (((first.lived early).step sessions reading).lived meanwhile).Stores
          occurrence call run.id := by
        refine ⟨⟨turn, index, installed, taken, move, waits⟩, fun stored => ?_,
          List.mem_map_of_mem present⟩
        exact before.sound.spent_run stored number new named
      exact ⟨⟨call, run.id, early, sessions, reading, meanwhile, occurrence, [], by simp, reads,
        stores⟩, rfl⟩

/-- A report never shows a wrong step, whatever happens to the script and to the processes. -/
theorem recounted_lived (artifacts : Artifacts) (options : RunOptions) (history : List Occurrence) :
    Recounted (opened {} artifacts options) history where
  launched := exists_launch (.opened artifacts options) rfl rfl history
  shown launch known := by
    have regular := Regular.opened artifacts options
    obtain ⟨bears, numbered⟩ := launch.bears regular
    exact bears.recounts (regular.lived history) numbered known

-- A script is replaced by the same lines, before the run has begun its step and after its end.
example :
    let replacement : List Turn := [⟨4, .updateSteps (Store.idOf 1) ["Click \"Login\""]⟩]
    let entries (history : List Turn) : Option (List (Nat × Option String × StepStatus)) :=
      ((sample history).engine.report (Store.idOf 3)).toOption.map fun report =>
        report.steps.map fun step => (step.order, step.rawText, step.status)
    [sampleRun, sampleStart ++ replacement ++ sampleTurns, sampleRun ++ replacement].map entries =
      [some [(1, some "Click \"Login\"", .passed)], some [(1, none, .passed)],
        some [(1, none, .passed)]] := by
  decide +kernel

end Histories

end System

end StepRunner
