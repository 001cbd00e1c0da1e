import StepRunner.Proofs.Engine.Discretion
import StepRunner.Proofs.Installs.Probes
import StepRunner.Service.Respond

/-!
This file says what the answer to a request may do to the engine before its response is known.
It may look around, claim the slot for a start, and give the slot up again.
Whatever else it does is its last act, and nobody sees that act if the response is a failure.
-/

namespace StepRunner

namespace Engine

variable {engine : Engine}

/-- What becomes of the engine when somebody leaves who may hold the slot for a start. -/
def gaveUp : Option StartCall → Engine → Engine
  | none => id
  | some call => (·.abandon call)

/-- Claims the slot for a start, if the start is let in. -/
def claim (testCaseId : String) (browser : Browser) (options : RunOptions) (engine : Engine) :
    Except EngineError StartCall × Engine :=
  match engine.prepare testCaseId browser options with
  | .ok (call, engine) => (.ok call, engine)
  | .error error => (.error error, engine)

/-- What a start does once it has claimed the slot, or was not let in. -/
def startClaimed (browser : Browser) :
    Except EngineError StartCall → Activity (Except EngineError (Nat × Run))
  | .error error => .done (.error error)
  | .ok call =>
    (ensureInstalled browser (gaveUp (some call))).bind fun installed =>
      Activity.perform fun now engine => engine.conclude call (installed.map fun _ => ()) now

/-- An operation stays discreet whatever is made of its value. -/
theorem Discreet.map {First Second : Type} {outcome : Except EngineError First × Engine}
    (discreet : engine.Discreet outcome) (change : First → Second) :
    engine.Discreet (outcome.1.map change, outcome.2) where
  settles := discreet.settles
  spares := by
    intro error failed
    cases first : outcome.1 with
    | error fault => exact discreet.spares fault first
    | ok value =>
      rw [first] at failed
      cases failed

end Engine

namespace Service

/-- The response says that the request has failed. -/
def Response.Failed (response : Response) : Prop := 400 ≤ response.status

instance (response : Response) : Decidable response.Failed :=
  inferInstanceAs (Decidable (400 ≤ response.status))

namespace Response

variable {status : Nat}

theorem not_failed_ofResult (fine : status < 400) (value : Json) :
    ¬(ofResult status (.ok value)).Failed :=
  Nat.not_le.2 fine

/-- A response that says so comes from an operation that has failed. -/
theorem error_of_failed {result : Except EngineError Json} (fine : status < 400)
    (failed : (ofResult status result).Failed) : ∃ error, result = .error error := by
  cases result with
  | error error => exact ⟨error, rfl⟩
  | ok value => exact absurd failed (not_failed_ofResult fine value)

end Response

/--
An activity that gives a response is cautious; it may hold the slot for a start.
A failure is known before anything has been changed for good.
-/
inductive Cautious : Option StartCall → Activity Response → Prop where
  | done (response : Response) : Cautious none (.done response)
  /-- It changes at most what is known about the browser engines. -/
  | look {held : Option StartCall} {change : Int → Engine → Engine}
      {next : Int → Engine → Activity Response}
      (looks : ∀ now engine, ∃ installs, change now engine = { engine with installs })
      (rest : ∀ now engine, Cautious held (next now engine)) : Cautious held (.act change next)
  /-- It claims the slot. -/
  | claim {testCaseId : String} {browser : Browser} {options : RunOptions}
      {next : Except EngineError StartCall → Activity Response}
      (granted : ∀ call, Cautious (some call) (next (.ok call)))
      (refused : ∀ error, Cautious none (next (.error error))) :
      Cautious none (.act (fun _ engine => (engine.claim testCaseId browser options).2)
        fun _ engine => next (engine.claim testCaseId browser options).1)
  /-- It completes the start that holds the slot, and tells how that went. -/
  | conclude {call : StartCall} {installed : Except String Unit}
      {next : Except EngineError (Nat × Run) → Activity Response}
      {response : Except EngineError (Nat × Run) → Response}
      (answers : ∀ outcome, next outcome = .done (response outcome))
      (fine : ∀ started, ¬(response (.ok started)).Failed) :
      Cautious (some call) (.act (fun now engine => (engine.conclude call installed now).2)
        fun now engine => next (engine.conclude call installed now).1)
  /-- It does what was asked for, and tells how that went. -/
  | settle {step : Int → Engine → Response × Engine}
      (settles : ∀ (now : Int) (engine : Engine), engine.store.tables.Sound →
        engine.Settles (step now engine).2)
      (spares : ∀ (now : Int) (engine : Engine), engine.store.tables.Sound →
        (step now engine).1.Failed → engine.Spares (step now engine).2) :
      Cautious none (.act (fun now engine => (step now engine).2)
        fun now engine => .done (step now engine).1)
  | probe {held : Option StartCall} {browser : Browser} {next : Bool → Activity Response}
      (rest : ∀ found, Cautious held (next found)) : Cautious held (.probe browser next)
  /-- It waits, and leaves nothing behind if nobody waits for it. -/
  | await {held : Option StartCall} {event : Wait} {next : Activity Response}
      (rest : Cautious held next) : Cautious held (.await event (Engine.gaveUp held) next)

section Pieces

variable {held : Option StartCall} {activity : Activity Response} {status : Nat}

/-- An act that changes nothing is cautious. -/
theorem Cautious.view {next : Int → Engine → Activity Response}
    (rest : ∀ now engine, Cautious held (next now engine)) :
    Cautious held (.act (fun _ engine => engine) next) :=
  .look (fun _ engine => ⟨engine.installs, rfl⟩) rest

/-- A response without its content is given as cautiously. -/
theorem Cautious.head (cautious : Cautious held activity) :
    Cautious held (activity.bind fun response => .done response.head) := by
  induction cautious with
  | done response => exact .done _
  | look looks rest inductionHypothesis => exact .look looks inductionHypothesis
  | @claim testCaseId browser options next granted refused grantedHypothesis refusedHypothesis =>
    exact @Cautious.claim testCaseId browser options
      (fun prepared => (next prepared).bind fun response => .done response.head)
      grantedHypothesis refusedHypothesis
  | @conclude call installed next response answers fine =>
    refine @Cautious.conclude call installed
      (fun outcome => (next outcome).bind fun response => .done response.head)
      (fun outcome => (response outcome).head) (fun outcome => ?_) fine
    rw [answers outcome]
    rfl
  | @settle step settles spares =>
    exact @Cautious.settle (fun now engine => ((step now engine).1.head, (step now engine).2))
      settles spares
  | probe rest inductionHypothesis => exact .probe inductionHypothesis
  | await rest inductionHypothesis => exact .await inductionHypothesis

theorem cautious_answerWith (view : Engine → Except EngineError Json) :
    Cautious none (answerWith view) :=
  .view fun _ _ => .done _

/-- A change of the engine that is discreet is answered cautiously. -/
theorem cautious_answerAfter {step : Int → Engine → Except EngineError Json × Engine}
    (fine : status < 400)
    (discreet : ∀ (now : Int) (engine : Engine), engine.store.tables.Sound →
      engine.Discreet (step now engine)) :
    Cautious none (answerAfter status step) := by
  refine @Cautious.settle
    (fun now engine => (.ofResult status (step now engine).1, (step now engine).2)) ?_ ?_
  · exact fun now engine sound => (discreet now engine sound).settles
  · intro now engine sound failed
    obtain ⟨error, same⟩ := Response.error_of_failed fine failed
    exact (discreet now engine sound).spares error same

theorem cautious_answerDeletion {step : Engine → Except EngineError Unit × Engine}
    (discreet : ∀ engine : Engine, engine.store.tables.Sound → engine.Discreet (step engine)) :
    Cautious none (answerDeletion step) := by
  unfold answerDeletion Activity.perform
  refine .settle (fun now engine sound => ?_) (fun now engine sound failed => ?_)
  · have settles := (discreet engine sound).settles
    split
    all_goals
      next outcome =>
      rw [outcome] at settles
      exact settles
  · have fine : ¬(Response.bare 204).Failed := by decide
    split at failed
    · exact absurd failed fine
    · next error after outcome =>
      have spares := (discreet engine sound).spares error
      rw [outcome] at spares
      exact spares rfl

theorem cautious_answerBody {α : Type} {request : Request} {form : Form α}
    {next : α → Activity Response} (rest : ∀ value, Cautious none (next value)) :
    Cautious none (answerBody request form next) := by
  unfold answerBody
  split
  · exact rest _
  · exact .done _

theorem cautious_withSegment {segment : String} {next : String → Activity Response}
    (rest : ∀ text, Cautious none (next text)) : Cautious none (withSegment segment next) := by
  unfold withSegment
  split
  · exact rest _
  · exact .done _

end Pieces

section Installs

variable (held : Option StartCall)

/-- Nobody needs a browser engine other than cautiously. -/
theorem cautious_settleInstall (browser : Browser) (answer : InstallAnswer)
    {next : Except String InstallState → Activity Response}
    (rest : ∀ installed, Cautious held (next installed)) :
    Cautious held ((Engine.settleInstall browser (Engine.gaveUp held) answer).bind next) := by
  cases answer with
  | ready state => exact rest _
  | wait attempt => exact .await (.view fun _ _ => rest _)

theorem cautious_ensureInstalled (browser : Browser)
    {next : Except String InstallState → Activity Response}
    (rest : ∀ installed, Cautious held (next installed)) :
    Cautious held ((Engine.ensureInstalled browser (Engine.gaveUp held)).bind next) := by
  simp only [Engine.ensureInstalled, bind, Activity.perform, Activity.bind]
  refine .look (fun _ engine => ⟨_, rfl⟩) fun now engine => ?_
  cases (Engine.onInstalls (·.ask browser) engine).1 with
  | some answer => exact cautious_settleInstall held browser answer rest
  | none =>
    refine .probe fun found => .look (fun _ engine => ⟨_, rfl⟩) fun now engine => ?_
    exact cautious_settleInstall held browser _ rest

theorem cautious_refreshRest (browsers : List Browser)
    {next : List InstallState → Activity Response} (rest : ∀ states, Cautious none (next states)) :
    Cautious none ((Engine.refreshRest browsers).bind next) := by
  induction browsers with
  | nil => exact .view fun _ _ => rest _
  | cons browser browsers inductionHypothesis =>
    simp only [Engine.refreshRest, Activity.bind]
    refine .view fun now engine => ?_
    split
    · exact .probe fun found => .look (fun _ engine => ⟨_, rfl⟩) fun _ _ => inductionHypothesis
    · exact inductionHypothesis

end Installs

section Answers

theorem cautious_answerInstall (word : String) : Cautious none (answerInstall word) := by
  unfold answerInstall
  split
  · exact .done _
  · next browser _ =>
    refine cautious_ensureInstalled none browser fun installed => ?_
    cases installed <;> exact .done _

/-- A start claims the slot, waits, and is completed. -/
theorem cautious_start {testCaseId : String} {browser : Browser} {options : RunOptions}
    {next : Except EngineError (Nat × Run) → Activity Response}
    {response : Except EngineError (Nat × Run) → Response}
    (answers : ∀ outcome, next outcome = .done (response outcome))
    (fine : ∀ started, ¬(response (.ok started)).Failed) :
    Cautious none ((Engine.start testCaseId browser options).bind next) := by
  refine @Cautious.claim testCaseId browser options
    (fun claimed => (Engine.startClaimed browser claimed).bind next)
    (fun call => ?_) (fun error => ?_)
  · simp only [Engine.startClaimed, Activity.bind_assoc]
    exact cautious_ensureInstalled (some call) browser fun installed => .conclude answers fine
  · simp only [Engine.startClaimed, Activity.bind, answers]
    exact .done _

/-- The response to a request for a run. -/
def Response.ofStart : Except EngineError (Nat × Run) → Response
  | .ok (_, run) => .json 202 run.toJson
  | .error error => .ofError error

theorem cautious_answerStart (request : StartRequest) : Cautious none (answerStart request) := by
  unfold answerStart
  split
  · exact .done _
  · next browser _ =>
    refine .view fun _ engine => ?_
    refine @cautious_start _ _ _ _ Response.ofStart (fun outcome => ?_) (fun started => ?_)
    · cases outcome <;> rfl
    · exact Nat.not_le.2 (by decide : 202 < 400)

/-- A change of the screenshots alone is discreet if it keeps them when it fails. -/
theorem discreet_readDataUrl (engine : Engine) (path : String) (variant : Variant) :
    engine.Discreet
      ((((engine.artifacts.readDataUrl path variant).1.map fun url =>
          Json.obj [("data_url", .str url)]).mapError EngineError.artifact),
        { engine with artifacts := (engine.artifacts.readDataUrl path variant).2 }) where
  settles := ⟨rfl, rfl, id, List.suffix_refl _⟩
  spares := by
    intro error failed
    cases outcome : (engine.artifacts.read path variant).1 with
    | error fault =>
      have kept : (engine.artifacts.readDataUrl path variant).2 = engine.artifacts :=
        Artifacts.keeps_of_read_error outcome
      exact ⟨rfl, kept, rfl, rfl⟩
    | ok content =>
      simp [Artifacts.readDataUrl, outcome, Except.map, Except.mapError] at failed

theorem cautious_answerArtifact (query : List (String × String)) :
    Cautious none (answerArtifact query) := by
  unfold answerArtifact
  split
  · exact .done _
  · next path variant _ =>
    exact cautious_answerAfter (by decide) fun _ engine _ =>
      discreet_readDataUrl engine path variant

/-- A question to stop a run leaves the slot to the run, and it cannot fail. -/
theorem discreet_cancel (engine : Engine) (runId : String) :
    engine.Discreet
      ((.ok (Json.ofCancel (engine.cancel runId).1) : Except EngineError Json),
        (engine.cancel runId).2) where
  settles := ⟨engine.registry.requestCancel_slot runId, rfl, id, List.suffix_refl _⟩
  spares := by
    rintro _ ⟨⟩

/-- A script that replaces another is shown as it is stored, so only its writing can fail. -/
theorem discreet_rewrite (engine : Engine) (now : Int) (id : String) (lines : List String) :
    engine.Discreet
      (match engine.updateSteps now id lines with
        | (.error error, engine) => (.error error, engine)
        | (.ok steps, engine) =>
          ((engine.testCase id).map fun testCase => Json.ofScript testCase steps, engine)) := by
  have discreet := Engine.discreet_updateSteps engine now id lines
  split
  · next error after outcome =>
    rw [outcome] at discreet
    exact ⟨discreet.settles, fun _ _ => discreet.spares error rfl⟩
  · next steps after outcome =>
    rw [outcome] at discreet
    obtain ⟨testCase, found⟩ := Engine.testCase_of_updated outcome
    refine ⟨discreet.settles, fun error failed => ?_⟩
    rw [found] at failed
    cases failed

/-- Every resource answers cautiously, whatever the method. -/
theorem cautious_answer (request : Request) (query : List (String × String)) (route : Route)
    (method : String) : Cautious none (answer request query route method) := by
  cases route with
  | health => exact .done _
  | parse => exact cautious_answerBody fun _ => .done _
  | parseScript => exact cautious_answerBody fun _ => .done _
  | projects =>
    by_cases creates : method = "POST"
    · subst creates
      refine cautious_answerBody fun name => cautious_answerAfter (by decide) fun now engine _ => ?_
      exact (engine.discreet_createProject now name).map _
    · simp only [answer]
      exact cautious_answerWith _
  | project segment =>
    refine cautious_withSegment fun id => cautious_answerDeletion fun engine sound => ?_
    exact Engine.discreet_deleteProject sound id
  | projectTestCases segment =>
    by_cases creates : method = "POST"
    · subst creates
      refine cautious_withSegment fun id => cautious_answerBody fun (title, lines) =>
        cautious_answerAfter (by decide) fun now engine _ => ?_
      exact (engine.discreet_createTestCase now id title lines).map _
    · simp only [answer]
      exact cautious_withSegment fun _ => cautious_answerWith _
  | testCase segment =>
    by_cases updates : method = "PUT"
    · subst updates
      refine cautious_withSegment fun id => cautious_answerBody fun lines =>
        cautious_answerAfter (by decide) fun now engine _ => ?_
      exact discreet_rewrite engine now id lines
    by_cases deletes : method = "DELETE"
    · subst deletes
      refine cautious_withSegment fun id => cautious_answerDeletion fun engine sound => ?_
      exact Engine.discreet_deleteTestCase sound id
    · simp only [answer]
      exact cautious_withSegment fun _ => cautious_answerWith _
  | testCaseRuns segment => exact cautious_withSegment fun _ => cautious_answerWith _
  | runs => exact cautious_answerBody cautious_answerStart
  | activeRun => exact cautious_answerWith _
  | run segment => exact cautious_withSegment fun _ => cautious_answerWith _
  | runCancel segment =>
    refine cautious_withSegment fun id => cautious_answerAfter (by decide) fun _ engine _ => ?_
    exact discreet_cancel engine id
  | runSteps segment => exact cautious_withSegment fun _ => cautious_answerWith _
  | runReport segment => exact cautious_withSegment fun _ => cautious_answerWith _
  | browsers =>
    simp only [answer, Engine.refreshInstalls_eq]
    exact cautious_refreshRest _ fun _ => .done _
  | browserInstall segment => exact cautious_withSegment cautious_answerInstall
  | artifacts => exact cautious_answerArtifact _
  | events =>
    by_cases asksHead : method = "HEAD"
    · subst asksHead
      exact .done _
    · simp only [answer]
      exact .done _

/-- Every request is answered cautiously. -/
theorem cautious_respond (request : Request) : Cautious none (respond request) := by
  unfold respond
  simp only
  split
  · exact .done _
  · split
    · exact .done _
    · split
      · exact cautious_answer ..
      · split
        · exact (cautious_answer ..).head
        · exact .done _

end Answers

end Service

end StepRunner
