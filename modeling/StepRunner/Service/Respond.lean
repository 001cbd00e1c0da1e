import StepRunner.Engine.Activity
import StepRunner.Json.Shape
import StepRunner.Service.Query
import StepRunner.Service.Route
import StepRunner.Wire.Report

/-!
This file answers requests to the service.
-/

namespace StepRunner.Service

/-- A request to the service. -/
structure Request where
  method : String
  target : String
  contentType : Option String
  body : String
  deriving DecidableEq, Repr

/-- The content of a response. -/
inductive Content where
  | nothing
  | json (value : Json)
  /-- A text for people about a request that is not well formed. -/
  | remark
  deriving Repr

/-- The response to a request. -/
structure Response where
  status : Nat
  content : Content
  deriving Repr

namespace Response

/-- A response with a JSON content. -/
def json (status : Nat) (value : Json) : Response := ⟨status, .json value⟩

/-- A response without content. -/
def bare (status : Nat) : Response := ⟨status, .nothing⟩

/-- A response to a request that is not well formed. -/
def remark (status : Nat) : Response := ⟨status, .remark⟩

/-- The number that stands for the kind of a failure. -/
def statusOf : EngineError → Nat
  | .validation _ => 400
  | .notFound _ _ => 404
  | .alreadyRunning _ | .runInProgress _ _ => 409
  | .environment _ => 503
  | .artifact (.outsideRoot _) => 403
  | .artifact (.notFound _) => 404
  | .artifact (.invalidKey _) => 400
  | .artifact (.io _) | .artifact .image => 500
  | .config | .storage _ | .io _ | .taskPanicked => 500

/-- The member that names the run in progress, if that is what stands in the way. -/
def activeMember : EngineError → List (String × Json)
  | .alreadyRunning (some runId) => [("active_run_id", .str runId)]
  | _ => []

/-- The response to a request that failed. -/
def ofError (error : EngineError) : Response :=
  json (statusOf error) (.obj (("error", .str error.message) :: activeMember error))

/-- The response to a request that failed or has a JSON value as its answer. -/
def ofResult (status : Nat) (result : Except EngineError Json) : Response :=
  match result with
  | .ok value => json status value
  | .error error => ofError error

/-- The response without its content. -/
def head (response : Response) : Response := bare response.status

end Response

/-- The type of a content says that it is JSON. -/
def isJsonType (contentType : Option String) : Bool :=
  match contentType with
  | none => false
  | some text =>
    let plain := (Text.trim (text.toList.takeWhile (· != ';'))).map Char.toLower
    match Text.splitAt '/' plain with
    | [kind, subtype] =>
      kind == "application".toList &&
        (subtype == "json".toList || (Text.dropSuffix? "+json".toList subtype).isSome)
    | _ => false

/-- How a JSON content is read: its shape, and what is made of a value of that shape. -/
structure Form (α : Type) where
  shape : Json.Shape
  read? : Json → Option α

/-- How many bytes a content may have. -/
def contentLimit : Nat := 2097152

/--
Reads the JSON content of a request, or gives the response to one that cannot be read.
Nothing is said about what comes after the content.
-/
def readBody {α : Type} (request : Request) (form : Form α) : Except Response α :=
  if !isJsonType request.contentType then .error (.remark 415)
  else if contentLimit < request.body.utf8ByteSize then .error (.remark 413)
  else
    match form.shape.readPrefix request.body.toList with
    | .error .form => .error (.remark 400)
    | .error .shape => .error (.remark 422)
    | .ok (value, _) =>
      match form.read? value with
      | some value => .ok value
      | none => .error (.remark 422)

/-- A list of strings. -/
def strings? : Json → Option (List String) := Json.list? Json.string?

/-- The form of a request to parse a step. -/
def parseForm : Form String :=
  { shape := .record [("text", .text)]
    read? := fun value => do
      let fields ← Json.Fields.of? ["text"] value
      fields.required? "text" Json.string? }

/-- The form of a request with the lines of a script. -/
def stepsForm : Form (List String) :=
  { shape := .record [("steps", .list .text)]
    read? := fun value => do
      let fields ← Json.Fields.of? ["steps"] value
      fields.required? "steps" strings? }

/-- The form of a request to create a project. -/
def projectForm : Form String :=
  { shape := .record [("name", .text)]
    read? := fun value => do
      let fields ← Json.Fields.of? ["name"] value
      fields.required? "name" Json.string? }

/-- The form of a request to create a test case. -/
def testCaseForm : Form (String × List String) :=
  { shape := .record [("title", .text), ("steps", .list .text)]
    read? := fun value => do
      let fields ← Json.Fields.of? ["title", "steps"] value
      let title ← fields.required? "title" Json.string?
      let steps ← fields.defaulted? "steps" strings? []
      return (title, steps) }

/-- A request to start a run. -/
structure StartRequest where
  testCaseId : String
  browser : Option String
  continueOnFailure : Option Bool
  stepTimeoutSeconds : Option Nat

/-- The form of a request to start a run. -/
def startForm : Form StartRequest :=
  { shape := .record
      [("test_case_id", .text), ("browser", .nullable .text),
        ("continue_on_failure", .nullable .truth), ("step_timeout_secs", .nullable .natural)]
    read? := fun value => do
      let fields ← Json.Fields.of?
        ["test_case_id", "browser", "continue_on_failure", "step_timeout_secs"] value
      let testCaseId ← fields.required? "test_case_id" Json.string?
      let browser ← fields.defaulted? "browser" (Json.nullable? Json.string?) none
      let continueOnFailure ←
        fields.defaulted? "continue_on_failure" (Json.nullable? Json.bool?) none
      let stepTimeoutSeconds ←
        fields.defaulted? "step_timeout_secs" (Json.nullable? Json.nat64?) none
      return { testCaseId, browser, continueOnFailure, stepTimeoutSeconds } }

/-- The options of a run, where what is not asked for comes from the engine. -/
def StartRequest.options (request : StartRequest) (usual : RunOptions) : RunOptions :=
  { continueOnFailure := request.continueOnFailure.getD usual.continueOnFailure
    stepTimeout := (request.stepTimeoutSeconds.map Duration.ofSeconds).getD usual.stepTimeout }

/-- The browser engine that a word asks for. -/
def browserOf (word : String) : Except EngineError Browser :=
  match Browser.ofRequest? word with
  | some browser => .ok browser
  | none => .error (.validation (.unsupportedBrowser (Browser.normalised word)))

/-- Answers with a view of the engine. -/
def answerWith (view : Engine → Except EngineError Json) : Activity Response :=
  Activity.look fun engine => .ofResult 200 (view engine)

/-- Answers with the outcome of a change of the engine. -/
def answerAfter (status : Nat) (step : Int → Engine → Except EngineError Json × Engine) :
    Activity Response :=
  Activity.perform fun now engine =>
    let (result, engine) := step now engine
    (.ofResult status result, engine)

/-- Answers a deletion. -/
def answerDeletion (step : Engine → Except EngineError Unit × Engine) : Activity Response :=
  Activity.perform fun _ engine =>
    match step engine with
    | (.ok _, engine) => (.bare 204, engine)
    | (.error error, engine) => (.ofError error, engine)

/-- Answers a request with a JSON content that has to be read first. -/
def answerBody {α : Type} (request : Request) (form : Form α)
    (next : α → Activity Response) : Activity Response :=
  match readBody request form with
  | .ok value => next value
  | .error response => .done response

/-- The answer to a question about the health of the service. -/
def health : Json :=
  .obj [("status", .str "ok"), ("service", .str "qaflowd"), ("version", .str "0.1.0")]

/-- Reads one step. -/
def answerParse (text : String) : Response :=
  match StepReading.ofLine? text with
  | some reading => .json 200 reading.toJson
  | none => .ofError (.validation .blankStep)

/-- Reads every line of a script. -/
def answerScript (lines : List String) : Response :=
  let reports := Script.check lines
  .json 200 <| .obj [("valid", .bool (Script.isValid reports)),
    ("lines", .arr (reports.map LineReport.toJson))]

/-- Starts a run; the answer does not wait for its end. -/
def answerStart (request : StartRequest) : Activity Response := do
  match browserOf (request.browser.getD Browser.chromium.name) with
  | .error error => return .ofError error
  | .ok browser =>
    let usual ← Activity.look Engine.options
    match ← Engine.start request.testCaseId browser (request.options usual) with
    | .ok (_, run) => return .json 202 run.toJson
    | .error error => return .ofError error

/-- Installs a browser engine. -/
def answerInstall (word : String) : Activity Response := do
  match browserOf word with
  | .error error => return .ofError error
  | .ok browser =>
    match ← Engine.ensureInstalled browser id with
    | .ok state => return .json 200 state.toJson
    | .error reason => return .ofError (.environment reason)

/-- Reads the query of a request for a screenshot. -/
def artifactQuery? (query : List (String × String)) : Option (String × Variant) :=
  match queryValues "path" query, queryValues "variant" query with
  | [path], [] => some (path, .full)
  | [path], [word] => (Variant.ofName? word).map fun variant => (path, variant)
  | _, _ => none

/-- Answers a request for a screenshot. -/
def answerArtifact (query : List (String × String)) : Activity Response :=
  match artifactQuery? query with
  | none => .done (.remark 400)
  | some (path, variant) =>
    answerAfter 200 fun _ engine =>
      let (result, artifacts) := engine.artifacts.readDataUrl path variant
      ((result.map fun url => Json.obj [("data_url", .str url)]).mapError EngineError.artifact,
        { engine with artifacts })

/-- Decodes the variable segment of a path for an answer. -/
def withSegment (segment : String) (next : String → Activity Response) : Activity Response :=
  match segmentText? segment with
  | some text => next text
  | none => .done (.remark 400)

/-- Answers a request to a resource by a method that it allows. -/
def answer (request : Request) (query : List (String × String)) :
    Route → String → Activity Response
  | .health, _ => .done (.json 200 health)
  | .parse, _ => answerBody request parseForm fun text => .done (answerParse text)
  | .parseScript, _ => answerBody request stepsForm fun lines => .done (answerScript lines)
  | .projects, "POST" =>
    answerBody request projectForm fun name =>
      answerAfter 201 fun now engine =>
        let (result, engine) := engine.createProject now name
        (result.map Project.toJson, engine)
  | .projects, _ => answerWith fun engine => .ok (.arr (engine.projects.map Project.toJson))
  | .project segment, _ => withSegment segment fun id => answerDeletion (·.deleteProject id)
  | .projectTestCases segment, "POST" =>
    withSegment segment fun id =>
      answerBody request testCaseForm fun (title, lines) =>
        answerAfter 201 fun now engine =>
          let (result, engine) := engine.createTestCase now id title lines
          (result.map fun (testCase, steps) => Json.ofScript testCase steps, engine)
  | .projectTestCases segment, _ =>
    withSegment segment fun id => answerWith fun engine =>
      (engine.testCases id).map fun testCases => .arr (testCases.map TestCase.toJson)
  | .testCase segment, "PUT" =>
    withSegment segment fun id =>
      answerBody request stepsForm fun lines =>
        answerAfter 200 fun now engine =>
          match engine.updateSteps now id lines with
          | (.error error, engine) => (.error error, engine)
          | (.ok steps, engine) =>
            ((engine.testCase id).map fun testCase => Json.ofScript testCase steps, engine)
  | .testCase segment, "DELETE" =>
    withSegment segment fun id => answerDeletion (·.deleteTestCase id)
  | .testCase segment, _ =>
    withSegment segment fun id => answerWith fun engine => do
      let testCase ← engine.testCase id
      let steps ← engine.steps id
      return Json.ofScript testCase steps
  | .testCaseRuns segment, _ =>
    withSegment segment fun id => answerWith fun engine =>
      (engine.history id).map fun runs => .arr (runs.map Run.toJson)
  | .runs, _ => answerBody request startForm answerStart
  | .activeRun, _ => answerWith fun engine => .ok (Json.ofActive engine.registry.context?)
  | .run segment, _ =>
    withSegment segment fun id => answerWith fun engine =>
      (engine.status id).map fun (run, results) => Json.ofRunStatus run results
  | .runCancel segment, _ =>
    withSegment segment fun id => answerAfter 200 fun _ engine =>
      let (accepted, engine) := engine.cancel id
      (.ok (Json.ofCancel accepted), engine)
  | .runSteps segment, _ =>
    withSegment segment fun id => answerWith fun engine =>
      (engine.results id).map fun results => .arr (results.map StepResult.toJson)
  | .runReport segment, _ =>
    withSegment segment fun id => answerWith fun engine =>
      (engine.report id).map RunReport.toJson
  | .browsers, _ => do
    let states ← Engine.refreshInstalls
    return .json 200 (.arr (states.map InstallState.toJson))
  | .browserInstall segment, _ => withSegment segment answerInstall
  | .artifacts, _ => answerArtifact query
  | .events, "HEAD" => .done (.remark 405)
  | .events, _ => .done (.remark 400)

/-- The answer to a request for a resource that there is not. -/
def missing : Response := .json 404 (.obj [("error", .str "Not found")])

/-- A method that asks for the head of what another method gets. -/
def isHead (method : String) : Bool := method == "HEAD"

/--
Answers a request.
Every question for the allowed methods is answered alike, and a head has no content.
-/
def respond (request : Request) : Activity Response :=
  let target := Target.ofText request.target
  if request.method = "OPTIONS" then .done (.bare 200)
  else
    match Route.ofSegments? target.segments with
    | none => .done (if isHead request.method then missing.head else missing)
    | some route =>
      if route.methods.contains request.method then
        answer request target.query route request.method
      else if isHead request.method && route.methods.contains "GET" then do
        let response ← answer request target.query route "HEAD"
        return response.head
      else .done (.bare 405)

end StepRunner.Service
