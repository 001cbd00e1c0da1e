import StepRunner.Proofs.Json.Records
import StepRunner.Proofs.Json.Shapes
import StepRunner.Wire.Canonical

/-!
This file shows that every record is read back from its JSON form.
The times and the counts of a record have to fit the integers of the wire.
-/

namespace StepRunner

open Json

section Words

@[simp] theorem Browser.ofJson?_toJson (browser : Browser) :
    ofJson? browser.toJson = some browser :=
  ofName?_name browser

@[simp] theorem RunStatus.ofJson?_toJson (status : RunStatus) :
    ofJson? status.toJson = some status :=
  ofName?_name status

@[simp] theorem StepStatus.ofJson?_toJson (status : StepStatus) :
    ofJson? status.toJson = some status :=
  ofName?_name status

@[simp] theorem InstallPhase.ofJson?_toJson (phase : InstallPhase) :
    ofJson? phase.toJson = some phase :=
  ofName?_name phase

end Words

section Flat

/-- The members of an object are different fields with flat values. -/
structure Json.Flat (names : List String) (members : List (String × Json)) : Prop where
  listed : ∀ member ∈ members, member.1 ∈ names
  distinct : (members.map Prod.fst).Nodup
  exact : ∀ member ∈ members, Exact 0 member.2

@[simp] theorem Json.exact_str (text : String) : Exact 0 (.str text) :=
  .str text

@[simp] theorem Json.exact_bool (truth : Bool) : Exact 0 (.bool truth) :=
  .bool truth

@[simp] theorem Json.exact_ofOption (text : Option String) : Exact 0 (.ofOption text) := by
  cases text with
  | none => exact .null
  | some text => exact .str text

theorem Json.exact_int64 {number : Int} (fits : FitsInt64 number) : Exact 0 (.whole number) :=
  .whole fits.1 (by have least := fits.2; omega)

theorem Json.exact_nat32 {number : Nat} (fits : FitsNat32 number) : Exact 0 (.whole number) :=
  .whole (by omega) (by have small : number < 2 ^ 32 := fits; omega)

theorem Json.exact_ofOptionInt {number : Option Int}
    (fits : ∀ value ∈ number, FitsInt64 value) : Exact 0 (.ofOptionInt number) := by
  cases number with
  | none => exact .null
  | some value => exact exact_int64 (fits value rfl)

@[simp] theorem Browser.exact_toJson (browser : Browser) : Exact 0 browser.toJson :=
  .str _

@[simp] theorem RunStatus.exact_toJson (status : RunStatus) : Exact 0 status.toJson :=
  .str _

@[simp] theorem StepStatus.exact_toJson (status : StepStatus) : Exact 0 status.toJson :=
  .str _

@[simp] theorem InstallPhase.exact_toJson (phase : InstallPhase) : Exact 0 phase.toJson :=
  .str _

end Flat

namespace Project

/-- The time of a project fits the integers of the wire. -/
def Fits (project : Project) : Prop :=
  FitsInt64 project.createdAt

theorem ofJson?_toJson {project : Project} (fits : project.Fits) :
    ofJson? project.toJson = some project := by
  simp [ofJson?, toJson, Fields.of?_obj, Fields.required?_given, List.lookup_cons,
    int64?_whole fits]

end Project

namespace TestCase

/-- The times of a test case fit the integers of the wire. -/
structure Fits (testCase : TestCase) : Prop where
  createdAt : FitsInt64 testCase.createdAt
  updatedAt : FitsInt64 testCase.updatedAt

theorem ofJson?_toJson {testCase : TestCase} (fits : testCase.Fits) :
    ofJson? testCase.toJson = some testCase := by
  simp [ofJson?, toJson, Fields.of?_obj, Fields.required?_given, List.lookup_cons,
    int64?_whole fits.createdAt, int64?_whole fits.updatedAt]

end TestCase

namespace Step

/-- The place of a step fits the integers of the wire. -/
def Fits (step : Step) : Prop :=
  FitsNat32 step.order

theorem ofJson?_toJson {step : Step} (fits : step.Fits) : ofJson? step.toJson = some step := by
  simp [ofJson?, toJson, Fields.of?_obj, Fields.required?_given, Fields.optional?_given,
    List.lookup_cons, nat32?_whole fits]

end Step

namespace Run

/-- The times of a run fit the integers of the wire. -/
structure Fits (run : Run) : Prop where
  startedAt : FitsInt64 run.startedAt
  endedAt : ∀ time ∈ run.endedAt, FitsInt64 time

theorem ofJson?_toJson {run : Run} (fits : run.Fits) : ofJson? run.toJson = some run := by
  simp [ofJson?, toJson, Fields.of?_obj, Fields.required?_given, Fields.optional?_given,
    List.lookup_cons, int64?_whole fits.startedAt, nullable?_ofOptionInt fits.endedAt]

end Run

namespace StepResult

/-- The numbers of a step result fit the integers of the wire. -/
structure Fits (result : StepResult) : Prop where
  order : FitsNat32 result.order
  startedAt : FitsInt64 result.startedAt
  endedAt : ∀ time ∈ result.endedAt, FitsInt64 time

theorem ofJson?_toJson {result : StepResult} (fits : result.Fits) :
    ofJson? result.toJson = some result := by
  simp [ofJson?, toJson, Fields.of?_obj, Fields.required?_given, Fields.optional?_given,
    List.lookup_cons, nat32?_whole fits.order, int64?_whole fits.startedAt,
    nullable?_ofOptionInt fits.endedAt]

end StepResult

theorem ActiveContext.ofJson?_toJson (context : ActiveContext) :
    ofJson? context.toJson = some context := by
  simp [ofJson?, toJson, Fields.of?_obj, Fields.required?_given, List.lookup_cons]

theorem InstallState.ofJson?_toJson (state : InstallState) :
    ofJson? state.toJson = some state := by
  simp [ofJson?, toJson, Fields.of?_obj, Fields.required?_given, Fields.optional?_given,
    List.lookup_cons]

theorem InstallEvent.ofJson?_toJson (event : InstallEvent) :
    ofJson? event.toJson = some event := by
  obtain ⟨browser, phase, error⟩ := event
  cases error with
  | none =>
    have absent : (Fields.given ["browser", "phase", "error"]
        [("browser", browser.toJson), ("phase", phase.toJson)]).optional? "error" string? =
          some none := Fields.optional?_left_out (by simp) (by simp)
    simp [ofJson?, toJson, Fields.of?_obj, Fields.required?_given, List.lookup_cons, absent]
  | some error =>
    simp [ofJson?, toJson, Fields.of?_obj, Fields.required?_given, Fields.optional?_given,
      List.lookup_cons, nullable?]

theorem Assertion.ofJson?_toJson (assertion : Assertion) :
    ofJson? assertion.toJson = some assertion := by
  have known : ofKind? assertion.kind assertion.value = some assertion := by
    cases assertion <;> rfl
  simp [ofJson?, toJson, Fields.of?_obj, Fields.required?_given, List.lookup_cons, known]

namespace RunEvent

/-- The place of a step in an event fits the integers of the wire. -/
def Fits : RunEvent → Prop
  | stepStarted _ _ order | stepFinished _ _ order _ => FitsNat32 order
  | runStarted _ _ _ | runFinished _ _ => True

theorem ofJson?_toJson {event : RunEvent} (fits : event.Fits) :
    ofJson? event.toJson = some event := by
  cases event with
  | runStarted runId testCaseId browser =>
    simp [ofJson?, toJson, tagged?_obj, Fields.of?_obj, Fields.required?_given, List.lookup_cons]
  | stepStarted runId stepId order =>
    simp [ofJson?, toJson, tagged?_obj, Fields.of?_obj, Fields.required?_given, List.lookup_cons,
      nat32?_whole fits]
  | stepFinished runId stepId order status =>
    simp [ofJson?, toJson, tagged?_obj, Fields.of?_obj, Fields.required?_given, List.lookup_cons,
      nat32?_whole fits]
  | runFinished runId status =>
    simp [ofJson?, toJson, tagged?_obj, Fields.of?_obj, Fields.required?_given, List.lookup_cons]

end RunEvent

end StepRunner
