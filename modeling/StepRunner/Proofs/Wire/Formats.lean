import StepRunner.Proofs.Wire.Records

/-!
This file shows that the text of every record of the wire is read back as the same record, and
that it stays on one line.
-/

namespace StepRunner.Wire

open Json

section Keeping

variable {Record : Type}

/-- Reads the text of a record of a kind. -/
def decode? (name : String) (read? : Json → Option Record) (text : String) : Option Record := do
  let kind ← kinds.lookup name
  let value ← kind.shape.read? text
  read? value

/--
A kind of the wire keeps the records that fit: each is read back from its text, and the text of
every record is one line.
-/
structure Keeps (name : String) (read? : Json → Option Record) (write : Record → Json)
    (Fits : Record → Prop) : Prop where
  rewrites : ∃ kind, kinds.lookup name = some kind ∧
    kind.rewrite = fun value => (read? value).map write
  reads : ∀ record, Fits record → decode? name read? (write record).text = some record
  oneLine : ∀ record, '\n' ∉ (write record).text.toList

variable {Fits : Record → Prop} {names : List String} {name : String} {shape : Shape}
  {read? : Json → Option Record} {write : Record → Json}

/-- Records whose text looks like their kind are kept when their form is read back. -/
theorem keeps_of_shape
    (listed : kinds.lookup name = some ⟨shape, fun value => (read? value).map write⟩)
    (looks : ∀ record, Fits record →
      shape.read? (write record).text = some (write record))
    (reads : ∀ record, Fits record → read? (write record) = some record) :
    Keeps name read? write Fits where
  rewrites := ⟨_, listed, rfl⟩
  reads := by
    intro record fits
    simp [decode?, listed, looks record fits, reads record fits]
  oneLine := fun record => newline_not_mem_text _

/-- Records with flat fields are kept. -/
theorem keeps_of_flat
    (listed : kinds.lookup name = some (fieldsKind names read? write))
    (flat : ∀ record, Fits record → ∃ members, write record = obj members ∧ Flat names members)
    (reads : ∀ record, Fits record → read? (write record) = some record) :
    Keeps name read? write Fits := by
  refine keeps_of_shape listed (fun record fits => ?_) reads
  obtain ⟨members, object, flat⟩ := flat record fits
  rw [object]
  exact Shape.read?_fields flat.listed flat.distinct flat.exact (by decide)

end Keeping

section Kinds

theorem keeps_project : Keeps "Project" Project.ofJson? Project.toJson Project.Fits :=
  keeps_of_flat rfl
    (fun project fits => ⟨_, rfl, by simp, by simp, by simp [exact_int64 fits]⟩)
    fun _ => Project.ofJson?_toJson

theorem keeps_testCase : Keeps "TestCase" TestCase.ofJson? TestCase.toJson TestCase.Fits :=
  keeps_of_flat rfl
    (fun testCase fits => ⟨_, rfl, by simp, by simp,
      by simp [exact_int64 fits.createdAt, exact_int64 fits.updatedAt]⟩)
    fun _ => TestCase.ofJson?_toJson

theorem keeps_step : Keeps "Step" Step.ofJson? Step.toJson Step.Fits :=
  keeps_of_flat rfl
    (fun step fits => ⟨_, rfl, by simp, by simp, by simp [exact_nat32 fits]⟩)
    fun _ => Step.ofJson?_toJson

theorem keeps_run : Keeps "Run" Run.ofJson? Run.toJson Run.Fits :=
  keeps_of_flat rfl
    (fun run fits => ⟨_, rfl, by simp, by simp,
      by simp [exact_int64 fits.startedAt, exact_ofOptionInt fits.endedAt]⟩)
    fun _ => Run.ofJson?_toJson

theorem keeps_stepResult :
    Keeps "StepResult" StepResult.ofJson? StepResult.toJson StepResult.Fits :=
  keeps_of_flat rfl
    (fun result fits => ⟨_, rfl, by simp, by simp,
      by simp [exact_nat32 fits.order, exact_int64 fits.startedAt,
        exact_ofOptionInt fits.endedAt]⟩)
    fun _ => StepResult.ofJson?_toJson

theorem keeps_activeContext : Keeps "ActiveRunContext" ActiveContext.ofJson? ActiveContext.toJson
    fun _ => True :=
  keeps_of_flat rfl (fun context _ => ⟨_, rfl, by simp, by simp, by simp⟩)
    fun context _ => context.ofJson?_toJson

theorem keeps_installState : Keeps "BrowserInstallState" InstallState.ofJson? InstallState.toJson
    fun _ => True :=
  keeps_of_flat rfl (fun state _ => ⟨_, rfl, by simp, by simp, by simp⟩)
    fun state _ => state.ofJson?_toJson

/-- An event of an install has two fields or three. -/
theorem keeps_installEvent : Keeps "InstallEvent" InstallEvent.ofJson? InstallEvent.toJson
    fun _ => True := by
  refine keeps_of_flat rfl (fun event _ => ?_) fun event _ => event.ofJson?_toJson
  obtain ⟨browser, phase, error⟩ := event
  cases error with
  | none => exact ⟨_, rfl, by simp, by simp, by simp⟩
  | some error => exact ⟨_, rfl, by simp, by simp, by simp⟩

theorem keeps_assertion : Keeps "Assertion" Assertion.ofJson? Assertion.toJson fun _ => True :=
  keeps_of_flat rfl (fun assertion _ => ⟨_, rfl, by simp, by simp, by simp⟩)
    fun assertion _ => assertion.ofJson?_toJson

/-- The text of an event of a run may look any way, so nothing but its form counts. -/
theorem keeps_runEvent : Keeps "RunEvent" RunEvent.ofJson? RunEvent.toJson RunEvent.Fits := by
  refine keeps_of_shape rfl (fun event fits => ?_) fun _ => RunEvent.ofJson?_toJson
  have flat : Exact 1 event.toJson := by
    cases event with
    | runStarted runId testCaseId browser => exact .obj (by simp)
    | stepStarted runId stepId order => exact .obj (by simp [exact_nat32 fits])
    | stepFinished runId stepId order status => exact .obj (by simp [exact_nat32 fits])
    | runFinished runId status => exact .obj (by simp)
  exact Shape.read?_any flat (by decide)

end Kinds

/-- Every record that is stored or told is read back from its text, which is one line. -/
theorem records_round_trip :
    Keeps "Project" Project.ofJson? Project.toJson Project.Fits ∧
    Keeps "TestCase" TestCase.ofJson? TestCase.toJson TestCase.Fits ∧
    Keeps "Step" Step.ofJson? Step.toJson Step.Fits ∧
    Keeps "Run" Run.ofJson? Run.toJson Run.Fits ∧
    Keeps "StepResult" StepResult.ofJson? StepResult.toJson StepResult.Fits ∧
    Keeps "ActiveRunContext" ActiveContext.ofJson? ActiveContext.toJson (fun _ => True) ∧
    Keeps "BrowserInstallState" InstallState.ofJson? InstallState.toJson (fun _ => True) ∧
    Keeps "RunEvent" RunEvent.ofJson? RunEvent.toJson RunEvent.Fits ∧
    Keeps "InstallEvent" InstallEvent.ofJson? InstallEvent.toJson (fun _ => True) ∧
    Keeps "Assertion" Assertion.ofJson? Assertion.toJson (fun _ => True) :=
  ⟨keeps_project, keeps_testCase, keeps_step, keeps_run, keeps_stepResult, keeps_activeContext,
    keeps_installState, keeps_runEvent, keeps_installEvent, keeps_assertion⟩

/-- A step result with the greatest order, the earliest start and an error of two lines. -/
def sampleResult : StepResult :=
  ⟨"é\u0000", "\"r\"", "a\\b", 2 ^ 32 - 1, .failed, some "first\r\nsecond", none, -2 ^ 63,
    some (2 ^ 63 - 1)⟩

theorem sampleResult_round_trips : sampleResult.Fits ∧
    decode? "StepResult" StepResult.ofJson? sampleResult.toJson.text = some sampleResult := by
  have fits : sampleResult.Fits := by
    refine ⟨by decide, by decide, ?_⟩
    rintro time ⟨⟩
    decide
  exact ⟨fits, records_round_trip.2.2.2.2.1.reads sampleResult fits⟩

end StepRunner.Wire
