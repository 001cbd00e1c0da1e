import StepRunner.Engine.Basic
import StepRunner.Proofs.Json.Records
import StepRunner.Proofs.Json.Values
import StepRunner.Proofs.Step.Grammar

/-!
This file compares the action that is stored with a step and the action that its text reads as.
They differ by less than a millisecond of the wait, and not at all if the wait is whole.
-/

namespace StepRunner

open Json

namespace Duration

/-- A span without what is left over of its last millisecond. -/
def cut (span : Duration) : Duration := .ofMilliseconds span.milliseconds

@[simp] theorem cut_zero : zero.cut = zero := by
  simp [cut, ofMilliseconds, milliseconds, zero]

/-- Whole milliseconds are not cut. -/
@[simp] theorem cut_ofMilliseconds (count : Nat) :
    (ofMilliseconds count).cut = ofMilliseconds count :=
  congrArg ofMilliseconds (milliseconds_ofMilliseconds count)

/-- A span is its whole milliseconds and what is left over. -/
theorem nanoseconds_eq_cut_add (span : Duration) :
    span.nanoseconds = span.cut.nanoseconds + span.nanoseconds % 1000000 := by
  simp only [cut, ofMilliseconds, milliseconds]
  omega

theorem cut_eq_self_iff {span : Duration} :
    span.cut = span ↔ span.nanoseconds % 1000000 = 0 := by
  have parts := span.nanoseconds_eq_cut_add
  constructor
  · intro same
    rw [same] at parts
    omega
  · intro whole
    rw [whole, Nat.add_zero] at parts
    exact congrArg mk parts.symm

/-- A span that fits a word of milliseconds is written as it is. -/
theorem wireMilliseconds_of_fits {span : Duration} (fits : FitsNat64 span.milliseconds) :
    span.wireMilliseconds = span.milliseconds :=
  Nat.mod_eq_of_lt fits

theorem wireMilliseconds_lt (span : Duration) : span.wireMilliseconds < 2 ^ 64 :=
  Nat.mod_lt _ (by decide)

end Duration

namespace Action

/-- An action whose wait is cut to whole milliseconds. -/
def cut : Action → Action
  | enter target value => enter target value
  | click target waitAfter => click target (waitAfter.map Duration.cut)
  | goto path => goto path
  | expect assertion within => expect assertion (within.map Duration.cut)

/-- The wait of an action fits a 64 bit word of milliseconds. -/
def Fits (action : Action) : Prop :=
  FitsNat64 action.requestedWait.milliseconds

variable {action : Action}

theorem requestedWait_cut (action : Action) :
    action.cut.requestedWait = action.requestedWait.cut := by
  cases action with
  | enter target value => exact Duration.cut_zero.symm
  | click target waitAfter => cases waitAfter <;> simp [cut, requestedWait]
  | goto path => exact Duration.cut_zero.symm
  | expect assertion within => cases within <;> simp [cut, requestedWait]

/-- Nothing is cut from an action exactly if its wait is whole. -/
theorem cut_eq_self_iff :
    action.cut = action ↔ action.requestedWait.nanoseconds % 1000000 = 0 := by
  rw [← Duration.cut_eq_self_iff]
  cases action with
  | enter target value => exact iff_of_true rfl Duration.cut_zero
  | click target waitAfter => cases waitAfter <;> simp [cut, requestedWait]
  | goto path => exact iff_of_true rfl Duration.cut_zero
  | expect assertion within => cases within <;> simp [cut, requestedWait]

section Writing

/-- A wait that fits is read back without what is left over of its last millisecond. -/
theorem wait?_wireMilliseconds {span : Duration} (fits : FitsNat64 span.milliseconds) :
    wait? (.whole span.wireMilliseconds) = some (some span.cut) := by
  have read : nullable? nat64? (.whole span.milliseconds) = some (some span.milliseconds) :=
    congrArg (Option.map some) (nat64?_whole fits)
  rw [Duration.wireMilliseconds_of_fits fits, wait?, read]
  rfl

variable {wait : Option Duration}

/-- What is read of a wait that was written or left out. -/
theorem defaulted?_waitMember {names : List String} {name : String}
    {members : List (String × Json)} (listed : name ∈ names) (new : members.lookup name = none)
    (fits : FitsNat64 (wait.getD .zero).milliseconds) :
    (Fields.given names (members ++ waitMember name wait)).defaulted? name wait? none =
      some (wait.map Duration.cut) := by
  rw [Fields.defaulted?_given listed, List.lookup_append, new]
  cases wait with
  | none => rfl
  | some span =>
    have read : wait? (.whole span.wireMilliseconds) = some (some span.cut) :=
      wait?_wireMilliseconds fits
    simp [waitMember, read]

theorem exact_waitMember {name : String} :
    ∀ member ∈ waitMember name wait, Exact 0 member.2 := by
  cases wait with
  | none => simp [waitMember]
  | some span =>
    simp only [waitMember, List.mem_singleton, forall_eq]
    exact .whole (by omega) (by have small := span.wireMilliseconds_lt; omega)

/-- The JSON form of an action is flat. -/
theorem exact_toJson (action : Action) : Exact 1 action.toJson := by
  cases action with
  | enter target value =>
    refine .obj ?_
    simp only [List.forall_mem_cons]
    exact ⟨.str _, .str _, .str _, by simp⟩
  | click target waitAfter =>
    refine .obj ?_
    simp only [List.forall_mem_append, List.forall_mem_cons]
    exact ⟨⟨.str _, .str _, by simp⟩, exact_waitMember⟩
  | goto path =>
    refine .obj ?_
    simp only [List.forall_mem_cons]
    exact ⟨.str _, .str _, by simp⟩
  | expect assertion within =>
    refine .obj ?_
    simp only [List.forall_mem_append, List.forall_mem_cons]
    exact ⟨⟨.str _, .str _, by simp⟩, exact_waitMember⟩

/-- A text and a wait are read back from a record of both. -/
theorem fields_waitMember (field name text : String) (apart : field ≠ name)
    (fits : FitsNat64 (wait.getD .zero).milliseconds) :
    ∃ fields, Fields.of? [field, name] (.obj ((field, .str text) :: waitMember name wait)) =
        some fields ∧
      fields.required? field string? = some text ∧
      fields.defaulted? name wait? none = some (wait.map Duration.cut) := by
  have distinct : (((field, .str text) :: waitMember name wait).map Prod.fst).Nodup := by
    cases wait <;> simp [waitMember, apart]
  refine ⟨_, Fields.of?_obj distinct, ?_, ?_⟩
  · exact Fields.required?_given List.mem_cons_self List.lookup_cons_self
  · have new : List.lookup name [(field, Json.str text)] = none := by
      rw [List.lookup_cons, beq_false_of_ne apart.symm]
      rfl
    exact defaulted?_waitMember (by simp) new fits

/-- An action whose wait fits is read back from its JSON form, with its wait cut. -/
theorem ofJson?_toJson (fits : action.Fits) : ofJson? action.toJson = some action.cut := by
  cases action with
  | enter target value =>
    simp [ofJson?, toJson, cut, tagged?_obj, Fields.of?_obj, Fields.required?_given,
      List.lookup_cons]
  | click target waitAfter =>
    obtain ⟨fields, record, text, wait⟩ :=
      fields_waitMember "target" "wait_after" target (by decide) fits
    have apart : "action" ∉ (("target", .str target) :: waitMember "wait_after" waitAfter).map
        Prod.fst := by
      cases waitAfter <;> simp [waitMember]
    simp [ofJson?, toJson, cut, tagged?_obj apart, record, text, wait]
  | goto path =>
    simp [ofJson?, toJson, cut, tagged?_obj, Fields.of?_obj, Fields.required?_given]
  | expect assertion within =>
    obtain ⟨fields, record, text, wait⟩ :=
      fields_waitMember "assertion" "within" assertion (by decide) fits
    have apart : "action" ∉ (("assertion", .str assertion) :: waitMember "within" within).map
        Prod.fst := by
      cases within <;> simp [waitMember]
    simp [ofJson?, toJson, cut, tagged?_obj apart, record, text, wait]

theorem ofText?_text_toJson (fits : action.Fits) :
    ofText? action.toJson.text = some action.cut := by
  rw [ofText?, read?_text action.exact_toJson (by decide), Option.bind_some, ofJson?_toJson fits]

end Writing

section Reading

/-- A wait is a number of whole milliseconds that fits 64 bits. -/
def IsWhole (wait : Option Duration) : Prop :=
  FitsNat64 (wait.getD .zero).milliseconds ∧ wait.map Duration.cut = wait

theorem isWhole_none : IsWhole none :=
  ⟨by decide, rfl⟩

variable {value : Json} {wait : Option Duration}

theorem isWhole_of_wait? (read : wait? value = some wait) : IsWhole wait := by
  obtain ⟨count, counted, rfl⟩ := Option.map_eq_some_iff.1 read
  cases count with
  | none => exact isWhole_none
  | some count =>
    have fits : FitsNat64 (Duration.ofMilliseconds count).milliseconds := by
      rw [Duration.milliseconds_ofMilliseconds]
      exact fitsNat64_of_nat64? (of_nullable? counted)
    exact ⟨fits, by simp⟩

theorem isWhole_of_defaulted? {fields : Fields} {name : String}
    (read : fields.defaulted? name wait? none = some wait) : IsWhole wait := by
  unfold Fields.defaulted? at read
  split at read
  · exact isWhole_of_wait? read
  · obtain rfl := Option.some.inj read
    exact isWhole_none

/-- Whatever action is read from JSON has a wait of whole milliseconds that fits. -/
theorem fits_and_cut_of_ofJson? (read : ofJson? value = some action) :
    action.Fits ∧ action.cut = action := by
  simp only [ofJson?, bind, Option.bind_eq_some_iff, Prod.exists] at read
  obtain ⟨kind, content, -, read⟩ := read
  split at read
  · simp only [Option.bind_eq_some_iff, pure, Option.some.injEq] at read
    obtain ⟨_, -, target, -, text, -, rfl⟩ := read
    exact ⟨(isWhole_none).1, rfl⟩
  · simp only [Option.bind_eq_some_iff, pure, Option.some.injEq] at read
    obtain ⟨_, -, target, -, wait, waits, rfl⟩ := read
    have whole := isWhole_of_defaulted? waits
    exact ⟨whole.1, congrArg (click target) whole.2⟩
  · simp only [Option.bind_eq_some_iff, pure, Option.some.injEq] at read
    obtain ⟨_, -, path, -, rfl⟩ := read
    exact ⟨(isWhole_none).1, rfl⟩
  · simp only [Option.bind_eq_some_iff, pure, Option.some.injEq] at read
    obtain ⟨_, -, assertion, -, wait, waits, rfl⟩ := read
    have whole := isWhole_of_defaulted? waits
    exact ⟨whole.1, congrArg (expect assertion) whole.2⟩
  · cases read

theorem fits_and_cut_of_ofText? {text : String} (read : ofText? text = some action) :
    action.Fits ∧ action.cut = action := by
  obtain ⟨value, -, read⟩ := Option.bind_eq_some_iff.1 read
  exact fits_and_cut_of_ofJson? read

end Reading

end Action

namespace StepReading

variable {line : String} {reading : StepReading}

theorem WrittenSeconds.le_of_wait? {written : WrittenSeconds} {wait : Duration}
    (usable : written.wait? = some wait) : wait.nanoseconds ≤ longestWait.nanoseconds := by
  simp only [wait?, Option.ite_none_right_eq_some, Option.some.injEq] at usable
  obtain ⟨-, short, rfl⟩ := usable
  exact short

theorem Shapes.requestedWait_le {chars : List Char} {action : Action}
    (shapes : Shapes chars action) :
    action.requestedWait.nanoseconds ≤ longestWait.nanoseconds := by
  cases shapes with
  | enter | click | goto | expect => exact Nat.zero_le _
  | clickAfter _ _ _ _ usable => exact WrittenSeconds.le_of_wait? usable
  | expectWithin _ _ _ _ _ usable => exact WrittenSeconds.le_of_wait? usable

/-- No line asks for more than the longest wait. -/
theorem requestedWait_le_of_ofLine? (read : ofLine? line = some reading) :
    reading.action.requestedWait.nanoseconds ≤ longestWait.nanoseconds := by
  simp only [ofLine?, ofChars?] at read
  split at read
  · cases read
  · split at read
    · next action strict =>
      obtain rfl := Option.some.inj read
      exact (Shapes.of_strict? strict).requestedWait_le
    · obtain rfl := Option.some.inj read
      exact Nat.zero_le _

/-- The wait of a line fits a 64 bit word of milliseconds. -/
theorem fits_of_ofLine? (read : ofLine? line = some reading) : reading.action.Fits := by
  have brief : reading.action.requestedWait.nanoseconds ≤ 3600 * 1000000000 :=
    requestedWait_le_of_ofLine? read
  show reading.action.requestedWait.nanoseconds / 1000000 < 2 ^ 64
  omega

/-- A line reads the same without the blanks on either side. -/
theorem ofLine?_trimmed (line : String) : ofLine? (Text.trimmed line) = ofLine? line := by
  simp [ofLine?, ofChars?, Text.trimmed, Text.trim_trim]

theorem exists_ofLine? (solid : ∃ char ∈ line.toList, Text.isBlank char = false) :
    ∃ reading, ofLine? line = some reading := by
  have filled : Text.trim line.toList ≠ [] := by
    obtain ⟨char, present, printed⟩ := solid
    intro blank
    rw [Text.trim_eq_nil_iff.1 blank char present] at printed
    cases printed
  cases strict : strict? (Text.trim line.toList) with
  | some action => exact ⟨_, ofLine?_of_strict filled strict⟩
  | none => exact ⟨_, ofLine?_of_shapeless filled strict⟩

end StepReading

namespace RunTask

variable {task : RunTask} {action : Action}

/-- The cut of a wait costs an action less than a millisecond of its time. -/
theorem budget_cut_bounds (task : RunTask) (action : Action) :
    (task.budget action.cut).nanoseconds ≤ (task.budget action).nanoseconds ∧
      (task.budget action).nanoseconds < (task.budget action.cut).nanoseconds + 1000000 := by
  have parts := action.requestedWait.nanoseconds_eq_cut_add
  rw [budget, budget, Action.requestedWait_cut]
  simp only [Duration.add]
  omega

/-- The cut of a wait costs an action what is left over of the last millisecond. -/
theorem budget_eq_cut_add (accepted : task.options.check = .ok ())
    (short : action.requestedWait.nanoseconds ≤ StepReading.longestWait.nanoseconds) :
    (task.budget action).nanoseconds =
      (task.budget action.cut).nanoseconds + action.requestedWait.nanoseconds % 1000000 := by
  have parts := action.requestedWait.nanoseconds_eq_cut_add
  have bounded : task.options.stepTimeout.nanoseconds ≤ 3600 * 1000000000 := by
    unfold RunOptions.check at accepted
    split at accepted
    · cases accepted
    · next fit => exact Nat.not_lt.1 fun longer => fit (.inr longer)
  have ample : 7200 * 1000000000 ≤ Duration.longest.nanoseconds := by decide
  have brief : action.requestedWait.nanoseconds ≤ 3600 * 1000000000 := short
  rw [budget, budget, Action.requestedWait_cut]
  simp only [Duration.add]
  omega

end RunTask

namespace Step

/-- What is kept of a line with a reading when it is stored as a step. -/
structure Recalls (line : String) (reading : StepReading) : Prop where
  drafted (number : Nat) : StepDraft.ofReport ⟨number, line, StepReading.ofLine? line⟩ =
    .ok ⟨Text.trimmed line, some reading.action.toJson.text⟩
  /-- The stored action has its wait cut to whole milliseconds. -/
  stored (step : Step) : step.storedAction = some reading.action.toJson.text →
    step.action? = some reading.action.cut
  whole_iff : reading.action.cut = reading.action ↔
    reading.action.requestedWait.nanoseconds % 1000000 = 0
  budget_bounds (task : RunTask) :
    (task.budget reading.action.cut).nanoseconds ≤ (task.budget reading.action).nanoseconds ∧
      (task.budget reading.action).nanoseconds <
        (task.budget reading.action.cut).nanoseconds + 1000000
  /-- What is cut from the wait is missing in the time for the action. -/
  budget (task : RunTask) : task.options.check = .ok () →
    (task.budget reading.action).nanoseconds = (task.budget reading.action.cut).nanoseconds +
      reading.action.requestedWait.nanoseconds % 1000000
  /-- Without a stored action that can be read, the text of the step counts. -/
  reread (step : Step) : step.rawText = Text.trimmed line → step.storedAction? = none →
    step.action? = some reading.action

/-- The wait of every step fits a 64 bit word of milliseconds. -/
theorem fits_of_action? {step : Step} {action : Action} (acts : step.action? = some action) :
    action.Fits := by
  unfold action? at acts
  split at acts
  · next stored found =>
    obtain rfl := Option.some.inj acts
    obtain ⟨text, -, read⟩ := Option.bind_eq_some_iff.1 found
    exact (Action.fits_and_cut_of_ofText? read).1
  · obtain ⟨reading, read, rfl⟩ := Option.map_eq_some_iff.1 acts
    exact StepReading.fits_of_ofLine? read

theorem recalls_of_ofLine? {line : String} {reading : StepReading}
    (read : StepReading.ofLine? line = some reading) : Recalls line reading := by
  have short := StepReading.requestedWait_le_of_ofLine? read
  have fits := StepReading.fits_of_ofLine? read
  exact {
    drafted number := by rw [read]; rfl
    stored step kept := by
      rw [action?, storedAction?, kept, Option.bind_some, Action.ofText?_text_toJson fits]
    whole_iff := Action.cut_eq_self_iff
    budget_bounds task := task.budget_cut_bounds reading.action
    budget task accepted := RunTask.budget_eq_cut_add accepted short
    reread step kept missing := by
      rw [action?, missing, kept, StepReading.ofLine?_trimmed, read, Option.map_some] }

/-- A click with a wait of half a millisecond. -/
def sampleLine : String := "Click \"Save\" after 0.0005s"

/-- A click with the longest wait that a 64 bit word of milliseconds holds. -/
def sampleClick : Action := .click "Save" (some (.ofMilliseconds 18446744073709551615))

/-- Half a millisecond is cut from the stored action, and nothing is left of the wait. -/
example : (StepReading.ofLine? sampleLine).map (fun reading => reading.action.cut) =
    some (.click "Save" (some .zero)) := by
  decide +kernel

end Step

end StepRunner
