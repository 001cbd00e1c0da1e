import Mathlib.Data.List.Perm.Basic
import StepRunner.Bridge.Command
import StepRunner.Proofs.Step.Storage
import StepRunner.Proofs.Text.Encoding

/-!
This file shows that the bridge is told what an action asks for, on a line of its own.
Whatever texts an action is made of, the line ends where its only newline stands, and it reads as
an object that gives each operand once.
-/

namespace StepRunner

namespace Utf8

/-- Only a newline has the byte of a newline. -/
theorem newline_mem_utf8EncodeChar {char : Char} (present : 10 ∈ String.utf8EncodeChar char) :
    char = '\n' := by
  have value : Char.ofNat char.toNat = char := Char.ofNat_toNat char
  have code : char.val.toNat = char.toNat := rfl
  have byte {number : Nat} (same : 10 = UInt8.ofNat number) : number % 256 = 10 := by
    have numbers := congrArg UInt8.toNat same
    rw [UInt8.toNat_ofNat'] at numbers
    exact numbers.symm
  have other {number : Nat} (large : 128 ≤ number % 256) : 10 ≠ UInt8.ofNat number := by
    intro same
    rw [byte same] at large
    exact absurd large (by decide)
  unfold String.utf8EncodeChar at present
  simp only [code] at present
  generalize char.toNat = number at value present
  split_ifs at present with one two three
  · have least := byte (List.mem_singleton.1 present)
    have whole : number = 10 := by omega
    rw [← value, whole]
  all_goals simp only [List.mem_cons, List.not_mem_nil, or_false] at present
  · obtain same | same := present <;> exact absurd same (other (by omega))
  · obtain same | same | same := present <;> exact absurd same (other (by omega))
  · obtain same | same | same | same := present <;> exact absurd same (other (by omega))

/-- The bytes of a text without newlines have no byte of a newline. -/
theorem newline_not_mem_encode {text : String} (clean : '\n' ∉ text.toList) :
    10 ∉ encode text := by
  rw [encode_eq_flatMap, List.mem_flatMap]
  rintro ⟨char, listed, present⟩
  exact clean (newline_mem_utf8EncodeChar present ▸ listed)

theorem encode_append (front back : String) :
    encode (front ++ back) = encode front ++ encode back := by
  rw [encode_eq_flatMap, encode_eq_flatMap, encode_eq_flatMap, String.toList_append,
    List.flatMap_append]

end Utf8

namespace Json

section Sorting

variable {members others : List (String × Json)} {name : String} {value : Json} {depth : Nat}

theorem insertMember_perm (member : String × Json) (members : List (String × Json)) :
    (insertMember member members).Perm (member :: members) := by
  induction members with
  | nil => exact .refl _
  | cons first rest inductionHypothesis =>
    rw [insertMember]
    split
    · exact .refl _
    · exact (inductionHypothesis.cons first).trans (.swap member first rest)

/-- Members whose values hold no members of their own only change their places. -/
theorem sortedMembers_perm (flat : ∀ member ∈ members, member.2.sorted = member.2) :
    (sortedMembers members).Perm members := by
  induction members with
  | nil => exact .refl _
  | cons member rest inductionHypothesis =>
    obtain ⟨name, value⟩ := member
    obtain ⟨still, later⟩ := List.forall_mem_cons.1 flat
    have kept : value.sorted = value := still
    rw [sortedMembers, kept]
    exact (insertMember_perm _ _).trans ((inductionHypothesis later).cons _)

/-- A value without items and members is sorted. -/
theorem Exact.sorted_eq (exact : Exact 0 value) : value.sorted = value := by
  cases exact <;> rfl

/-- The order of members with names of their own does not matter to a reader. -/
theorem valuesOf_of_perm (same : members.Perm others) (distinct : (others.map Prod.fst).Nodup) :
    valuesOf name members = (others.lookup name).toList := by
  have values : (valuesOf name members).Perm (valuesOf name others) :=
    (same.filter _).map Prod.snd
  rw [valuesOf_eq_toList distinct] at values
  cases found : others.lookup name with
  | none =>
    rw [found] at values
    exact List.perm_nil.1 values
  | some value =>
    rw [found] at values
    exact List.perm_singleton.1 values

end Sorting

section Lines

variable {depth : Nat} {value : Json}

/-- A value is read back from the line that it stands on. -/
theorem read?_line (exact : Exact depth value) (shallow : depth < depthLimit) :
    read? (value.text ++ "\n") = some value := by
  have ends : EndsNumber ['\n'] := endsNumber_cons [] (by decide) (by decide)
  have whole := readPrefix?_compact exact shallow ends
  have text : (value.text ++ "\n").toList = value.compact ++ ['\n'] := by simp
  rw [read?, text, readChars?, whole]
  rfl

end Lines

end Json

namespace Bridge

open Json

/-- What an action asks of the page, with the wait after a click as a number. -/
inductive PageCall where
  | visit (url : String)
  | fill (target value : String)
  | press (target : String) (wait : Option Nat)
  | check (assertion : Assertion)
  deriving DecidableEq, Repr

/-- What an action asks of the page of a site, with its wait counted in a given way. -/
def pageCall (count : Duration → Nat) (baseUrl : String) : Action → PageCall
  | .goto path => .visit (Address.resolve baseUrl path)
  | .enter target value => .fill target value
  | .click target waitAfter => .press target (waitAfter.map count)
  | .expect assertion _ => .check (Assertion.interpret assertion)

/-- The members that tell the bridge what is asked of the page. -/
def PageCall.members : PageCall → List (String × Json)
  | visit url => [("cmd", .str "goto"), ("url", .str url)]
  | fill target value => [("cmd", .str "enter"), ("target", .str target), ("value", .str value)]
  | press target wait =>
    [("cmd", .str "click"), ("target", .str target),
      ("wait_after_ms", wait.elim .null fun wait => .whole wait)]
  | check assertion =>
    [("cmd", .str "expect"), ("kind", .str assertion.kind), ("value", .str assertion.value)]

/-- The line that asks the bridge for an action, with its number and the time for it. -/
def lineOf (baseUrl : String) (action : Action) (number : UInt64) (timeout : Duration) : String :=
  Request.line ⟨number.toNat, .ofAction baseUrl action, timeout⟩

/-- Two lines give the same values to all names but those of the number and of the time. -/
def Alike (one two : String) : Prop :=
  ∃ members others, read? one = some (.obj members) ∧ read? two = some (.obj others) ∧
    ∀ name, name ≠ "id" → name ≠ "timeout_ms" → valuesOf name members = valuesOf name others

/-- What the line for an action is to the bridge. -/
structure Framed (baseUrl : String) (action : Action) (number : UInt64) (timeout : Duration) :
    Prop where
  single : ∃ body, Utf8.encode (lineOf baseUrl action number timeout) = body ++ [10] ∧ 10 ∉ body
  /-- The line reads as an object in which each name comes once. -/
  reads : ∃ members, read? (lineOf baseUrl action number timeout) = some (.obj members) ∧
    (members.map Prod.fst).Nodup ∧
    members.Perm ((pageCall Duration.wireMilliseconds baseUrl action).members ++
      [("id", .whole number.toNat), ("timeout_ms", .whole timeout.wireMilliseconds)])
  /-- Lines that are alike ask the same of the page, with waits as 64 bit words. -/
  alike_iff : ∀ otherUrl other otherNumber otherTimeout,
    Alike (lineOf baseUrl action number timeout)
        (lineOf otherUrl other otherNumber otherTimeout) ↔
      pageCall Duration.wireMilliseconds baseUrl action =
        pageCall Duration.wireMilliseconds otherUrl other
  /-- A wait that fits such a word is given to the millisecond. -/
  exact : action.Fits → pageCall Duration.wireMilliseconds baseUrl action =
    pageCall Duration.milliseconds baseUrl action
  /-- The waits of all steps fit. -/
  fits : ∀ step : Step, step.action? = some action → action.Fits

variable {baseUrl otherUrl : String} {action other : Action} {number otherNumber : UInt64}
  {timeout otherTimeout : Duration} {request : Request} {call : PageCall} {name : String}

section Calls

/-- The check of a kind that looks for a text. -/
def checkOf? (kind value : String) : Option Assertion :=
  match kind with
  | "url_contains" => some (.urlContains value)
  | "title_is" => some (.titleIs value)
  | "visible" => some (.visible value)
  | "hidden" => some (.hidden value)
  | "text_present" => some (.textPresent value)
  | _ => none

theorem checkOf?_kind (assertion : Assertion) :
    checkOf? assertion.kind assertion.value = some assertion := by
  cases assertion <;> rfl

/-- Reads what is asked of the page from the values of names. -/
def callOf? (value? : String → Option Json) : Option PageCall :=
  let text? (name : String) := (value? name).bind string?
  match text? "cmd" with
  | some "goto" => (text? "url").map .visit
  | some "enter" => do return .fill (← text? "target") (← text? "value")
  | some "click" => do
    return .press (← text? "target") (← (value? "wait_after_ms").bind (nullable? nat64?))
  | some "expect" => do return .check (← checkOf? (← text? "kind") (← text? "value"))
  | _ => none

/-- A call whose wait fits a 64 bit word is read back from its members. -/
theorem callOf?_members (fits : ∀ target wait, call = .press target (some wait) → FitsNat64 wait) :
    callOf? (fun name => call.members.lookup name) = some call := by
  cases call with
  | visit url => rfl
  | fill target value => rfl
  | press target wait =>
    cases wait with
    | none => rfl
    | some wait =>
      have word : nullable? nat64? (.whole wait) = some (some wait) :=
        congrArg (Option.map some) (nat64?_whole (fits target wait rfl))
      show ((nullable? nat64? (.whole wait)).bind fun wait => some (PageCall.press target wait)) = _
      rw [word, Option.bind_some]
  | check assertion =>
    show ((checkOf? assertion.kind assertion.value).bind fun found =>
      some (PageCall.check found)) = _
    rw [checkOf?_kind, Option.bind_some]

/-- Only the names of the operands are looked up. -/
theorem callOf?_congr {value? other? : String → Option Json}
    (same : ∀ name, name ≠ "id" → name ≠ "timeout_ms" → value? name = other? name) :
    callOf? value? = callOf? other? := by
  simp only [callOf?, same "cmd" (by decide) (by decide), same "url" (by decide) (by decide),
    same "target" (by decide) (by decide), same "value" (by decide) (by decide),
    same "wait_after_ms" (by decide) (by decide), same "kind" (by decide) (by decide)]

/-- A wait that is counted as a word of the wire fits one. -/
theorem fits_pageCall {target : String} {wait : Nat}
    (press : pageCall Duration.wireMilliseconds baseUrl action = .press target (some wait)) :
    FitsNat64 wait := by
  cases action with
  | click place waitAfter =>
    obtain ⟨-, counted⟩ := PageCall.press.inj press
    obtain ⟨span, -, rfl⟩ := Option.map_eq_some_iff.1 counted
    exact span.wireMilliseconds_lt
  | enter | goto | expect => cases press

/-- A wait that fits is counted to the millisecond. -/
theorem pageCall_of_fits (baseUrl : String) (fits : action.Fits) :
    pageCall Duration.wireMilliseconds baseUrl action =
      pageCall Duration.milliseconds baseUrl action := by
  cases action with
  | click target waitAfter =>
    cases waitAfter with
    | none => rfl
    | some span =>
      have word : span.wireMilliseconds = span.milliseconds :=
        Duration.wireMilliseconds_of_fits fits
      simp [pageCall, word]
  | enter | goto | expect => rfl

end Calls

section Members

/-- The members of a request, before they are put in order. -/
def Request.given (request : Request) : List (String × Json) :=
  ("cmd", .str request.command.name) :: request.command.operands ++
    [("id", .whole request.id), ("timeout_ms", .whole request.timeout.wireMilliseconds)]

theorem Request.toJson_eq (request : Request) :
    request.toJson = .obj (sortedMembers request.given) := by
  rw [toJson, sorted, given]

/-- A wait is a number that the bridge can read, or null. -/
theorem exact_waitJson (wait : Option Duration) : Exact 0 (Command.waitJson wait) := by
  cases wait with
  | none => exact .null
  | some wait =>
    have small := wait.wireMilliseconds_lt
    exact .whole (by omega) (by omega)

theorem exact_operands (command : Command) : ∀ operand ∈ command.operands, Exact 0 operand.2 := by
  cases command with
  | goto url => simpa [Command.operands] using Exact.str url
  | enter target value => simpa [Command.operands] using ⟨Exact.str target, Exact.str value⟩
  | click target wait =>
    simpa [Command.operands] using ⟨Exact.str target, exact_waitJson wait⟩
  | expect assertion => simpa [Command.operands] using ⟨Exact.str _, Exact.str _⟩
  | screenshot | close => exact List.forall_mem_nil _

/-- A request whose number fits 64 bits has members that text can hold. -/
theorem Request.exact_given (fits : request.id < 2 ^ 64) :
    ∀ member ∈ request.given, Exact 0 member.2 := by
  have small := request.timeout.wireMilliseconds_lt
  rw [given, List.forall_mem_append, List.forall_mem_cons]
  refine ⟨⟨.str _, exact_operands request.command⟩, ?_⟩
  simp only [List.forall_mem_cons]
  exact ⟨.whole (by omega) (by omega), .whole (by omega) (by omega), List.forall_mem_nil _⟩

theorem Request.sortedMembers_given_perm (request : Request) (fits : request.id < 2 ^ 64) :
    (sortedMembers request.given).Perm request.given :=
  sortedMembers_perm fun member listed => (exact_given fits member listed).sorted_eq

theorem Request.exact_toJson (request : Request) (fits : request.id < 2 ^ 64) :
    Exact 1 request.toJson := by
  rw [toJson_eq]
  apply Exact.obj
  intro member listed
  exact exact_given fits member ((sortedMembers_given_perm request fits).subset listed)

/-- The command for an action has the members that tell what the action asks for. -/
theorem given_ofAction (baseUrl : String) (action : Action) (id : Nat) (timeout : Duration) :
    Request.given ⟨id, .ofAction baseUrl action, timeout⟩ =
      (pageCall Duration.wireMilliseconds baseUrl action).members ++
        [("id", .whole id), ("timeout_ms", .whole timeout.wireMilliseconds)] := by
  cases action with
  | click target wait => cases wait <;> rfl
  | enter | goto | expect => rfl

theorem nodup_members (call : PageCall) (id limit : Json) :
    ((call.members ++ [("id", id), ("timeout_ms", limit)]).map Prod.fst).Nodup := by
  cases call <;> simp [PageCall.members]

end Members

section Lines

/-- The object that the line for an action reads as. -/
theorem read?_lineOf (baseUrl : String) (action : Action) (number : UInt64) (timeout : Duration) :
    ∃ members, read? (lineOf baseUrl action number timeout) = some (.obj members) ∧
      members.Perm ((pageCall Duration.wireMilliseconds baseUrl action).members ++
        [("id", .whole number.toNat), ("timeout_ms", .whole timeout.wireMilliseconds)]) := by
  let request : Request := ⟨number.toNat, .ofAction baseUrl action, timeout⟩
  have fits : request.id < 2 ^ 64 := number.toNat_lt
  have read := read?_line (request.exact_toJson fits) (by decide)
  rw [Request.toJson_eq] at read
  refine ⟨_, read, (request.sortedMembers_given_perm fits).trans ?_⟩
  rw [given_ofAction]

/-- The values of a name on the line for an action. -/
theorem valuesOf_lineOf {members : List (String × Json)}
    (read : read? (lineOf baseUrl action number timeout) = some (.obj members))
    (operand : name ≠ "id") (other : name ≠ "timeout_ms") :
    valuesOf name members =
      ((pageCall Duration.wireMilliseconds baseUrl action).members.lookup name).toList := by
  obtain ⟨found, again, same⟩ := read?_lineOf baseUrl action number timeout
  obtain rfl : members = found := Json.obj.inj (Option.some.inj (read.symm.trans again))
  have missing : List.lookup name [("id", whole number.toNat),
      ("timeout_ms", whole timeout.wireMilliseconds)] = none :=
    List.lookup_eq_none_iff.2 (by simp [operand, other])
  rw [valuesOf_of_perm same (nodup_members _ _ _), List.lookup_append, missing, Option.or_none]

theorem alike_lineOf_iff : Alike (lineOf baseUrl action number timeout)
      (lineOf otherUrl other otherNumber otherTimeout) ↔
    pageCall Duration.wireMilliseconds baseUrl action =
      pageCall Duration.wireMilliseconds otherUrl other := by
  obtain ⟨members, one, -⟩ := read?_lineOf baseUrl action number timeout
  obtain ⟨others, two, -⟩ := read?_lineOf otherUrl other otherNumber otherTimeout
  constructor
  · rintro ⟨_, _, first, second, same⟩
    have lookups (name : String) (operand : name ≠ "id") (apart : name ≠ "timeout_ms") :
        (pageCall Duration.wireMilliseconds baseUrl action).members.lookup name =
          (pageCall Duration.wireMilliseconds otherUrl other).members.lookup name := by
      have values := same name operand apart
      rw [valuesOf_lineOf first operand apart, valuesOf_lineOf second operand apart] at values
      simpa using congrArg List.head? values
    have calls := callOf?_congr lookups
    rw [callOf?_members fun _ _ => fits_pageCall, callOf?_members fun _ _ => fits_pageCall]
      at calls
    exact Option.some.inj calls
  · intro same
    refine ⟨members, others, one, two, fun name operand apart => ?_⟩
    rw [valuesOf_lineOf one operand apart, valuesOf_lineOf two operand apart, same]

/-- The only newline of a request's line stands at its end. -/
theorem Request.encode_line (request : Request) :
    Utf8.encode request.line = Utf8.encode request.toJson.text ++ [10] ∧
      10 ∉ Utf8.encode request.toJson.text := by
  have newline : Utf8.encode "\n" = [10] := by
    rw [Utf8.encode_eq_flatMap]
    rfl
  rw [line, Utf8.encode_append, newline]
  exact ⟨rfl, Utf8.newline_not_mem_encode (newline_not_mem_text _)⟩

/-- What is written to the bridge falls into one line for each request. -/
theorem splitOn_lines (requests : List Request) :
    (requests.flatMap fun request => Utf8.encode request.line).splitOn 10 =
      requests.map (fun request => Utf8.encode request.toJson.text) ++ [[]] := by
  induction requests with
  | nil => rfl
  | cons request requests inductionHypothesis =>
    obtain ⟨ends, single⟩ := request.encode_line
    rw [List.flatMap_cons, ends, List.append_assoc, List.singleton_append,
      List.splitOn_append_cons_self, List.splitOn_eq_singleton single, inductionHypothesis]
    rfl

end Lines

section Results

/-- The line for an action is one line, and it tells what the action asks for and no more. -/
theorem framed (baseUrl : String) (action : Action) (number : UInt64) (timeout : Duration) :
    Framed baseUrl action number timeout where
  single := ⟨_, Request.encode_line _⟩
  reads := by
    obtain ⟨members, read, same⟩ := read?_lineOf baseUrl action number timeout
    refine ⟨members, read, ?_, same⟩
    exact (same.map Prod.fst).nodup_iff.2 (nodup_members _ _ _)
  alike_iff := fun _ _ _ _ => alike_lineOf_iff
  exact := pageCall_of_fits baseUrl
  fits := fun _ acts => Step.fits_of_action? acts

example : lineOf "" (.enter "Na\"me" "two\nlines") 7 (.ofSeconds 5) =
    "\x7b\"cmd\":\"enter\",\"id\":7,\"target\":\"Na\\\"me\",\"timeout_ms\":5000," ++
      "\"value\":\"two\\nlines\"\x7d\n" := by
  decide +kernel

end Results

end Bridge

end StepRunner
