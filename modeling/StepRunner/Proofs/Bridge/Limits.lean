import StepRunner.Proofs.Bridge.Budgets
import StepRunner.Proofs.Bridge.Framing
import StepRunner.Proofs.Toml.Ranges
import StepRunner.Settings.File

/-!
This file shows which times the bridge is told in the commands of a session.
The wait after a click is told to the millisecond, whatever action is read.
The time for a command is told as a 64 bit word, which is too short for some configurations and
for some actions that are read from JSON.
-/

namespace StepRunner

namespace SettingsForm

/-- The field of a record in a configuration text is a part of it. -/
theorem narrow_get? {form : SettingsForm} {names : List String} {name : String}
    {value part : Json} {fields : Json.Fields} (narrow : value.Narrow)
    (record : form.fields? names value = some fields) (found : fields.get? name = some part) :
    part.Narrow := by
  unfold fields? at record
  split at record
  · next items =>
    have inside := Json.narrow_arr_iff.1 narrow
    refine Json.Narrow.get? (.arr fun item listed => inside item ?_) record found
    split at listed
    · exact List.mem_of_mem_take listed
    · exact listed
  · exact narrow.get? record found

end SettingsForm

namespace Config

variable {surroundings : Surroundings} {form : SettingsForm} {value : Json} {config : Config}

theorem lt_of_nat64? {number : Nat} (narrow : value.Narrow) (read : value.nat64? = some number) :
    number < 2 ^ 63 := by
  obtain ⟨whole, inside, rfl⟩ := Option.map_eq_some_iff.1 read
  cases narrow with
  | whole fits =>
    obtain ⟨-, same⟩ := Option.ite_none_right_eq_some.1 inside
    obtain rfl := Option.some.inj same
    obtain ⟨-, high⟩ := fits
    omega
  | null | bool | real | str | arr | obj => cases inside

/-- A limit from a text with narrow numbers is narrow, and so is the usual one. -/
theorem stepTimeout_lt_of_engine {settings : EngineSettings} (narrow : value.Narrow)
    (read : EngineSettings.ofJson? form value = some settings) :
    settings.stepTimeoutSeconds < 2 ^ 63 := by
  obtain ⟨fields, record, rest⟩ := Option.bind_eq_some_iff.1 read
  obtain ⟨seconds, given, rest⟩ := Option.bind_eq_some_iff.1 rest
  obtain ⟨_, -, same⟩ := Option.bind_eq_some_iff.1 rest
  obtain rfl := Option.some.inj same
  show seconds < 2 ^ 63
  unfold Json.Fields.defaulted? at given
  split at given
  · next part found => exact lt_of_nat64? (SettingsForm.narrow_get? narrow record found) given
  · obtain rfl := Option.some.inj given
    decide

theorem stepTimeout_lt_of_ofJson? (narrow : value.Narrow)
    (read : ofJson? surroundings form value = some config) :
    config.engine.stepTimeoutSeconds < 2 ^ 63 := by
  obtain ⟨fields, record, rest⟩ := Option.bind_eq_some_iff.1 read
  obtain ⟨_, -, rest⟩ := Option.bind_eq_some_iff.1 rest
  obtain ⟨engine, given, rest⟩ := Option.bind_eq_some_iff.1 rest
  obtain ⟨_, -, rest⟩ := Option.bind_eq_some_iff.1 rest
  obtain ⟨_, -, same⟩ := Option.bind_eq_some_iff.1 rest
  obtain rfl := Option.some.inj same
  show engine.stepTimeoutSeconds < 2 ^ 63
  unfold Json.Fields.defaulted? at given
  split at given
  · next part found =>
    exact stepTimeout_lt_of_engine (SettingsForm.narrow_get? narrow record found) given
  · obtain rfl := Option.some.inj given
    decide

theorem stepTimeout_lt_of_load {content : Option Bytes}
    (loaded : load surroundings content = .ok config) :
    config.engine.stepTimeoutSeconds < 2 ^ 63 := by
  unfold load at loaded
  split at loaded
  · obtain rfl := Except.ok.inj loaded
    show 5 < 2 ^ 63
    decide
  · split at loaded
    · cases loaded
    · split at loaded
      · next found read =>
        obtain rfl := Except.ok.inj loaded
        obtain ⟨document, parsed, given⟩ := Option.bind_eq_some_iff.1 read
        exact stepTimeout_lt_of_ofJson? (Toml.narrow_of_read? parsed) given
      · cases loaded

/-- The limit of a configuration that is loaded fits 63 bits. -/
theorem stepTimeout_lt_of_loadFrom {disk : Disk} {path : String}
    (loaded : loadFrom surroundings disk path = .ok config) :
    config.engine.stepTimeoutSeconds < 2 ^ 63 := by
  unfold loadFrom at loaded
  split at loaded
  · split at loaded
    · exact stepTimeout_lt_of_load loaded
    · cases loaded
  · exact stepTimeout_lt_of_load loaded

end Config

namespace Bridge.Request

variable (request : Request)

theorem flat_given : ∀ member ∈ request.given, member.2.sorted = member.2 := by
  obtain ⟨id, command, timeout⟩ := request
  cases command with
  | click target wait =>
    cases wait <;> simp [given, Command.operands, Command.waitJson, Json.sorted]
  | goto | enter | expect | screenshot | close => simp [given, Command.operands, Json.sorted]

theorem nodup_given : (request.given.map Prod.fst).Nodup := by
  obtain ⟨id, command, timeout⟩ := request
  cases command <;> simp [given, Command.operands]

/-- A request has the members that it is made of. -/
theorem member?_toJson (name : String) :
    request.toJson.member? name = request.given.lookup name := by
  have same := Json.sortedMembers_perm request.flat_given
  rw [toJson_eq, Json.member?, Json.valuesOf_of_perm same request.nodup_given]
  cases request.given.lookup name <;> rfl

theorem member?_timeout :
    request.toJson.member? "timeout_ms" = some (.whole request.timeout.wireMilliseconds) := by
  obtain ⟨id, command, timeout⟩ := request
  rw [member?_toJson]
  cases command <;> rfl

theorem member?_waitAfter {target : String} {wait : Option Duration}
    (click : request.command = .click target wait) :
    request.toJson.member? "wait_after_ms" = some (Command.waitJson wait) := by
  obtain ⟨id, command, timeout⟩ := request
  obtain rfl : command = .click target wait := click
  rw [member?_toJson]
  rfl

end Bridge.Request

namespace Duration

variable {seconds : Nat} {wait : Duration}

/-- A sum is told as a 64 bit word; it is always shorter than the longest span. -/
theorem wireMilliseconds_add (short : seconds < 2 ^ 63) (fits : Json.FitsNat64 wait.milliseconds) :
    ((ofSeconds seconds).add wait).wireMilliseconds =
      (seconds * 1000 + wait.milliseconds) % 2 ^ 64 := by
  have power : Nat.pow 2 64 = 18446744073709551616 := rfl
  simp only [Json.FitsNat64, milliseconds] at fits
  simp only [wireMilliseconds, milliseconds, add, ofSeconds, longest, power]
  omega

theorem wireMilliseconds_ofSeconds (seconds : Nat) :
    (ofSeconds seconds).wireMilliseconds = seconds * 1000 % 2 ^ 64 := by
  have power : Nat.pow 2 64 = 18446744073709551616 := rfl
  simp only [wireMilliseconds, milliseconds, ofSeconds, power]
  omega

/-- A limit of more than half a billion years is told as less than half a second. -/
example : (ofSeconds 18446744073709552).wireMilliseconds = 384 := by decide

end Duration

namespace Rehearsal

/-- What a session is asked for. -/
inductive Errand where
  | act (action : Action)
  | picture
  | leave

namespace Errand

/-- The command for what is asked for. -/
def command (baseUrl : String) : Errand → Bridge.Command
  | act action => .ofAction baseUrl action
  | picture => .screenshot
  | leave => .close

/-- The wait that is asked for. -/
def wait : Errand → Duration
  | act action => action.requestedWait
  | picture | leave => .zero

/-- The time for what is asked for, where all else has a limit. -/
def timeout (limit : Duration) : Errand → Duration
  | act action => limit.add action.requestedWait
  | picture | leave => limit

/-- An action is read from a line or from JSON. -/
def IsRead : Errand → Prop
  | act action =>
    (∃ line reading, StepReading.ofLine? line = some reading ∧ reading.action = action) ∨
      ∃ value, Action.ofJson? value = some action
  | picture | leave => True

/-- The milliseconds for what is asked for, under the limit of a configuration. -/
def milliseconds (config : Config) (errand : Errand) : Nat :=
  config.engine.stepTimeoutSeconds * 1000 + errand.wait.milliseconds

/-- The bridge is told the exact time. -/
def Exact (config : Config) (errand : Errand) (request : Bridge.Request) : Prop :=
  request.toJson.member? "timeout_ms" = some (.whole (errand.milliseconds config))

end Errand

/-- What the bridge is told in a command. -/
structure Told (config : Config) (errand : Errand) (request : Bridge.Request) : Prop where
  command : request.command = errand.command config.browser.baseUrl
  /-- The time is told as a 64 bit word. -/
  timeout : request.toJson.member? "timeout_ms" =
    some (.whole (errand.milliseconds config % 2 ^ 64 : Nat))
  exact_iff : errand.Exact config request ↔ errand.milliseconds config < 2 ^ 64
  /-- The wait after a click is told to the millisecond. -/
  waitAfter : ∀ target wait, errand = .act (.click target wait) →
    request.toJson.member? "wait_after_ms" =
      some (wait.elim .null fun wait => .whole wait.milliseconds)
  /-- Steps that are written as text are told the exact time under the limit of every run. -/
  written : ∀ line reading, StepReading.ofLine? line = some reading →
    errand = .act reading.action → config.engine.stepTimeoutSeconds ≤ 3600 →
      errand.Exact config request

namespace Talk

/-- Asks for something. -/
def serve (talk : Talk) : Errand → Talk
  | .act action => (talk.execute action).2
  | .picture => talk.screenshot.2
  | .leave => talk.close

/-- Asks for one thing after the other. -/
def serveAll (talk : Talk) (errands : List Errand) : Talk :=
  errands.foldl serve talk

end Talk

/-- The bridge is told of all that is asked for, up to where it ends. -/
def Hears (config : Config) (talk : Talk) (errands : List Errand) : Prop :=
  ∃ heard unheard, errands = heard ++ unheard ∧
    List.Forall₂ (Told config) heard (talk.serveAll errands).far.received ∧
    (unheard ≠ [] → (talk.serveAll heard).far.running = false)

section Errands

variable {config : Config} {errand : Errand} {request : Bridge.Request} {talk : Talk}

theorem Errand.IsRead.fits (read : errand.IsRead) : Json.FitsNat64 errand.wait.milliseconds := by
  cases errand with
  | act action =>
    rcases read with ⟨line, reading, read, rfl⟩ | ⟨value, read⟩
    · exact StepReading.fits_of_ofLine? read
    · exact (Action.fits_and_cut_of_ofJson? read).1
  | picture | leave => decide

theorem Errand.milliseconds_of_zero (none : errand.wait = .zero) :
    errand.milliseconds config = config.engine.stepTimeoutSeconds * 1000 := by
  rw [milliseconds, none]
  exact Nat.add_zero _

/-- A request for something is told of it. -/
theorem told_of_command (short : config.engine.stepTimeoutSeconds < 2 ^ 63) (read : errand.IsRead)
    (command : request.command = errand.command config.browser.baseUrl)
    (limit : request.timeout =
      errand.timeout (.ofSeconds config.engine.stepTimeoutSeconds)) :
    Told config errand request := by
  have fits := read.fits
  have words : request.timeout.wireMilliseconds = errand.milliseconds config % 2 ^ 64 := by
    rw [limit]
    cases errand with
    | act action => exact Duration.wireMilliseconds_add short fits
    | picture | leave =>
      rw [Errand.timeout, Duration.wireMilliseconds_ofSeconds, Errand.milliseconds_of_zero rfl]
  have timeout : request.toJson.member? "timeout_ms" =
      some (.whole (errand.milliseconds config % 2 ^ 64 : Nat)) := by
    rw [request.member?_timeout, words]
  have exact_iff : errand.Exact config request ↔ errand.milliseconds config < 2 ^ 64 := by
    rw [Errand.Exact, timeout]
    constructor
    · intro same
      have equal : errand.milliseconds config % 2 ^ 64 = errand.milliseconds config :=
        Int.natCast_inj.1 (Json.whole.inj (Option.some.inj same))
      have small := Nat.mod_lt (errand.milliseconds config) (Nat.two_pow_pos 64)
      rwa [equal] at small
    · intro small
      rw [Nat.mod_eq_of_lt small]
  refine ⟨command, timeout, exact_iff, ?_, ?_⟩
  · rintro target wait rfl
    rw [request.member?_waitAfter command]
    cases wait with
    | none => rfl
    | some wait =>
      have exact : wait.wireMilliseconds = wait.milliseconds :=
        Duration.wireMilliseconds_of_fits fits
      rw [Bridge.Command.waitJson, exact]
      rfl
  · rintro line reading written rfl allowed
    have brief : reading.action.requestedWait.nanoseconds ≤ 3600 * 1000000000 :=
      StepReading.requestedWait_le_of_ofLine? written
    refine exact_iff.2 ?_
    simp only [Errand.milliseconds, Errand.wait, Duration.milliseconds]
    omega

/-- The near end of a session is set up as a configuration says. -/
structure SetUp (config : Config) (talk : Talk) : Prop where
  limit : talk.near.actionTimeout = .ofSeconds config.engine.stepTimeoutSeconds
  site : talk.near.baseUrl = config.browser.baseUrl

/-- The request for what is asked for. -/
def Talk.requestFor (talk : Talk) (errand : Errand) : Bridge.Request :=
  ⟨talk.near.nextId, errand.command talk.near.baseUrl, errand.timeout talk.near.actionTimeout⟩

theorem Talk.received_serve (talk : Talk) (errand : Errand) :
    (talk.serve errand).far.received =
      talk.far.received ++ if talk.far.running then [talk.requestFor errand] else [] := by
  cases errand with
  | act action => exact talk.received_ask _ _
  | picture => exact talk.received_ask _ _
  | leave => exact talk.received_ask _ _

theorem SetUp.serve (setUp : SetUp config talk) (errand : Errand) :
    SetUp config (talk.serve errand) := by
  have kept (command : Bridge.Command) (timeout : Duration) :
      SetUp config (talk.ask command timeout).2 := by
    obtain ⟨sameLimit, sameSite⟩ := talk.near_ask command timeout
    exact ⟨sameLimit.trans setUp.limit, sameSite.trans setUp.site⟩
  cases errand with
  | act action => exact kept _ _
  | picture => exact kept _ _
  | leave => exact ⟨(kept _ _).limit, (kept _ _).site⟩

/-- A far end that has ended hears nothing. -/
theorem Talk.far_serve_of_gone (gone : talk.far.running = false) (errand : Errand) :
    (talk.serve errand).far = talk.far := by
  have still (command : Bridge.Command) (timeout : Duration) :
      (talk.ask command timeout).2.far = talk.far := by simp [ask, gone]
  cases errand with
  | act action => exact still _ _
  | picture => exact still _ _
  | leave =>
    show { (talk.ask .close talk.near.actionTimeout).2.far with running := false } = talk.far
    rw [still, ← gone]

theorem Talk.far_serveAll_of_gone (gone : talk.far.running = false) (errands : List Errand) :
    (talk.serveAll errands).far = talk.far := by
  induction errands generalizing talk with
  | nil => rfl
  | cons errand errands inductionHypothesis =>
    have same := talk.far_serve_of_gone gone errand
    rw [serveAll, List.foldl_cons, ← serveAll, inductionHypothesis (same ▸ gone), same]

theorem Talk.received_launch {script : BridgeScript} {settings : BrowserSettings}
    {limit : Duration} (launched : Talk.launch script settings limit = some (.ok talk)) :
    talk.far.received = [] := by
  unfold launch at launched
  split at launched
  · cases launched
  · split at launched
    · cases launched
    · split at launched
      · cases launched
        rfl
      · cases launched

/-- The far end hears of one thing after the other until it ends. -/
theorem SetUp.hears (setUp : SetUp config talk) (short : config.engine.stepTimeoutSeconds < 2 ^ 63)
    {errands : List Errand} (read : ∀ errand ∈ errands, errand.IsRead) :
    ∃ heard unheard requests, errands = heard ++ unheard ∧
      (talk.serveAll errands).far.received = talk.far.received ++ requests ∧
      List.Forall₂ (Told config) heard requests ∧
      (unheard ≠ [] → (talk.serveAll heard).far.running = false) := by
  induction errands generalizing talk with
  | nil => exact ⟨[], [], [], rfl, (List.append_nil _).symm, .nil, nofun⟩
  | cons errand errands inductionHypothesis =>
    cases running : talk.far.running with
    | false =>
      -- Nothing is heard any more, so all that is left is unheard.
      refine ⟨[], errand :: errands, [], rfl, ?_, .nil, fun _ => running⟩
      rw [talk.far_serveAll_of_gone running, List.append_nil]
    | true =>
      obtain ⟨first, others⟩ := List.forall_mem_cons.1 read
      obtain ⟨heard, unheard, requests, rfl, received, told, ends⟩ :=
        inductionHypothesis (setUp.serve errand) others
      have request : Told config errand (talk.requestFor errand) :=
        told_of_command short first (congrArg errand.command setUp.site)
          (congrArg errand.timeout setUp.limit)
      refine ⟨errand :: heard, unheard, talk.requestFor errand :: requests, rfl, ?_,
        .cons request told, ends⟩
      rw [Talk.serveAll, List.foldl_cons, ← Talk.serveAll, received, talk.received_serve, running,
        if_pos rfl, List.append_assoc, List.singleton_append]

/--
The bridge is told the time for each command of a session as a 64 bit word of milliseconds.
It is the exact time for those and only those commands whose time such a word can hold.
-/
theorem hears_of_loadFrom {surroundings : Surroundings} {disk : Disk} {path : String}
    {script : BridgeScript} {errands : List Errand}
    (loaded : Config.loadFrom surroundings disk path = .ok config)
    (launched : Talk.launch script config.browser
      (.ofSeconds config.engine.stepTimeoutSeconds) = some (.ok talk))
    (read : ∀ errand ∈ errands, errand.IsRead) : Hears config talk errands := by
  have short := Config.stepTimeout_lt_of_loadFrom loaded
  obtain ⟨limit, site⟩ := Talk.near_launch _ launched
  have setUp : SetUp config talk := ⟨limit, site⟩
  obtain ⟨heard, unheard, requests, split, received, told, ends⟩ := setUp.hears short read
  rw [Talk.received_launch launched, List.nil_append] at received
  exact ⟨heard, unheard, split, received ▸ told, ends⟩

end Errands

section Sample

/-- A session without a configuration file, whose far end replies that all went well. -/
def sampleTalk : Talk where
  near :=
    { baseUrl := (Config.usual ⟨none, none⟩).browser.baseUrl
      actionTimeout := .ofSeconds 5 }
  far := { reactions := [] }

/-- A click with the longest wait, a picture and the end of the session. -/
def sampleErrands : List Errand := [.act Step.sampleClick, .picture, .leave]

theorem loadFrom_empty :
    Config.loadFrom ⟨none, none⟩ {} "config.toml" = .ok (Config.usual ⟨none, none⟩) := by
  have pieces : Path.pieces "config.toml" = ["config.toml"] := by decide +kernel
  have short : ¬Disk.pathLimit ≤ "config.toml".utf8ByteSize := by decide
  have plain : ¬Disk.nameLimit < "config.toml".utf8ByteSize := by decide
  have absent : ({} : Disk).isThere "config.toml" = false := by
    simp [Disk.isThere, Disk.resolve, pieces, short, Disk.walk, plain, Disk.isDirectory,
      Disk.node?]
  rw [Config.loadFrom, absent]
  rfl

theorem launch_sampleTalk : Talk.launch {} (Config.usual ⟨none, none⟩).browser
    (.ofSeconds (Config.usual ⟨none, none⟩).engine.stepTimeoutSeconds) =
      some (.ok sampleTalk) := by
  decide +kernel

theorem isRead_sampleErrands : ∀ errand ∈ sampleErrands, errand.IsRead := by
  have read : Action.ofJson? Step.sampleClick.toJson = some Step.sampleClick := by decide +kernel
  simpa [sampleErrands, Errand.IsRead] using Or.inr ⟨_, read⟩

theorem hears_sampleErrands :
    Config.loadFrom ⟨none, none⟩ {} "config.toml" = .ok (Config.usual ⟨none, none⟩) ∧
      Talk.launch {} (Config.usual ⟨none, none⟩).browser
        (.ofSeconds (Config.usual ⟨none, none⟩).engine.stepTimeoutSeconds) =
          some (.ok sampleTalk) ∧
      (∀ errand ∈ sampleErrands, errand.IsRead) ∧
      Hears (Config.usual ⟨none, none⟩) sampleTalk sampleErrands :=
  ⟨loadFrom_empty, launch_sampleTalk, isRead_sampleErrands,
    hears_of_loadFrom loadFrom_empty launch_sampleTalk isRead_sampleErrands⟩

/-- The bridge is told five seconds less a millisecond for the click with the longest wait. -/
theorem not_exact_sampleErrands : ¬List.Forall₂ (Errand.Exact (Config.usual ⟨none, none⟩))
    sampleErrands (sampleTalk.serveAll sampleErrands).far.received := by
  intro exact
  have told : (sampleTalk.serveAll sampleErrands).far.received.map
      (fun request => request.timeout.wireMilliseconds) = [4999, 5000, 5000] := by
    decide +kernel
  obtain ⟨request, rest, received, word, -⟩ := List.map_eq_cons_iff.1 told
  rw [received, sampleErrands, List.forall₂_cons, Errand.Exact, request.member?_timeout, word]
    at exact
  have same := Json.whole.inj (Option.some.inj exact.1)
  exact absurd same (by decide)

end Sample

end Rehearsal

end StepRunner
