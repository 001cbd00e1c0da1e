import StepRunner.Bridge.Command
import StepRunner.Bridge.Reply
import StepRunner.Bytes.Base64
import StepRunner.Settings.Config

/-!
This file numbers the commands of a session and finds the reply to each of them.
A reply to another command, which was given up before, is passed over.
-/

namespace StepRunner.Bridge

/-- The near end of a session. -/
structure Session where
  baseUrl : String
  actionTimeout : Duration
  /-- The number of the next command. -/
  nextId : Nat := 1
  /-- The lines of the bridge that were not read yet. -/
  unread : List String := []
  deriving DecidableEq, Repr

/-- Reads lines up to the first message. -/
def readMessage? : List String → Option Json × List String
  | [] => (none, [])
  | line :: rest =>
    match message? line with
    | some message => (some message, rest)
    | none => readMessage? rest

/-- Reads lines up to the reply to a command. -/
def readReply? (id : Nat) : List String → Option (Except String (Option Json)) × List String
  | [] => (none, [])
  | line :: rest =>
    match Reply.ofLine? line with
    | some reply => if reply.id = id then (some reply.outcome, rest) else readReply? id rest
    | none => readReply? id rest

namespace Session

/-- Numbers a command. -/
def issue (session : Session) (command : Command) (timeout : Duration) : Request × Session :=
  (⟨session.nextId, command, timeout⟩, { session with nextId := session.nextId + 1 })

/-- Takes in what the bridge has written. -/
def receive (session : Session) (lines : List String) : Session :=
  { session with unread := session.unread ++ lines }

/-- The outcome of a command, once the bridge has replied. -/
def reply? (session : Session) (id : Nat) :
    Option (Except String (Option Json)) × Session :=
  let (outcome, unread) := readReply? id session.unread
  (outcome, { session with unread })

/-- The time that the bridge has for an action. -/
def budget (session : Session) (action : Action) : Duration :=
  session.actionTimeout.add action.requestedWait

end Session

/-- The picture in the data of a reply. -/
def picture (data : Option Json) : Except String (List UInt8) :=
  match data with
  | some (.str text) =>
    match Base64.fault? (Utf8.encode text), Base64.bytes? text with
    | some fault, _ => .error fault.message
    | none, some bytes => .ok bytes
    | none, none => .error Base64.Fault.padding.message
  | _ => .error "bridge returned no image"

/-- The variables in the environment of the bridge. -/
def environment (settings : BrowserSettings) (browser : Browser) : List (String × String) :=
  [("QAFLOW_BROWSER", browser.name), ("QAFLOW_HEADLESS", if settings.headless then "1" else "0"),
    ("QAFLOW_VIEWPORT_WIDTH", toString settings.viewportWidth),
    ("QAFLOW_VIEWPORT_HEIGHT", toString settings.viewportHeight)] ++
  match settings.browsersPath with
  | some path => [("PLAYWRIGHT_BROWSERS_PATH", path)]
  | none => []

end StepRunner.Bridge
