import StepRunner.Bridge.Session
import StepRunner.Error

/-!
This file rehearses the bridge: a far end that answers each command as a script says.
-/

namespace StepRunner.Rehearsal

/-- What the far end does about a command. -/
inductive Reaction where
  /-- Replies that all went well. -/
  | usual
  /-- Writes lines, where a mark stands for the number of the command. -/
  | lines (lines : List String)
  /-- Ends without a reply. -/
  | leave
  deriving DecidableEq, Repr

/-- The script of a far end. -/
structure BridgeScript where
  /-- The lines at the start, unless the far end leaves at once. -/
  hello : Option (List String) := some ["\x7b\"ready\":true\x7d"]
  reactions : List Reaction := []
  deriving DecidableEq, Repr, Inhabited

/-- The lines of a text; a carriage return before a line feed belongs to the ending. -/
def splitLines (text : String) : List String :=
  let pieces := Text.splitAt '\n' text.toList
  pieces.map fun line => String.ofList (Text.dropReturn line)

/-- Replaces the mark for the number of the command. -/
def fillId (id : List Char) : List Char → List Char
  | '@' :: 'I' :: 'D' :: rest => id ++ fillId id rest
  | char :: rest => char :: fillId id rest
  | [] => []

/-- The picture that the far end takes when nothing else is asked for. -/
def fakePicture : List UInt8 :=
  [0x89, 0x50, 0x4E, 0x47, 0x0D, 0x0A, 0x1A, 0x0A, 0x66, 0x61, 0x6B, 0x65]

/-- The reply that all went well. -/
def usualReply (request : Bridge.Request) : String :=
  let data := match request.command with
    | .screenshot => [("data", Json.str (Base64.text fakePicture))]
    | _ => []
  (Json.obj ([("id", .whole request.id), ("ok", .bool true)] ++ data)).text

/-- The far end of a session. -/
structure FarEnd where
  reactions : List Reaction
  running : Bool := true
  received : List Bridge.Request := []
  deriving DecidableEq, Repr

/-- What a far end writes about a command, unless it leaves. -/
def Reaction.written? (request : Bridge.Request) : Reaction → Option (List String)
  | usual => some [usualReply request]
  | lines texts =>
    let id := Text.decimalDigits request.id
    some (texts.flatMap fun text => splitLines (String.ofList (fillId id text.toList)))
  | leave => none

/-- What the far end writes about a command; it leaves after the command to close. -/
def FarEnd.react (far : FarEnd) (request : Bridge.Request) : List String × FarEnd :=
  let written := (far.reactions.headD .usual).written? request
  (written.getD [],
    { reactions := far.reactions.tail
      running := written.isSome && request.command ≠ Bridge.Command.close
      received := far.received ++ [request] })

/-- A session with both its ends. -/
structure Talk where
  near : Bridge.Session
  far : FarEnd
  deriving DecidableEq, Repr

namespace Talk

/-- Asks the far end for something; without an answer the near end would wait for ever. -/
def ask (talk : Talk) (command : Bridge.Command) (timeout : Duration) :
    Option (Except SessionError (Option Json)) × Talk :=
  let (request, near) := talk.near.issue command timeout
  if !talk.far.running then (some (.error .closed), { talk with near })
  else
    let (written, far) := talk.far.react request
    let (outcome, near) := (near.receive written).reply? request.id
    match outcome with
    | some (.ok data) => (some (.ok data), ⟨near, far⟩)
    | some (.error reason) => (some (.error (.action reason)), ⟨near, far⟩)
    | none => (if far.running then none else some (.error .closed), ⟨near, far⟩)

/-- Asks for an action. -/
def execute (talk : Talk) (action : Action) : Option (Except SessionError Unit) × Talk :=
  let (answer, talk) := talk.ask (.ofAction talk.near.baseUrl action) (talk.near.budget action)
  (answer.map fun outcome => outcome.map fun _ => (), talk)

/-- Asks for a picture of the page. -/
def screenshot (talk : Talk) : Option (Except SessionError (List UInt8)) × Talk :=
  let (answer, talk) := talk.ask .screenshot talk.near.actionTimeout
  let taken := answer.map fun outcome =>
    match outcome with
    | .error error => .error (.screenshot error.message)
    | .ok data => (Bridge.picture data).mapError SessionError.screenshot
  (taken, talk)

/-- Asks the far end to leave; whatever it answers, the session is over. -/
def close (talk : Talk) : Talk :=
  let talk := (talk.ask .close talk.near.actionTimeout).2
  { talk with far := { talk.far with running := false } }

/-- Starts a far end and waits for its first message; without one there is no outcome. -/
def launch (script : BridgeScript) (settings : BrowserSettings) (actionTimeout : Duration) :
    Option (Except SessionError Talk) :=
  match script.hello with
  | none => some (.error (.launch SessionError.closed.message))
  | some lines =>
    match Bridge.readMessage? (lines.flatMap splitLines) with
    | (none, _) => none
    | (some message, unread) =>
      match Bridge.launchOutcome message with
      | .ok _ =>
        some (.ok ⟨{ baseUrl := settings.baseUrl, actionTimeout, unread },
          { reactions := script.reactions }⟩)
      | .error reason => some (.error (.launch reason))

end Talk

/-- A far end that says nothing for a minute has failed to start. -/
def lateLaunch (browser : Browser) : SessionError :=
  .launch (browser.name ++ " did not start within 60s")

/-- A far end cannot be started when its program is missing. -/
def missingProgram (settings : BrowserSettings) : SessionError :=
  .launch (settings.nodeBinary ++ ": " ++ IoError.notFound.message)

end StepRunner.Rehearsal
