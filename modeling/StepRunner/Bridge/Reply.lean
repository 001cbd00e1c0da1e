import StepRunner.Json.Record

/-!
This file reads the lines that the bridge writes.
-/

namespace StepRunner.Bridge

/-- The answer of the bridge to a command. -/
structure Reply where
  /-- The number of the command. -/
  id : Nat
  ok : Bool
  data : Option Json
  error : Option String
  deriving Repr

/-- A value of which nothing is read, unless it is null. -/
def anything? (value : Json) : Option Json := some value

/-- The message of a line; a member that comes twice counts the last time. -/
def message? (line : String) : Option Json :=
  match Json.read? line with
  | some (.obj members) => some (.obj (Json.lastOfEach members))
  | message => message

namespace Reply

/-- Reads a message as a reply. -/
def ofMessage? (message : Json) : Option Reply := do
  let fields ← Json.Fields.of? ["id", "ok", "data", "error"] message
  let id ← fields.required? "id" Json.nat64?
  let ok ← fields.required? "ok" Json.bool?
  let data ← fields.defaulted? "data" (Json.nullable? anything?) none
  let error ← fields.defaulted? "error" (Json.nullable? Json.string?) none
  return { id, ok, data, error }

/-- Reads a line as a reply. -/
def ofLine? (line : String) : Option Reply :=
  (message? line).bind ofMessage?

/-- The outcome that a reply reports, where a failure may come without a reason. -/
def outcome (reply : Reply) : Except String (Option Json) :=
  if reply.ok then .ok reply.data else .error (reply.error.getD "action failed")

end Reply

/-- What the first message of the bridge says about the launch. -/
def launchOutcome (message : Json) : Except String Unit :=
  match message.member? "ready" with
  | some (.bool true) => .ok ()
  | _ =>
    match message.member? "error" with
    | some (.str reason) => .error reason
    | _ => .error "bridge refused to start"

end StepRunner.Bridge
