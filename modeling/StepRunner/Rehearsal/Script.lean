import StepRunner.Json.Record
import StepRunner.Rehearsal.Plan

/-!
This file reads from JSON how the browser, the host and the bridge behave in a rehearsal.
The lines of a behaviour stay as they are until their turn comes.
-/

namespace StepRunner.Rehearsal

/-- The text of a member; a missing one is empty. -/
def textIn (given : Json) (name : String) : String :=
  ((given.member? name).bind Json.string?).getD ""

/-- The number of a member; a missing one is zero. -/
def numberIn (given : Json) (name : String) : Int :=
  match given.member? name with
  | some (.whole value) => value
  | _ => 0

/-- The truth of a member; a missing one is false. -/
def flagIn (given : Json) (name : String) : Bool :=
  ((given.member? name).bind Json.bool?).getD false

/-- The items of a member; a missing one has none. -/
def itemsIn (given : Json) (name : String) : List Json :=
  match given.member? name with
  | some (.arr values) => values
  | _ => []

/-- The texts among the items of a member. -/
def textsIn (given : Json) (name : String) : List String :=
  (itemsIn given name).filterMap Json.string?

/-- The member itself; a missing one is null. -/
def valueIn (given : Json) (name : String) : Json :=
  (given.member? name).getD .null

/-- The bytes that a value gives in base64 or as a text. -/
def bytesIn? (given : Json) : Option (List UInt8) :=
  match given.member? "b64", given.member? "text" with
  | some (.str value), _ => Base64.bytes? value
  | none, some (.str value) => some (Utf8.encode value)
  | _, _ => none

/-- The error of a call that fails; without a kind it is the usual one. -/
def faultOfScript (usual : String → SessionError) (given : Json) : SessionError :=
  let message := textIn given "message"
  match textIn given "error" with
  | "Launch" => .launch message
  | "Action" => .action message
  | "Closed" => .closed
  | "Screenshot" => .screenshot message
  | _ => usual message

/-- Reads a behaviour. -/
def Behaviour.ofScript (usual : String → SessionError) (given : Json) : Behaviour Json :=
  let lines := itemsIn given "ops"
  let delay := (numberIn given "ms").toNat
  match textIn given "do" with
  | "fail" => { lines, delay, deed := .fail (faultOfScript usual given) }
  | "delay" => { lines, delay }
  | "hang" => { lines, deed := .hang }
  | "panic" => { lines, deed := .panic }
  | "bytes" => { lines, deed := .picture ((bytesIn? given).getD []) }
  | _ => { lines }

/-- Reads how an action and the screenshot after it behave. -/
def ActionPlan.ofScript (given : Json) : ActionPlan Json :=
  { act := Behaviour.ofScript .action given
    shot := Behaviour.ofScript .screenshot (valueIn given "shot") }

/-- Reads how every action behaves. -/
def actionsOfScript (given : Json) : List (String × ActionPlan Json) :=
  match given with
  | .obj members => members.map fun (key, value) => (key, ActionPlan.ofScript value)
  | _ => []

/-- A plan with the given behaviours in the place of its own. -/
def Plan.revised (plan : Plan Json) (given : Json) : Plan Json :=
  { actions := ((given.member? "script").map actionsOfScript).getD plan.actions
    launch := ((given.member? "launch").map (Behaviour.ofScript .launch)).getD plan.launch
    close := ((given.member? "close").map (Behaviour.ofScript .action)).getD plan.close }

/-- The engines among some words. -/
def installedAmong (words : List String) : PerBrowser Bool :=
  .ofFn fun browser => words.contains browser.name

/-- Reads how the host behaves. -/
def Host.ofScript (given : Json) : Host Json :=
  let planned := valueIn given "install"
  { installed := match given.member? "installed" with
      | some _ => installedAmong (textsIn given "installed")
      | none => .all true
    installs := .ofFn fun browser =>
      (itemsIn planned browser.name).map (Behaviour.ofScript .action)
    ghost := flagIn given "ghost" }

/-- Reads how the far end of a session reacts to a command. -/
def Reaction.ofScript : Json → Reaction
  | .str _ => .leave
  | .arr texts => .lines (texts.filterMap Json.string?)
  | _ => .usual

/-- Reads how the far end of a session behaves. -/
def BridgeScript.ofScript (given : Json) : BridgeScript :=
  let reactions := (itemsIn given "replies").map Reaction.ofScript
  match given.member? "hello" with
  | none => { reactions }
  | some (.arr lines) => { hello := some (lines.filterMap Json.string?), reactions }
  | some _ => { hello := none, reactions }

end StepRunner.Rehearsal
