import StepRunner.Bridge.Address
import StepRunner.Json.Sorted
import StepRunner.Step.Action
import StepRunner.Step.Assertion

/-!
This file defines the commands to the bridge, the program that drives a browser.
A command is written as one line of JSON.
-/

namespace StepRunner.Bridge

/-- What the bridge is asked to do. -/
inductive Command where
  | goto (url : String)
  | enter (target value : String)
  | click (target : String) (waitAfter : Option Duration)
  | expect (assertion : Assertion)
  | screenshot
  | close
  deriving DecidableEq, Repr

namespace Command

/-- The command for an action on the site with a base address. -/
def ofAction (baseUrl : String) : Action → Command
  | .goto path => goto (Address.resolve baseUrl path)
  | .enter target value => enter target value
  | .click target waitAfter => click target waitAfter
  | .expect assertion _ => expect (Assertion.interpret assertion)

/-- The name of a command. -/
def name : Command → String
  | goto _ => "goto"
  | enter _ _ => "enter"
  | click _ _ => "click"
  | expect _ => "expect"
  | screenshot => "screenshot"
  | close => "close"

/-- A wait in whole milliseconds, or null. -/
def waitJson (wait : Option Duration) : Json :=
  match wait with
  | some wait => .whole wait.wireMilliseconds
  | none => .null

/-- The operands of a command. -/
def operands : Command → List (String × Json)
  | goto url => [("url", .str url)]
  | enter target value => [("target", .str target), ("value", .str value)]
  | click target waitAfter =>
    [("target", .str target), ("wait_after_ms", waitJson waitAfter)]
  | expect assertion => [("kind", .str assertion.kind), ("value", .str assertion.value)]
  | screenshot | close => []

end Command

/-- A command with its number and the time that the bridge has for it. -/
structure Request where
  id : Nat
  command : Command
  timeout : Duration
  deriving DecidableEq, Repr

namespace Request

/-- The JSON form of a request, with its members in the order of their names. -/
def toJson (request : Request) : Json :=
  (Json.obj (("cmd", .str request.command.name) :: request.command.operands ++
    [("id", .whole request.id),
      ("timeout_ms", .whole request.timeout.wireMilliseconds)])).sorted

/-- The line that is written to the bridge. -/
def line (request : Request) : String := request.toJson.text ++ "\n"

end Request

end StepRunner.Bridge
