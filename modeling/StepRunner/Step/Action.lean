import StepRunner.Time.Duration
import StepRunner.Text.Blank

/-!
This file defines the browser actions that a step stands for.
-/

namespace StepRunner

/-- One browser action. -/
inductive Action where
  /-- Types a value into a form field. -/
  | enter (target value : String)
  /-- Clicks an element by its visible text and then waits. -/
  | click (target : String) (waitAfter : Option Duration)
  /-- Opens a path of the site under test. -/
  | goto (path : String)
  /-- Checks the page, for at most the given time. -/
  | expect (assertion : String) (within : Option Duration)
  deriving DecidableEq, Repr

namespace Action

/-- The time that an action itself asks for. -/
def requestedWait : Action → Duration
  | enter _ _ => .zero
  | click _ waitAfter => waitAfter.getD .zero
  | goto _ => .zero
  | expect _ within => within.getD .zero

/-- A short label of an action for people. -/
def label : Action → String
  | enter target value => "enter \"" ++ value ++ "\" into " ++ target
  | click target none => "click " ++ target
  | click target (some wait) => "click " ++ target ++ " (wait " ++ wait.secondsText ++ "s)"
  | goto path => "go to " ++ path
  | expect assertion none => "expect " ++ assertion
  | expect assertion (some within) =>
    "expect " ++ assertion ++ " (within " ++ within.secondsText ++ "s)"

end Action

end StepRunner
