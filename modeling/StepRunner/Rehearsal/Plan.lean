import StepRunner.Install
import StepRunner.Rehearsal.Bridge
import StepRunner.Step.Action

/-!
This file says how the browser and the installer behave in a rehearsal.
A behaviour may hold lines of a play, which are acted out before its deed.
-/

namespace StepRunner.Rehearsal

/-- What a scripted call does in the end. -/
inductive Deed where
  | succeed
  | fail (error : SessionError)
  /-- Never ends. -/
  | hang
  | panic
  /-- Gives a picture of its own. -/
  | picture (content : List UInt8)
  deriving DecidableEq, Repr, Inhabited

/-- How a scripted call behaves. -/
structure Behaviour (Line : Type) where
  /-- The lines of the play that come first. -/
  lines : List Line := []
  /-- The milliseconds after the lines. -/
  delay : Nat := 0
  deed : Deed := .succeed
  deriving Inhabited

/-- How an action behaves, and the screenshot after it. -/
structure ActionPlan (Line : Type) where
  act : Behaviour Line := {}
  shot : Behaviour Line := {}
  deriving Inhabited

/-- How the browser behaves; an action without a plan succeeds at once. -/
structure Plan (Line : Type) where
  actions : List (String × ActionPlan Line) := []
  launch : Behaviour Line := {}
  close : Behaviour Line := {}
  deriving Inhabited

/-- The text that stands for an action in a plan. -/
def actionKey : Action → String
  | .goto path => path
  | .enter target _ => target
  | .click target _ => target
  | .expect assertion _ => assertion

/-- The plan for an action. -/
def Plan.action {Line : Type} (plan : Plan Line) (action : Action) : ActionPlan Line :=
  ((plan.actions.find? fun entry => entry.1 = actionKey action).map Prod.snd).getD {}

/-- How the host behaves when it is asked for browser engines. -/
structure Host (Line : Type) where
  installed : PerBrowser Bool := .all true
  /-- How each install of an engine behaves, in the order of the installs. -/
  installs : PerBrowser (List (Behaviour Line)) := .all []
  /-- A host with a ghost does not find what was installed. -/
  ghost : Bool := false
  /-- How often the host was asked for an engine. -/
  probes : Nat := 0
  /-- The engines whose install was begun. -/
  begun : List Browser := []
  deriving Inhabited

namespace Host

variable {Line : Type}

/-- Asks for an engine. -/
def probe (host : Host Line) (browser : Browser) : Bool × Host Line :=
  (host.installed.get browser, { host with probes := host.probes + 1 })

/-- Begins an install. -/
def begin (host : Host Line) (browser : Browser) : Behaviour Line × Host Line :=
  let planned := host.installs.get browser
  (planned.headD {},
    { host with
      installs := host.installs.set browser planned.tail
      begun := host.begun ++ [browser] })

/-- An engine was installed. -/
def install (host : Host Line) (browser : Browser) : Host Line :=
  if host.ghost then host else { host with installed := host.installed.set browser true }

end Host

/-- What the browser was asked to do. -/
inductive Executed where
  | launched (browser : Browser)
  | action (action : Action)
  deriving DecidableEq, Repr

end StepRunner.Rehearsal
