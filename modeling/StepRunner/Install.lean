import StepRunner.Catalog.Event

/-!
This file tracks which browser engines are installed and shares each install among its callers.
A caller looks at the state, probes the host when it has to, and joins the one attempt under way
or opens a new one.
-/

namespace StepRunner

/-- A value for each browser engine. -/
structure PerBrowser (α : Type) where
  chromium : α
  firefox : α
  webkit : α
  deriving DecidableEq, Repr

namespace PerBrowser

/-- The same value for each engine. -/
def all {α : Type} (value : α) : PerBrowser α := ⟨value, value, value⟩

/-- A value of its own for each engine. -/
def ofFn {α : Type} (value : Browser → α) : PerBrowser α :=
  ⟨value .chromium, value .firefox, value .webkit⟩

/-- The value of an engine. -/
def get {α : Type} (values : PerBrowser α) : Browser → α
  | .chromium => values.chromium
  | .firefox => values.firefox
  | .webkit => values.webkit

/-- Replaces the value of an engine. -/
def set {α : Type} (values : PerBrowser α) (browser : Browser) (value : α) : PerBrowser α :=
  match browser with
  | .chromium => { values with chromium := value }
  | .firefox => { values with firefox := value }
  | .webkit => { values with webkit := value }

@[simp] theorem get_set {α : Type} (values : PerBrowser α) (browser other : Browser) (value : α) :
    (values.set browser value).get other = if other = browser then value else values.get other := by
  cases browser <;> cases other <;> simp [set, get]

@[simp] theorem get_all {α : Type} (value : α) (browser : Browser) :
    (all value).get browser = value := by
  cases browser <;> rfl

@[simp] theorem get_ofFn {α : Type} (value : Browser → α) (browser : Browser) :
    (ofFn value).get browser = value browser := by
  cases browser <;> rfl

end PerBrowser

/-- How far an attempt to install an engine has come. -/
inductive AttemptStage where
  | opened
  | installing
  | ended (result : Except String Unit)
  | panicked

/-- An attempt to install an engine. -/
structure Attempt where
  browser : Browser
  stage : AttemptStage

/-- What is known about the engines, the attempts under way and all attempts so far. -/
structure Installs where
  states : PerBrowser InstallState := .ofFn InstallState.unknown
  inflight : PerBrowser (Option Nat) := .all none
  attempts : List Attempt := []
  events : List InstallEvent := []

/-- What a caller learns that needs an engine. -/
inductive InstallAnswer where
  /-- The engine is installed. -/
  | ready (state : InstallState)
  /-- The caller waits for an attempt. -/
  | wait (attempt : Nat)
  deriving DecidableEq, Repr

namespace Installs

/-- The state of an engine. -/
def state (installs : Installs) (browser : Browser) : InstallState :=
  installs.states.get browser

/-- The states of all engines. -/
def status (installs : Installs) : List InstallState :=
  Browser.all.map installs.state

/-- Changes the state of an engine. -/
def update (installs : Installs) (browser : Browser)
    (change : InstallState → InstallState) : Installs :=
  { installs with states := installs.states.set browser (change (installs.state browser)) }

/-- Records whether the host has an engine. -/
def record (installs : Installs) (browser : Browser) (found : Bool) : Installs :=
  installs.update browser fun state => { state with installed := found }

/-- Tells observers about an install. -/
def emit (installs : Installs) (event : InstallEvent) : Installs :=
  { installs with events := installs.events ++ [event] }

/-- Joins the attempt under way, or opens one when the engine is still missing. -/
def join (installs : Installs) (browser : Browser) : InstallAnswer × Installs :=
  match installs.inflight.get browser with
  | some attempt => (.wait attempt, installs)
  | none =>
    if (installs.state browser).installed then (.ready (installs.state browser), installs)
    else
      let attempt := installs.attempts.length
      let marked := installs.update browser fun state =>
        { state with inProgress := true, lastError := none }
      (.wait attempt,
        { marked with
          inflight := marked.inflight.set browser (some attempt)
          attempts := marked.attempts ++ [⟨browser, .opened⟩] })

/--
Asks for an engine.
There is no answer while neither an engine nor an install is known; then the caller probes the host.
-/
def ask (installs : Installs) (browser : Browser) : Option InstallAnswer × Installs :=
  let state := installs.state browser
  if state.installed then (some (.ready state), installs)
  else if state.inProgress then
    let (answer, installs) := installs.join browser
    (some answer, installs)
  else (none, installs)

/-- Takes the answer of a caller's probe. -/
def probed (installs : Installs) (browser : Browser) (found : Bool) : InstallAnswer × Installs :=
  if found then
    let installs := installs.record browser true
    (.ready (installs.state browser), installs)
  else installs.join browser

/-- Sets the stage of an attempt. -/
def setStage (installs : Installs) (attempt : Nat) (stage : AttemptStage) : Installs :=
  { installs with
    attempts := installs.attempts.modify attempt fun entry => { entry with stage } }

/-- The engine of an attempt that was opened and has not begun to install. -/
def opened? (installs : Installs) (attempt : Nat) : Option Browser :=
  match installs.attempts[attempt]? with
  | some ⟨browser, .opened⟩ => some browser
  | _ => none

/-- The engine of an attempt that is installing. -/
def installing? (installs : Installs) (attempt : Nat) : Option Browser :=
  match installs.attempts[attempt]? with
  | some ⟨browser, .installing⟩ => some browser
  | _ => none

/-- Begins the install of an opened attempt. -/
def beginAttempt (installs : Installs) (attempt : Nat) : Installs :=
  match installs.opened? attempt with
  | none => installs
  | some browser =>
    ((installs.setStage attempt .installing).emit ⟨browser, .starting, none⟩).emit
      ⟨browser, .installing, none⟩

/-- Ends an attempt with the outcome of the install. -/
def endAttempt (installs : Installs) (attempt : Nat) (result : Except String Unit) : Installs :=
  match installs.installing? attempt with
  | none => installs
  | some browser =>
    let recorded := installs.update browser fun state =>
      match result with
      | .ok _ => { state with installed := true, inProgress := false, lastError := none }
      | .error reason =>
        { state with installed := false, inProgress := false, lastError := some reason }
    let cleared := { recorded with inflight := recorded.inflight.set browser none }
    let event : InstallEvent :=
      match result with
      | .ok _ => ⟨browser, .completed, none⟩
      | .error reason => ⟨browser, .failed, some reason⟩
    (cleared.emit event).setStage attempt (.ended result)

/-- An attempt whose installer panics never records an outcome. -/
def panicAttempt (installs : Installs) (attempt : Nat) : Installs :=
  match installs.installing? attempt with
  | none => installs
  | some _ => installs.setStage attempt .panicked

/-- What the callers of an attempt get when its installer panics. -/
def panicMessage : String := "Install task failed: task panicked"

/-- The outcome of an attempt, once it has one. -/
def outcome? (installs : Installs) (attempt : Nat) : Option (Except String Unit) :=
  match installs.attempts[attempt]? with
  | some ⟨_, .ended result⟩ => some result
  | some ⟨_, .panicked⟩ => some (.error panicMessage)
  | _ => none

/-- A refresh passes over an engine that is being installed. -/
def wantsProbe (installs : Installs) (browser : Browser) : Bool :=
  !(installs.state browser).inProgress

end Installs

end StepRunner
