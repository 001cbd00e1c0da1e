import StepRunner.Text.Blank

/-!
This file names the browser engines that can run a test case.
-/

namespace StepRunner

/-- A browser engine. -/
inductive Browser where
  | chromium
  | firefox
  | webkit
  deriving DecidableEq, Repr, Inhabited

namespace Browser

/-- Every engine, in the order of reports. -/
def all : List Browser := [chromium, firefox, webkit]

/-- The name of an engine. -/
def name : Browser → String
  | chromium => "chromium"
  | firefox => "firefox"
  | webkit => "webkit"

/-- The engine with exactly the given name. -/
def ofName? (text : String) : Option Browser :=
  all.find? fun browser => browser.name = text

/-- Small letters for the ASCII capitals of a text. -/
def lowerAscii (text : String) : String :=
  String.ofList (text.toList.map Char.toLower)

/-- The words that a request may use for an engine, once blanks and case are dropped. -/
def normalised (text : String) : String :=
  lowerAscii (Text.trimmed text)

/-- The engine that a person means; two product names stand for their engines. -/
def ofRequest? (text : String) : Option Browser :=
  let word := normalised text
  if word = "chrome" then some chromium
  else if word = "safari" then some webkit
  else ofName? word

theorem ofName?_name (browser : Browser) : ofName? browser.name = some browser := by
  cases browser <;> decide

end Browser

end StepRunner
