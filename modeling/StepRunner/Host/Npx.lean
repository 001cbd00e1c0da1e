import StepRunner.Catalog.Browser
import StepRunner.Error
import StepRunner.Text.Utf8

/-!
This file describes the command that installs a browser engine and reads how it ended.
-/

namespace StepRunner.Npx

/-- How the command ended. -/
inductive Ending where
  | exited (code : Nat)
  | killed (signal : Nat)
  | missing
  deriving DecidableEq, Repr

/-- The names of the signals, from one upwards. -/
def signalNames : List String :=
  ["SIGHUP", "SIGINT", "SIGQUIT", "SIGILL", "SIGTRAP", "SIGABRT", "SIGBUS", "SIGFPE", "SIGKILL",
    "SIGUSR1", "SIGSEGV", "SIGUSR2", "SIGPIPE", "SIGALRM", "SIGTERM", "SIGSTKFLT", "SIGCHLD",
    "SIGCONT", "SIGSTOP", "SIGTSTP", "SIGTTIN", "SIGTTOU", "SIGURG", "SIGXCPU", "SIGXFSZ",
    "SIGVTALRM", "SIGPROF", "SIGWINCH", "SIGIO", "SIGPWR", "SIGSYS"]

/-- The name of a signal in brackets, when it has one. -/
def signalSuffix (signal : Nat) : String :=
  match signal with
  | 0 => ""
  | number + 1 =>
    match signalNames[number]? with
    | some name => " (" ++ name ++ ")"
    | none => ""

/-- The arguments of the command. -/
def arguments (browser : Browser) : List String :=
  ["playwright", "install", browser.name]

/-- The last line of an output that is not blank, without blanks on either side. -/
def lastWord (errors : List UInt8) : String :=
  let lines := Text.lines (Utf8.decodeLossy errors).toList
  match lines.reverse.find? fun line => !(Text.trim line).isEmpty with
  | some line => String.ofList (Text.trim line)
  | none => "no output"

/-- The message of an install that did not succeed. -/
def refusal (browser : Browser) (status : String) (errors : List UInt8) : String :=
  "playwright install " ++ browser.name ++ " exited with " ++ status ++ ": " ++ lastWord errors

/-- The outcome of an install from the end of the command and its error output. -/
def outcome (browser : Browser) (ending : Ending) (errors : List UInt8) : Except String Unit :=
  match ending with
  | .exited 0 => .ok ()
  | .exited code => .error (refusal browser ("exit status: " ++ toString code) errors)
  | .killed signal =>
    .error (refusal browser ("signal: " ++ toString signal ++ signalSuffix signal) errors)
  | .missing => .error ("Failed to run npx: " ++ IoError.notFound.message)

end StepRunner.Npx
