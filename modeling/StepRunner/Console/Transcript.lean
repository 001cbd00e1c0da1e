import StepRunner.Error

/-!
This file records what a command prints and how it ends.
-/

namespace StepRunner

/-- The message of an artifact error, followed by the messages of its causes. -/
def ArtifactError.causes (error : ArtifactError) : List String :=
  match error with
  | io cause => [error.message, cause.message]
  | image => [error.message]
  | outsideRoot _ => [error.message]
  | notFound _ => [error.message]
  | invalidKey _ => [error.message]

/-- The message of an engine error, followed by the messages of its causes. -/
def EngineError.causes (error : EngineError) : List String :=
  match error with
  | artifact cause => error.message :: cause.causes
  | io cause => [error.message, cause.message]
  | _ => [error.message]

namespace Console

/-- What a command prints, and whether it succeeds or why it breaks off. -/
structure Transcript where
  /-- The lines for the standard output. -/
  out : List String := []
  /-- The lines for the error output. -/
  err : List String := []
  /-- Success or not, or the messages of an error and its causes. -/
  ending : Except (List String) Bool := .ok true

/-- Every line with its line feed. -/
def joinLines (lines : List String) : String :=
  String.join (lines.map fun line => line ++ "\n")

namespace Transcript

/-- A command that succeeds and prints some lines. -/
def printed (lines : List String) : Transcript := { out := lines }

/-- A command that breaks off. -/
def broken (causes : List String) : Transcript := { ending := .error causes }

/-- A command that breaks off because of an engine error. -/
def refused (error : EngineError) : Transcript := broken error.causes

/-- Prints some lines first. -/
def after (transcript : Transcript) (lines : List String) : Transcript :=
  { transcript with out := lines ++ transcript.out }

/-- The text on the standard output. -/
def outText (transcript : Transcript) : String := joinLines transcript.out

/-- The error and its causes in several lines, for a program that ends with it. -/
def reportLines : List String → List String
  | [] => []
  | [message] => ["Error: " ++ message]
  | [message, cause] => ["Error: " ++ message, "", "Caused by:", "    " ++ cause]
  | message :: causes =>
    ["Error: " ++ message, "", "Caused by:"] ++
      causes.zipIdx.map fun (cause, index) => "    " ++ toString index ++ ": " ++ cause

/-- The text on the error output. -/
def errText (transcript : Transcript) : String := joinLines transcript.err

/-- The text on the error output of a program that ends with the command. -/
def finalErrText (transcript : Transcript) : String :=
  match transcript.ending with
  | .ok _ => transcript.errText
  | .error causes => transcript.errText ++ joinLines (reportLines causes)

/-- The error and its causes in one line. -/
def message? (transcript : Transcript) : Option String :=
  match transcript.ending with
  | .ok _ => none
  | .error causes => some (": ".intercalate causes)

/-- The exit code of a program that ends with the command. -/
def exitCode (transcript : Transcript) : Nat :=
  match transcript.ending with
  | .ok true => 0
  | .ok false => 1
  | .error _ => 1

end Transcript

/-- A text between single quotes. -/
def quoted (text : String) : String := "\x27" ++ text ++ "\x27"

/-- A line about a success. -/
def successLine (text : String) : String := "✅ " ++ text

/-- A line about a failure. -/
def errorLine (text : String) : String := "❌ " ++ text

/-- A line that warns. -/
def warningLine (text : String) : String := "⚠️  " ++ text

/-- A line that informs. -/
def infoLine (text : String) : String := "ℹ️  " ++ text

end Console

end StepRunner
