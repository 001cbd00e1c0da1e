import StepRunner.Text.Blank

/-!
This file reads the words of a command line.
Flags may come before and after the name of a command, and a flag that stands deeper wins.
-/

namespace StepRunner.Console

/-- A flag of a command. -/
structure Flag where
  name : String
  letter : Option Char
  /-- The flag takes the next word as its value. -/
  valued : Bool
  /-- The flag may be given several times. -/
  repeats : Bool
  accepts : String → Bool

/-- What may follow the name of a command. -/
structure Form where
  flags : List Flag
  /-- The flags that have to be given. -/
  required : List String := []
  /-- The tests of the words that have to be given. -/
  words : List (String → Bool) := []
  /-- Any number of further words may follow. -/
  manyWords : Bool := false
  /-- The names of the commands in a group, one of which has to follow. -/
  children : List String := []

/-- Why a command line asks for no command. -/
inductive Halt where
  | misuse
  | help
  /-- Asks for the version of the program by the names of a command. -/
  | version (path : List String)
  deriving DecidableEq, Repr

/-- How far a command line was read. -/
structure CommandLine where
  path : List String
  form : Form
  /-- The flags before the name of the last command, with their values. -/
  outer : List (String × String) := []
  /-- The flags after the name of the last command, with their values. -/
  inner : List (String × String) := []
  words : List String := []
  /-- A flag that waits for its value. -/
  pending : Option Flag := none
  /-- No word stands for a flag any more. -/
  literal : Bool := false

namespace CommandLine

/-- The values of a flag of the last command. -/
def all (line : CommandLine) (name : String) : List String :=
  (line.inner.filter fun entry => entry.1 = name).map Prod.snd

/-- The value of a flag that stands deepest. -/
def value? (line : CommandLine) (name : String) : Option String :=
  (((line.outer ++ line.inner).filter fun entry => entry.1 = name).map Prod.snd).getLast?

/-- A flag was given to the last command. -/
def has (line : CommandLine) (name : String) : Bool :=
  !(line.all name).isEmpty

/-- Takes the value of a flag. -/
def give (line : CommandLine) (flag : Flag) (value : String) : Except Halt CommandLine :=
  if !flag.repeats && line.has flag.name then .error .misuse
  else if !flag.accepts value then .error .misuse
  else .ok { line with inner := line.inner ++ [(flag.name, value)], pending := none }

/-- Takes a word that stands for itself. -/
def takeWord (line : CommandLine) (word : String) : Except Halt CommandLine :=
  match line.form.words[line.words.length]? with
  | some accepts =>
    if accepts word then .ok { line with words := line.words ++ [word] } else .error .misuse
  | none =>
    if line.form.manyWords then .ok { line with words := line.words ++ [word] }
    else .error .misuse

/-- Takes a flag that is spelled out, with or without a value after an equals sign. -/
def takeLong (line : CommandLine) (text : List Char) : Except Halt CommandLine :=
  let name := String.ofList (text.takeWhile (· != '='))
  let attached := match text.dropWhile (· != '=') with
    | [] => none
    | _ :: value => some (String.ofList value)
  match line.form.flags.find? fun flag => flag.name = name with
  | some flag =>
    match flag.valued, attached with
    | true, some value => line.give flag value
    | true, none => .ok { line with pending := some flag }
    | false, none => line.give flag ""
    | false, some _ => .error .misuse
  | none =>
    if attached.isSome then .error .misuse
    else if name = "help" then .error .help
    else if name = "version" then .error (.version line.path)
    else .error .misuse

/-- Takes flags that are given by their letters; the rest of the word is the value of the last. -/
def takeLetters (line : CommandLine) : List Char → Except Halt CommandLine
  | [] => .ok line
  | letter :: rest =>
    match line.form.flags.find? fun flag => flag.letter = some letter with
    | some flag =>
      if flag.valued then
        match rest with
        | [] => .ok { line with pending := some flag }
        | '=' :: value => line.give flag (String.ofList value)
        | value => line.give flag (String.ofList value)
      else
        match line.give flag "" with
        | .ok line => line.takeLetters rest
        | .error halt => .error halt
    | none =>
      if letter = 'h' then .error .help
      else if letter = 'V' then .error (.version line.path)
      else .error .misuse

/-- Goes on with a command of the present group. -/
def enter (formOf : List String → Option Form) (line : CommandLine) (name : String) :
    Except Halt CommandLine :=
  match formOf (line.path ++ [name]) with
  | none => .error .misuse
  | some form =>
    .ok { path := line.path ++ [name], form := form, outer := line.outer ++ line.inner }

/-- Takes the next word. -/
def take (formOf : List String → Option Form) (line : CommandLine) (word : String) :
    Except Halt CommandLine :=
  if line.literal then line.takeWord word
  else
    match line.pending, word.toList with
    | some _, '-' :: _ :: _ => .error .misuse
    | some flag, _ => line.give flag word
    | none, chars =>
      if line.form.children.contains word then line.enter formOf word
      else
        match chars with
        | ['-', '-'] => .ok { line with literal := true }
        | '-' :: '-' :: text => line.takeLong text
        | '-' :: letter :: letters => line.takeLetters (letter :: letters)
        | _ => line.takeWord word

/-- Takes all words after one another. -/
def takeAll (formOf : List String → Option Form) (line : CommandLine) (words : List String) :
    Except Halt CommandLine :=
  words.foldlM (take formOf) line

/-- A command line is complete when nothing that has to be given is missing. -/
def isComplete (line : CommandLine) : Bool :=
  line.pending.isNone && line.form.children.isEmpty &&
    line.form.words.length ≤ line.words.length && line.form.required.all line.has

/-- Reads a whole command line. -/
def read (formOf : List String → Option Form) (words : List String) :
    Except Halt CommandLine := do
  match formOf [] with
  | none => throw .misuse
  | some form =>
    let line ← takeAll formOf { path := [], form := form } words
    if line.isComplete then return line else throw .misuse

end CommandLine

end StepRunner.Console
