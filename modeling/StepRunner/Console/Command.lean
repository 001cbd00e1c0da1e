import StepRunner.Catalog.Browser
import StepRunner.Console.Arguments
import StepRunner.Console.Item
import StepRunner.Settings.Config

/-!
This file names the commands of the program and reads them from the words of a command line.
-/

namespace StepRunner.Console

/-- What a person asks the program to do. -/
inductive Command where
  | parse (steps : List String) (file : Option String)
  | addProject (name : String)
  | listProjects
  | deleteProject (id : String)
  | addTest (projectId title : String) (steps : List String) (file : Option String)
  | listTests (projectId : String)
  | showTest (id : String)
  | editTest (id : String) (steps : List String) (file : Option String)
  | deleteTest (id : String)
  | run (testCaseId : String) (browser : Browser) (continueOnFailure : Bool)
      (stepTimeoutSeconds : Option Nat)
  | history (testCaseId : String)
  | results (runId : String)
  | report (runId : String)
  | browserStatus
  | installBrowser (browser : Browser)
  | version
  deriving DecidableEq, Repr

/-- A command with the settings that go with every command. -/
structure Invocation where
  config : Option String
  store : Option String
  baseUrl : Option String
  format : Format
  command : Command
  deriving DecidableEq, Repr

/-- Reads a number of 64 bits, which may have a plus sign. -/
def natural64? (text : String) : Option Nat :=
  let digits := match text.toList with
    | '+' :: digits => digits
    | digits => digits
  if digits.isEmpty || !digits.all Char.isDigit then none
  else
    let value := Text.decimalValue digits
    if value < Nat.pow 2 64 then some value else none

/-- A switch that takes no value. -/
def switch (name : String) (letter : Option Char) : Flag :=
  ⟨name, letter, false, false, fun _ => true⟩

/-- A flag with a value that has to pass a test. -/
def setting (name : String) (letter : Option Char) (accepts : String → Bool) : Flag :=
  ⟨name, letter, true, false, accepts⟩

/-- Any text will do. -/
def anyText (_ : String) : Bool := true

/-- The text of a path is not empty. -/
def anyPath (text : String) : Bool := !text.isEmpty

/-- The text names a browser engine. -/
def anyBrowser (text : String) : Bool := (Browser.ofRequest? text).isSome

/-- The flags that every command has. -/
def commonFlags : List Flag :=
  [setting "config" (some 'c') anyPath, setting "store" none anyPath,
    setting "base-url" none anyText,
    setting "format" none fun text => (Format.ofName? text).isSome,
    switch "verbose" (some 'v')]

/-- A group of commands. -/
def group (children : List String) : Form :=
  { flags := commonFlags, children := children ++ ["help"] }

/-- A command with the given words and flags of its own. -/
def single (words : List (String → Bool)) (flags : List Flag) (required : List String) : Form :=
  { flags := commonFlags ++ flags, words, required }

/-- The flags that name the lines of a script. -/
def scriptFlags : List Flag :=
  [{ setting "step" (some 's') anyText with repeats := true },
    setting "file" (some 'f') anyPath]

/-- The commands of the group with a path. -/
def childrenOf : List String → List String
  | [] => ["parse", "project", "test", "run", "history", "results", "report", "browsers",
      "version"]
  | ["project"] => ["add", "list", "delete"]
  | ["test"] => ["add", "list", "show", "edit", "delete"]
  | ["browsers"] => ["status", "install"]
  | _ => []

/-- The lines that list the commands. -/
def usageLines : List String :=
  ["Usage: qaflow <command>", "", "Commands:"] ++
    (childrenOf []).map fun name => "  " ++ name

/-- What may follow the command with a path. -/
def formOf : List String → Option Form
  | [] => some (group (childrenOf []))
  | ["parse"] =>
    some { single [] [setting "file" (some 'f') anyPath] [] with manyWords := true }
  | ["project"] => some (group (childrenOf ["project"]))
  | ["project", "add"] => some (single [anyText] [] [])
  | ["project", "list"] => some (single [] [] [])
  | ["project", "delete"] => some (single [anyText] [] [])
  | ["test"] => some (group (childrenOf ["test"]))
  | ["test", "add"] =>
    some (single []
      ([setting "project" (some 'p') anyText, setting "title" (some 't') anyText] ++ scriptFlags)
      ["project", "title"])
  | ["test", "list"] => some (single [anyText] [] [])
  | ["test", "show"] => some (single [anyText] [] [])
  | ["test", "edit"] => some (single [anyText] scriptFlags [])
  | ["test", "delete"] => some (single [anyText] [] [])
  | ["run"] =>
    some (single [anyText]
      [setting "browser" (some 'b') anyBrowser, switch "continue-on-failure" none,
        setting "step-timeout" none fun text => (natural64? text).isSome] [])
  | ["history"] => some (single [anyText] [] [])
  | ["results"] => some (single [anyText] [] [])
  | ["report"] => some (single [anyText] [] [])
  | ["browsers"] => some (group (childrenOf ["browsers"]))
  | ["browsers", "status"] => some (single [] [] [])
  | ["browsers", "install"] => some (single [anyBrowser] [] [])
  | ["version"] => some (single [] [] [])
  | path =>
    if path.contains "help" then some { flags := [], manyWords := true } else none

namespace Command

/-- The command that a complete command line asks for. -/
def ofLine? (line : CommandLine) : Option Command :=
  match line.path, line.words with
  | ["parse"], steps => some (parse steps (line.value? "file"))
  | ["project", "add"], [name] => some (addProject name)
  | ["project", "list"], [] => some listProjects
  | ["project", "delete"], [id] => some (deleteProject id)
  | ["test", "add"], [] => do
    let projectId ← line.value? "project"
    let title ← line.value? "title"
    return addTest projectId title (line.all "step") (line.value? "file")
  | ["test", "list"], [projectId] => some (listTests projectId)
  | ["test", "show"], [id] => some (showTest id)
  | ["test", "edit"], [id] => some (editTest id (line.all "step") (line.value? "file"))
  | ["test", "delete"], [id] => some (deleteTest id)
  | ["run"], [id] => do
    let browser ← Browser.ofRequest? ((line.value? "browser").getD Browser.chromium.name)
    return run id browser (line.has "continue-on-failure")
      ((line.value? "step-timeout").bind natural64?)
  | ["history"], [id] => some (history id)
  | ["results"], [id] => some (results id)
  | ["report"], [id] => some (report id)
  | ["browsers", "status"], [] => some browserStatus
  | ["browsers", "install"], [word] => (Browser.ofRequest? word).map installBrowser
  | ["version"], [] => some version
  | _, _ => none

/-- The file with the lines of a script that a command reads. -/
def scriptFile? : Command → Option String
  | parse _ file | addTest _ _ _ file | editTest _ _ file => file
  | _ => none

end Command

/-- The names after the one that asks for help are names of commands. -/
def asksForHelp (path words : List String) : Except Halt Unit :=
  match words with
  | [] => .error .help
  | name :: rest =>
    if (childrenOf path).contains name || (!(childrenOf path).isEmpty && name = "help") then
      asksForHelp (path ++ [name]) rest
    else .error .misuse

/-- Reads a command line; a variable may name the configuration file. -/
def Invocation.read (configVariable : Option String) (words : List String) :
    Except Halt Invocation := do
  let line ← CommandLine.read formOf words
  if line.path.contains "help" then asksForHelp line.path.dropLast line.words
  match Command.ofLine? line with
  | none => throw .misuse
  | some command =>
    let config := line.value? "config" <|> configVariable
    if config = some "" then throw .misuse
    return {
      config
      store := line.value? "store"
      baseUrl := line.value? "base-url"
      format := ((line.value? "format").bind Format.ofName?).getD .table
      command }

/-- The settings of a configuration with those of the command line in their place. -/
def Invocation.apply (invocation : Invocation) (config : Config) : Config :=
  { config with
    storePath := invocation.store.getD config.storePath
    browser :=
      { config.browser with baseUrl := invocation.baseUrl.getD config.browser.baseUrl } }

end StepRunner.Console
