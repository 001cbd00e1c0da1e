import StepRunner.Console.Perform
import StepRunner.Rehearsal.Machine
import StepRunner.Rehearsal.Names
import StepRunner.Service.Arguments
import StepRunner.Service.Endpoint
import StepRunner.Service.Respond
import StepRunner.Settings.File

/-!
This file rehearses a computer on which the program and the service are started one after the
other.
Its disk and its databases outlive each start.
-/

namespace StepRunner.Rehearsal

open StepRunner.Path (Location)

/-- A computer between two starts. -/
structure Computer where
  /-- The directory of the user, from which paths start. -/
  directory : String
  disk : Disk
  now : Int
  /-- The path of the program for bridges. -/
  node : String
  bridge : BridgeScript
  /-- The tables in each database file. -/
  databases : List (Location × Tables) := []
  /-- How many ids were handed out. -/
  minted : Nat := 0
  names : Names := {}

/-- The variables of the environment of a start. -/
abbrev Environment := List (String × String)

/-- A machine that was started, with the location of its database. -/
structure Started where
  machine : Machine
  database : Location

/-- How a program ended. -/
structure Ended where
  code : Nat
  out : String := ""
  err : String := ""
  deriving DecidableEq, Repr

namespace Ended

/-- A command line that cannot be understood. -/
def misuse : Ended :=
  { code := 2, err := Console.joinLines ["error: the command line cannot be understood"] }

/-- A program ends with a command. -/
def ofTranscript (transcript : Console.Transcript) : Ended :=
  { code := transcript.exitCode, out := transcript.outText, err := transcript.finalErrText }

/-- A program ends with an error of the engine. -/
def refused (error : EngineError) : Ended := ofTranscript (.refused error)

/-- A program ends with a message about an error. -/
def broken (message : String) : Ended := ofTranscript (.broken [message])

/-- A program ends before it has begun its work. -/
def ofHalt (release : List String → String) : Console.Halt → Ended
  | .misuse => misuse
  | .help => { code := 0, out := Console.joinLines Console.usageLines }
  | .version path => { code := 0, out := Console.joinLines [release path] }

/-- The leads of the lines that may or may not be printed before a command ends. -/
def unsteadyLeads : List String :=
  (["✓", "✗", "⊘", "…"].map fun mark => "  " ++ mark ++ " ") ++ [Console.infoLine "Installing "]

/-- A line is printed in every case. -/
def isSteady (line : List Char) : Bool :=
  unsteadyLeads.all fun lead => (Text.dropPrefix? lead.toList line).isNone

/-- The lines of a text that are printed in every case. -/
def steadyText (text : String) : String :=
  let lines := (Text.splitAt '\n' text.toList).filter isSteady
  String.ofList (['\n'].intercalate lines)

/-- Replaces what hides behind names in what a program printed. -/
def conceal (cover : Cover) (ended : Ended) : Ended :=
  { ended with
    out := concealElapsed (cover.conceal (steadyText ended.out))
    err := concealElapsed (cover.conceal ended.err) }

end Ended

/-- How the service ended, and what it answered. -/
structure Served where
  /-- The service could be reached. -/
  up : Bool := false
  ended : Ended
  responses : List Service.Response := []

namespace Computer

/-- The path from the root that a path stands for. -/
def place (computer : Computer) (path : String) : String :=
  Path.join computer.directory path

/-- The variables that decide about places. -/
def surroundings (computer : Computer) (environment : Environment) : Surroundings :=
  ⟨environment.lookup "HOME" <|> some computer.directory,
    environment.lookup "PLAYWRIGHT_BROWSERS_PATH"⟩

/-- What hides behind names at present. -/
def cover (computer : Computer) : Cover :=
  .ofTime computer.names computer.directory computer.now

/-- Names the rows of all databases that appeared. -/
def look (computer : Computer) : Computer :=
  { computer with
    names := computer.databases.foldl (fun names (_, tables) => names.see tables)
      computer.names }

/-- The configuration in a file, or the usual one when there is no such file. -/
def config (computer : Computer) (environment : Environment) (path : Option String) :
    Except EngineError Config :=
  let surroundings := computer.surroundings environment
  Config.loadFrom surroundings computer.disk (computer.place (path.getD surroundings.configFile))

/-- The tables of the database at a location; an empty file is a database without rows. -/
def tablesAt (computer : Computer) (path : String) (location : Location) :
    Except DatabaseFault Tables :=
  match computer.databases.lookup location with
  | some tables => .ok tables
  | none =>
    match computer.disk.node? location with
    | some (.file []) => .ok {}
    | some (.file _) => .error .notDatabase
    | _ => .error (.cannotOpen path)

/-- Creates a file unless something stands where its path leads to. -/
def createFile (disk : Disk) (path : String) : Except IoError Disk :=
  if disk.isThere path then .ok disk else disk.write path []

/-- Opens the database of a configuration, which is created when it is missing. -/
def openStore (computer : Computer) (config : Config) :
    Except EngineError (Store × Location × Disk) := do
  let path := config.database
  let refuse (fault : DatabaseFault) := EngineError.storage (.database fault)
  let disk ← (computer.disk.makeDirectories config.storePath).mapError EngineError.storeIo
  let disk ← (createFile disk path).mapError fun _ => refuse (.cannotOpen path)
  let location ← (disk.resolve path).mapError fun _ => refuse (.cannotOpen path)
  let tables ← ({ computer with disk }.tablesAt path location).mapError refuse
  return (⟨tables, computer.minted⟩, location, disk)

/-- The names in the cache of browser engines. -/
def cache (computer : Computer) (environment : Environment) (config : Config) : List String :=
  let path := config.browser.browsersPath.getD (computer.surroundings environment).browsers
  match computer.disk.resolve (computer.place path) with
  | .ok location => computer.disk.namesIn location
  | .error _ => []

/-- The bridge for a configuration, unless its program is missing. -/
def bridgeFor (computer : Computer) (config : Config) : Option BridgeScript :=
  if config.browser.nodeBinary = computer.node then some computer.bridge else none

/-- Starts a machine with a configuration. -/
def start (computer : Computer) (environment : Environment) (config : Config) :
    Except EngineError Started := do
  let config := { config with storePath := computer.place config.storePath }
  let (store, database, disk) ← computer.openStore config
  let machine ← Machine.build config disk store computer.now
    (computer.cache environment config) (computer.bridgeFor config)
  return ⟨{ machine with directory := computer.directory }, database⟩

/-- A machine for work without a store. -/
def idle (computer : Computer) (config : Config) : Machine :=
  { engine :=
      { artifacts := { root := [], disk := computer.disk }, options := .ofSettings config.engine }
    now := computer.now
    settings := config.browser
    actionTimeout := .ofSeconds config.engine.stepTimeoutSeconds
    cache := []
    script := none
    directory := computer.directory }

/-- Keeps the tables of a database. -/
def keep (databases : List (Location × Tables)) (location : Location) (tables : Tables) :
    List (Location × Tables) :=
  if (databases.lookup location).isSome then
    databases.map fun entry => if entry.1 = location then (location, tables) else entry
  else databases ++ [(location, tables)]

/-- Keeps what a machine leaves behind. -/
def stop (computer : Computer) (started : Started) : Computer :=
  let engine := started.machine.engine
  { computer with
    disk := engine.artifacts.disk
    databases := keep computer.databases started.database engine.store.tables
    minted := engine.store.minted }

/-- Carries out a command with a configuration. -/
def perform (computer : Computer) (environment : Environment) (config : Config)
    (format : Console.Format) (command : Console.Command) : Ended × Computer :=
  if command.needsStore then
    match computer.start environment config with
    | .error error => (.refused error, computer)
    | .ok started =>
      let (transcript, machine) := started.machine.carryOut (command.perform config format)
      (.ofTranscript transcript, computer.stop { started with machine })
  else
    (.ofTranscript ((computer.idle config).carryOut (command.perform config format)).1, computer)

/-- Runs the program with the words of a command line. -/
def run (computer : Computer) (environment : Environment) (words : List String) :
    Ended × Computer :=
  match Console.Invocation.read (environment.lookup "QAFLOW_CONFIG") words with
  | .error halt => (.ofHalt Console.releaseLine halt, computer)
  | .ok invocation =>
    match computer.config environment invocation.config with
    | .error error => (.refused error, computer)
    | .ok config =>
      computer.perform environment (invocation.apply config) invocation.format invocation.command

/-- Runs the program with words that may name rows, and gives names in what it prints. -/
def runNamed (computer : Computer) (environment : Environment) (words : List String) :
    Ended × Computer :=
  let reveal := computer.cover.reveal
  let (ended, computer) :=
    computer.run (environment.map fun entry => (entry.1, reveal entry.2)) (words.map reveal)
  let computer := computer.look
  (ended.conceal computer.cover, computer)

/-- Replaces names in a request. -/
def revealRequest (cover : Cover) (request : Service.Request) : Service.Request :=
  { request with target := cover.reveal request.target, body := cover.reveal request.body }

/-- Gives names in a response. -/
def concealResponse (cover : Cover) (response : Service.Response) : Service.Response :=
  match response.content with
  | .json value => { response with content := .json (cover.concealJson value) }
  | _ => response

/-- Answers a request; the runs in progress then go on as far as they can. -/
def answer (computer : Computer) (started : Started) (request : Service.Request) :
    Service.Response × Computer × Started :=
  let (response, machine) :=
    started.machine.carryOut (Service.respond (revealRequest computer.cover request))
  let started := { started with machine := machine.driveAll false }
  let computer := (computer.stop started).look
  (concealResponse computer.cover response, computer, started)

/-- Answers requests one after the other. -/
def answerAll (computer : Computer) (started : Started) :
    List Service.Request → List Service.Response × Computer
  | [] => ([], computer)
  | request :: requests =>
    let (response, computer, started) := computer.answer started request
    let (responses, computer) := computer.answerAll started requests
    (response :: responses, computer)

/-- Fails the runs that were interrupted, and looks for the browser engines. -/
def recover (started : Started) : Started :=
  let recovery : Activity Unit := do
    let _ ← Activity.perform fun now engine => engine.writeAlways (·.recover now)
    let _ ← Engine.refreshInstalls
    return ()
  { started with machine := (started.machine.carryOut recovery).2 }

/-- Starts the service with a configuration. -/
def serveWith (computer : Computer) (environment : Environment) (config : Config)
    (reachable : Bool) (requests : List Service.Request) : Served × Computer :=
  match computer.disk.makeDirectories (computer.place config.storePath) with
  | .error error => ({ ended := .broken error.message }, computer)
  | .ok disk =>
    let computer := { computer with disk }
    match computer.start environment config with
    | .error error => ({ ended := .refused error }, computer)
    | .ok started =>
      let started := recover started
      let computer := computer.stop started
      match Service.Endpoint.ofText? config.server.listen with
      | none => ({ ended := .broken Service.Endpoint.faultMessage }, computer)
      | some _ =>
        if reachable then
          let (responses, computer) := computer.answerAll started requests
          ({ up := true, ended := { code := 0 }, responses }, computer)
        else ({ ended := { code := 0 } }, computer)

/-- The line that names the service and its version. -/
def serviceRelease (_ : List String) : String := "qaflowd 0.1.0"

/-- Runs the service as a command line asks for. -/
def serve (computer : Computer) (environment : Environment) (words : List String)
    (reachable : Bool) (requests : List Service.Request) : Served × Computer :=
  match Service.Invocation.read (environment.lookup "QAFLOW_CONFIG") words with
  | .error halt => ({ ended := .ofHalt serviceRelease halt }, computer)
  | .ok invocation =>
    match computer.config environment invocation.config with
    | .error error => ({ ended := .refused error }, computer)
    | .ok config => computer.serveWith environment (invocation.apply config) reachable requests

/-- Runs the service with words that may name rows, and gives names in what it prints. -/
def serveNamed (computer : Computer) (environment : Environment) (words : List String)
    (reachable : Bool) (requests : List Service.Request) : Served × Computer :=
  let reveal := computer.cover.reveal
  let (served, computer) := computer.serve environment (words.map reveal) reachable requests
  let computer := computer.look
  ({ served with ended := served.ended.conceal computer.cover }, computer)

end Computer

end StepRunner.Rehearsal
