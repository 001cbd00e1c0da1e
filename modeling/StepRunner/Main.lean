import StepRunner.Rehearsal.Computer
import StepRunner.Store.Saved
import Std.Time.DateTime.Timestamp

/-!
This file is the program for the command line.
It reads the files that a command needs, carries the command out and writes the store back.
The store is kept as a text, and no bridge is started from here.
-/

namespace StepRunner.Program

open Rehearsal

/-- The content of a file, if it can be read. -/
def contentOf? (path : String) : IO (Option Bytes) := do
  try
    let content ← IO.FS.readBinFile path
    return some content.toList
  catch _ => return none

/-- Copies a file to the disk of a computer. -/
def withFile (computer : Computer) (path : String) : IO Computer := do
  match ← contentOf? (computer.place path) with
  | none => return computer
  | some content =>
    let disk := computer.disk.plant (computer.place path) content
    return { computer with disk := disk.toOption.getD computer.disk }

/-- Copies the names in the cache of browser engines to the disk of a computer. -/
def withCache (computer : Computer) (path : String) : IO Computer := do
  try
    let here ← IO.currentDir
    let entries ← (here / path).readDir
    let make (disk : Disk) (name : String) : Disk :=
      (disk.makeDirectories (Path.join (computer.place path) name)).toOption.getD disk
    return { computer with
      disk := entries.foldl (fun disk entry => make disk entry.fileName) computer.disk }
  catch _ => return computer

/-- Opens the store in a file. -/
def withStore (computer : Computer) (path : String) : IO Computer := do
  let path := computer.place path
  let computer ← withFile computer path
  match ((computer.disk.read path).toOption.bind Utf8.decode?).bind Store.ofText? with
  | none => return computer
  | some store =>
    return { computer with
      databases := [(Path.names path, store.tables)]
      minted := store.minted }

/-- The variables of the environment that count. -/
def readEnvironment : IO Environment := do
  let names := ["HOME", "PLAYWRIGHT_BROWSERS_PATH", "QAFLOW_CONFIG"]
  let values ← names.mapM fun name => do
    let value ← IO.getEnv name
    return value.map fun value => (name, value)
  return values.filterMap id

/-- Copies everything that a command needs to the disk of a computer. -/
def prepare (computer : Computer) (environment : Environment) (invocation : Console.Invocation) :
    IO (Computer × Option String) := do
  let surroundings := computer.surroundings environment
  let computer ← withFile computer (invocation.config.getD surroundings.configFile)
  let computer ← match invocation.command.scriptFile? with
    | some path => withFile computer path
    | none => pure computer
  match computer.config environment invocation.config with
  | .error _ => return (computer, none)
  | .ok config =>
    let config := invocation.apply config
    let computer ← withCache computer (config.browser.browsersPath.getD surroundings.browsers)
    return (← withStore computer config.database, some config.storePath)

/-- Writes the store of a computer to its file. -/
def save (computer : Computer) (storePath : String) : IO Unit := do
  match computer.databases with
  | [] => return
  | (_, tables) :: _ =>
    let path := computer.place storePath
    IO.FS.createDirAll path
    IO.FS.writeFile (databaseFile path) (Store.text ⟨tables, computer.minted⟩)

/-- Carries out the command that the words ask for and gives the exit code. -/
def run (words : List String) : IO UInt32 := do
  let directory ← IO.currentDir
  let moment ← Std.Time.Timestamp.now
  let computer : Computer :=
    { directory := directory.toString
      disk := {}
      now := moment.toMillisecondsSinceUnixEpoch.val
      node := ""
      bridge := {} }
  let environment ← readEnvironment
  let (computer, storePath) ←
    match Console.Invocation.read (environment.lookup "QAFLOW_CONFIG") words with
    | .error _ => pure (computer, none)
    | .ok invocation => prepare computer environment invocation
  let (ended, computer) := computer.run environment words
  IO.print ended.out
  IO.eprint ended.err
  match storePath with
  | some path => save computer path
  | none => pure ()
  return ended.code.toUInt32

end StepRunner.Program

/-- The program for the command line. -/
def main (words : List String) : IO UInt32 :=
  StepRunner.Program.run words
