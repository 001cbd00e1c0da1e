import StepRunner.Settings.Config

/-!
This file saves a configuration in a file and loads it from there.
-/

namespace StepRunner.Config

/-- The configuration in a file, or the usual one when nothing stands where its path leads. -/
def loadFrom (surroundings : Surroundings) (disk : Disk) (path : String) :
    Except EngineError Config :=
  if disk.isThere path then
    match disk.read path with
    | .ok content => load surroundings (some content)
    | .error error => .error (.io error)
  else load surroundings none

/--
Saves a configuration in a file, and creates the directories that lead to it.
The text is written before anything is done to the disk.
-/
def save (config : Config) (disk : Disk) (path : String) : Except EngineError Unit × Disk :=
  match config.write? with
  | none => (.error .config, disk)
  | some text =>
    let parents := (Path.names path).dropLast
    if parents.any (·.contains '\x00') then (.error (.io .invalidName), disk)
    else match disk.makeDirectoriesFrom [] parents with
    | .error error => (.error (.io error), disk.makeDirectoriesWhile parents)
    | .ok made =>
      match made.write path (Utf8.encode text) with
      | .error error => (.error (.io error), made)
      | .ok after => (.ok (), after)

end StepRunner.Config
