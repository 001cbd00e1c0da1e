import StepRunner.Disk.Path

/-!
This file says where the program keeps its files.
-/

namespace StepRunner

/-- The environment variables that decide about places. -/
structure Surroundings where
  home : Option String
  browserCache : Option String
  deriving DecidableEq, Repr, Inhabited

namespace Surroundings

/-- The directory of the user, or the current directory when it is not known. -/
def homeDirectory (surroundings : Surroundings) : String :=
  surroundings.home.getD "."

/-- The directory of the store. -/
def store (surroundings : Surroundings) : String :=
  Path.join surroundings.homeDirectory ".qaflow"

/-- The file of the configuration. -/
def configFile (surroundings : Surroundings) : String :=
  Path.join surroundings.store "config.toml"

/-- The directory of the installed browser engines. -/
def browsers (surroundings : Surroundings) : String :=
  match surroundings.browserCache with
  | some path => path
  | none => Path.join (Path.join surroundings.homeDirectory ".cache") "ms-playwright"

end Surroundings

/-- The file of the database in a store. -/
def databaseFile (store : String) : String := Path.join store "state.db"

/-- The directory of the screenshots in a store. -/
def screenshotDirectory (store : String) : String := Path.join store "artifacts"

end StepRunner
