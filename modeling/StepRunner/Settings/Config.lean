import StepRunner.Json.Record
import StepRunner.Settings.Place
import StepRunner.Text.Utf8
import StepRunner.Toml.Reader
import StepRunner.Toml.Writer
import StepRunner.Disk.Basic
import StepRunner.Time.Duration

/-!
This file defines the configuration, reads it from TOML or JSON and writes it as TOML.
A setting that is not given keeps its default, and an unknown setting is ignored.
-/

namespace StepRunner

/-- The policy of runs. -/
structure EngineSettings where
  stepTimeoutSeconds : Nat := 5
  continueOnFailure : Bool := false
  deriving DecidableEq, Repr, Inhabited

/-- How browser sessions are set up. -/
structure BrowserSettings where
  baseUrl : String := "http://127.0.0.1:3000"
  headless : Bool := true
  viewportWidth : Nat := 1280
  viewportHeight : Nat := 720
  nodeBinary : String := "node"
  browsersPath : Option String := none
  deriving DecidableEq, Repr, Inhabited

/-- How the service is reached. -/
structure ServerSettings where
  listen : String := "127.0.0.1:7420"
  deriving DecidableEq, Repr, Inhabited

/-- The whole configuration. -/
structure Config where
  storePath : String
  engine : EngineSettings := {}
  browser : BrowserSettings := {}
  server : ServerSettings := {}
  deriving DecidableEq, Repr, Inhabited

/-- What a configuration text may look like. -/
structure SettingsForm where
  /-- A list that stands for a record may have items beyond its fields. -/
  longLists : Bool
  deriving DecidableEq, Repr

namespace SettingsForm

/-- Lists in TOML may be too long. -/
def toml : SettingsForm := ⟨true⟩

/-- Lists in JSON may not be too long. -/
def json : SettingsForm := ⟨false⟩

/-- The fields of a record. -/
def fields? (form : SettingsForm) (names : List String) (value : Json) : Option Json.Fields :=
  match value with
  | .arr items =>
    Json.Fields.of? names (.arr (if form.longLists then items.take names.length else items))
  | value => Json.Fields.of? names value

end SettingsForm

namespace EngineSettings

/-- The JSON form of the policy of runs. -/
def toJson (settings : EngineSettings) : Json :=
  .obj [("step_timeout_secs", .whole settings.stepTimeoutSeconds),
    ("continue_on_failure", .bool settings.continueOnFailure)]

/-- Reads the policy of runs. -/
def ofJson? (form : SettingsForm) (value : Json) : Option EngineSettings := do
  let fields ← form.fields? ["step_timeout_secs", "continue_on_failure"] value
  let stepTimeoutSeconds ← fields.defaulted? "step_timeout_secs" Json.nat64? 5
  let continueOnFailure ← fields.defaulted? "continue_on_failure" Json.bool? false
  return { stepTimeoutSeconds, continueOnFailure }

end EngineSettings

namespace BrowserSettings

/-- The JSON form of the set-up of sessions. -/
def toJson (settings : BrowserSettings) : Json :=
  .obj [("base_url", .str settings.baseUrl), ("headless", .bool settings.headless),
    ("viewport_width", .whole settings.viewportWidth),
    ("viewport_height", .whole settings.viewportHeight),
    ("node_binary", .str settings.nodeBinary), ("browsers_path", .ofOption settings.browsersPath)]

/-- Reads the set-up of sessions, where a setting that is not given comes from a default. -/
def ofJsonWith? (usual : BrowserSettings) (form : SettingsForm) (value : Json) :
    Option BrowserSettings := do
  let fields ← form.fields?
    ["base_url", "headless", "viewport_width", "viewport_height", "node_binary", "browsers_path"]
    value
  let baseUrl ← fields.defaulted? "base_url" Json.string? usual.baseUrl
  let headless ← fields.defaulted? "headless" Json.bool? usual.headless
  let viewportWidth ← fields.defaulted? "viewport_width" Json.nat32? usual.viewportWidth
  let viewportHeight ← fields.defaulted? "viewport_height" Json.nat32? usual.viewportHeight
  let nodeBinary ← fields.defaulted? "node_binary" Json.string? usual.nodeBinary
  let browsersPath ←
    fields.defaulted? "browsers_path" (Json.nullable? Json.string?) usual.browsersPath
  return { baseUrl, headless, viewportWidth, viewportHeight, nodeBinary, browsersPath }

/-- Reads the set-up of sessions. -/
def ofJson? : SettingsForm → Json → Option BrowserSettings := ofJsonWith? {}

end BrowserSettings

namespace ServerSettings

/-- The JSON form of how the service is reached. -/
def toJson (settings : ServerSettings) : Json :=
  .obj [("listen", .str settings.listen)]

/-- Reads how the service is reached. -/
def ofJson? (form : SettingsForm) (value : Json) : Option ServerSettings := do
  let fields ← form.fields? ["listen"] value
  let listen ← fields.defaulted? "listen" Json.string? ({} : ServerSettings).listen
  return { listen }

end ServerSettings

namespace Config

/-- The configuration without a file. -/
def usual (surroundings : Surroundings) : Config :=
  { storePath := surroundings.store }

/-- The file of the database. -/
def database (config : Config) : String := databaseFile config.storePath

/-- The directory of the screenshots. -/
def screenshots (config : Config) : String := screenshotDirectory config.storePath

/-- The JSON form of a configuration. -/
def toJson (config : Config) : Json :=
  .obj [("store_path", .str config.storePath), ("engine", config.engine.toJson),
    ("browser", config.browser.toJson), ("server", config.server.toJson)]

/-- Reads a configuration. -/
def ofJson? (surroundings : Surroundings) (form : SettingsForm) (value : Json) :
    Option Config := do
  let fields ← form.fields? ["store_path", "engine", "browser", "server"] value
  let storePath ← fields.defaulted? "store_path" Json.string? surroundings.store
  let engine ← fields.defaulted? "engine" (EngineSettings.ofJson? form) {}
  let browser ← fields.defaulted? "browser" (BrowserSettings.ofJson? form) {}
  let server ← fields.defaulted? "server" (ServerSettings.ofJson? form) {}
  return { storePath, engine, browser, server }

/-- Reads the text of a configuration file. -/
def ofText? (surroundings : Surroundings) (text : String) : Option Config :=
  (Toml.read? text).bind fun document => ofJson? surroundings .toml document.toJson

/-- Loads a configuration from the content of its file; without a file all is default. -/
def load (surroundings : Surroundings) (content : Option Bytes) : Except EngineError Config :=
  match content with
  | none => .ok (usual surroundings)
  | some bytes =>
    match Utf8.decode? bytes with
    | none => .error (.io .notText)
    | some text =>
      match ofText? surroundings text with
      | some config => .ok config
      | none => .error .config

/-- A line with a setting. -/
def settingLine (name : String) (value : List Char) : List Char :=
  name.toList ++ " = ".toList ++ value ++ ['\n']

/-- The word for a truth value. -/
def truthWord (value : Bool) : List Char :=
  if value then "true".toList else "false".toList

/-- A header of a group of settings, after an empty line. -/
def headerLines (name : String) : List Char :=
  '\n' :: '[' :: name.toList ++ [']', '\n']

/-- The text of a configuration file; a limit beyond 63 bits cannot be written. -/
def write? (config : Config) : Option String :=
  if Nat.pow 2 63 ≤ config.engine.stepTimeoutSeconds then none
  else
    let path := match config.browser.browsersPath with
      | some path => settingLine "browsers_path" (Toml.writeString path)
      | none => []
    some <| String.ofList <|
      settingLine "store_path" (Toml.writeString config.storePath) ++
      headerLines "engine" ++
      settingLine "step_timeout_secs" (Text.decimalDigits config.engine.stepTimeoutSeconds) ++
      settingLine "continue_on_failure" (truthWord config.engine.continueOnFailure) ++
      headerLines "browser" ++
      settingLine "base_url" (Toml.writeString config.browser.baseUrl) ++
      settingLine "headless" (truthWord config.browser.headless) ++
      settingLine "viewport_width" (Text.decimalDigits config.browser.viewportWidth) ++
      settingLine "viewport_height" (Text.decimalDigits config.browser.viewportHeight) ++
      settingLine "node_binary" (Toml.writeString config.browser.nodeBinary) ++
      path ++
      headerLines "server" ++
      settingLine "listen" (Toml.writeString config.server.listen)

end Config

/-- How one run is to be executed. -/
structure RunOptions where
  continueOnFailure : Bool
  stepTimeout : Duration
  deriving DecidableEq, Repr

namespace RunOptions

/-- The options that a policy prescribes. -/
def ofSettings (settings : EngineSettings) : RunOptions :=
  ⟨settings.continueOnFailure, .ofSeconds settings.stepTimeoutSeconds⟩

/-- The longest time that a step may be given. -/
def longestTimeout : Duration := .ofSeconds 3600

/-- Refuses a time limit of nothing and one that is too long. -/
def check (options : RunOptions) : Except EngineError Unit :=
  if options.stepTimeout.nanoseconds = 0 ∨
      longestTimeout.nanoseconds < options.stepTimeout.nanoseconds then
    .error (.validation .stepTimeout)
  else .ok ()

end RunOptions

end StepRunner
