import StepRunner.Proofs.Json.Records
import StepRunner.Proofs.Settings.Documents
import StepRunner.Proofs.Text.Encoding

/-!
This file shows that a configuration is read back from the text that it is written as.
-/

namespace StepRunner

open Json (FitsNat32 FitsNat64)

namespace Toml

instance (name : String) : Decidable (BareKey name) :=
  decidable_of_iff (name.toList ≠ [] ∧ name.toList.all isKeyChar = true)
    ⟨fun both => ⟨both.1, List.all_eq_true.1 both.2⟩,
      fun key => ⟨key.filled, List.all_eq_true.2 key.plain⟩⟩

namespace Setting

/-- A setting that is a text. -/
def ofText (name text : String) : Setting :=
  ⟨name, writeString text, .str text⟩

/-- A setting that is a natural number. -/
def ofNumber (name : String) (number : Nat) : Setting :=
  ⟨name, Text.decimalDigits number, .integer number⟩

/-- A setting that is a truth value. -/
def ofTruth (name : String) (truth : Bool) : Setting :=
  ⟨name, Config.truthWord truth, .boolean truth⟩

variable {name : String}

theorem legible_ofText (key : BareKey name) (text : String) : (ofText name text).Legible :=
  ⟨key, readsAs_writeString text⟩

theorem legible_ofNumber {number : Nat} (key : BareKey name) (fits : number < 2 ^ 63) :
    (ofNumber name number).Legible :=
  ⟨key, readsAs_decimalDigits fits⟩

theorem legible_ofTruth (key : BareKey name) (truth : Bool) : (ofTruth name truth).Legible :=
  ⟨key, readsAs_truthWord truth⟩

end Setting

end Toml

open Toml (Setting Group Document)

namespace EngineSettings

/-- The group of the policy of runs. -/
def group (settings : EngineSettings) : Group :=
  ⟨"engine", [.ofNumber "step_timeout_secs" settings.stepTimeoutSeconds,
    .ofTruth "continue_on_failure" settings.continueOnFailure]⟩

theorem legible_group {settings : EngineSettings} (fits : settings.stepTimeoutSeconds < 2 ^ 63) :
    settings.group.Legible where
  key := show Toml.BareKey "engine" by decide
  settings := by
    simp only [group, List.forall_mem_cons]
    exact ⟨Setting.legible_ofNumber (by decide) fits, Setting.legible_ofTruth (by decide) _,
      List.forall_mem_nil _⟩
  distinct := by simp [group, Setting.ofNumber, Setting.ofTruth]

theorem ofJson?_group {settings : EngineSettings}
    (fits : FitsNat64 settings.stepTimeoutSeconds) :
    ofJson? .toml settings.group.entry.2.toJson = some settings := by
  simp [ofJson?, group, Group.entry, Setting.entry, Setting.ofNumber, Setting.ofTruth,
    Toml.toJson, Toml.membersToJson, SettingsForm.fields?, Json.Fields.of?_obj,
    Json.Fields.defaulted?_given, List.lookup_cons, Json.nat64?_whole fits]

end EngineSettings

namespace BrowserSettings

/-- The group of the set-up of sessions; a directory that is not chosen is left out. -/
def group (settings : BrowserSettings) : Group :=
  ⟨"browser", [.ofText "base_url" settings.baseUrl, .ofTruth "headless" settings.headless,
    .ofNumber "viewport_width" settings.viewportWidth,
    .ofNumber "viewport_height" settings.viewportHeight,
    .ofText "node_binary" settings.nodeBinary] ++
      (settings.browsersPath.map (.ofText "browsers_path")).toList⟩

/-- The sizes of the window fit the integers of the program. -/
structure Fits (settings : BrowserSettings) : Prop where
  viewportWidth : FitsNat32 settings.viewportWidth
  viewportHeight : FitsNat32 settings.viewportHeight

theorem legible_group {settings : BrowserSettings} (fits : settings.Fits) :
    settings.group.Legible where
  key := show Toml.BareKey "browser" by decide
  settings := by
    have width : settings.viewportWidth < 2 ^ 63 := fits.viewportWidth.trans (by decide)
    have height : settings.viewportHeight < 2 ^ 63 := fits.viewportHeight.trans (by decide)
    simp only [group, List.forall_mem_append, List.forall_mem_cons]
    refine ⟨⟨Setting.legible_ofText (by decide) _, Setting.legible_ofTruth (by decide) _,
      Setting.legible_ofNumber (by decide) width, Setting.legible_ofNumber (by decide) height,
      Setting.legible_ofText (by decide) _, List.forall_mem_nil _⟩, ?_⟩
    intro setting present
    obtain ⟨path, -, rfl⟩ := Option.map_eq_some_iff.1 (Option.mem_toList.1 present)
    exact Setting.legible_ofText (by decide) path
  distinct := by
    cases chosen : settings.browsersPath <;>
      simp [group, chosen, Setting.ofText, Setting.ofNumber, Setting.ofTruth]

theorem ofJson?_group {settings : BrowserSettings} (fits : settings.Fits) :
    ofJson? .toml settings.group.entry.2.toJson = some settings := by
  have width := Json.nat32?_whole fits.viewportWidth
  have height := Json.nat32?_whole fits.viewportHeight
  obtain ⟨baseUrl, headless, viewportWidth, viewportHeight, nodeBinary, browsersPath⟩ := settings
  dsimp only at width height
  -- The directory of the browsers is left out of the group, or read back from it.
  cases browsersPath <;>
    simp [ofJson?, ofJsonWith?, group, Group.entry, Setting.entry, Setting.ofNumber,
      Setting.ofTruth, Setting.ofText, Toml.toJson, Toml.membersToJson, SettingsForm.fields?,
      Json.Fields.of?_obj, Json.Fields.defaulted?_given, List.lookup_cons, Json.nullable?, width,
      height]

end BrowserSettings

namespace ServerSettings

/-- The group of how the service is reached. -/
def group (settings : ServerSettings) : Group :=
  ⟨"server", [.ofText "listen" settings.listen]⟩

theorem legible_group (settings : ServerSettings) : settings.group.Legible where
  key := show Toml.BareKey "server" by decide
  settings := by
    simp only [group, List.forall_mem_cons]
    exact ⟨Setting.legible_ofText (by decide) _, List.forall_mem_nil _⟩
  distinct := by simp [group]

theorem ofJson?_group (settings : ServerSettings) :
    ofJson? .toml settings.group.entry.2.toJson = some settings := by
  simp [ofJson?, group, Group.entry, Setting.entry, Setting.ofText, Toml.toJson,
    Toml.membersToJson, SettingsForm.fields?, Json.Fields.of?_obj, Json.Fields.defaulted?_given]

end ServerSettings

namespace Config

variable {config : Config}

/-- The document of a configuration. -/
def document (config : Config) : Document :=
  ⟨[.ofText "store_path" config.storePath],
    [config.engine.group, config.browser.group, config.server.group]⟩

/-- The numbers of a configuration fit the integers of the program. -/
structure Fits (config : Config) : Prop where
  stepTimeout : FitsNat64 config.engine.stepTimeoutSeconds
  browser : config.browser.Fits

theorem legible_document (fits : config.browser.Fits)
    (short : config.engine.stepTimeoutSeconds < 2 ^ 63) : config.document.Legible where
  settings := by
    simp only [document, List.forall_mem_cons]
    exact ⟨Setting.legible_ofText (by decide) _, List.forall_mem_nil _⟩
  groups := by
    simp only [document, List.forall_mem_cons]
    exact ⟨EngineSettings.legible_group short, BrowserSettings.legible_group fits,
      config.server.legible_group, List.forall_mem_nil _⟩
  distinct := by
    simp [document, EngineSettings.group, BrowserSettings.group, ServerSettings.group,
      Setting.ofText]

/-- A configuration is written as its document, unless a limit is too long for one. -/
theorem write?_eq (config : Config) :
    config.write? = if 2 ^ 63 ≤ config.engine.stepTimeoutSeconds then none
      else some (String.ofList config.document.lines) := by
  rw [write?]
  refine if_congr Iff.rfl rfl ?_
  cases chosen : config.browser.browsersPath <;>
    simp [document, Document.lines, Group.lines, EngineSettings.group, BrowserSettings.group,
      ServerSettings.group, Setting.line, Setting.ofText, Setting.ofNumber, Setting.ofTruth, chosen]

theorem toJson_document (config : Config) :
    config.document.value.toJson =
      .obj [("store_path", .str config.storePath), ("engine", config.engine.group.entry.2.toJson),
        ("browser", config.browser.group.entry.2.toJson),
        ("server", config.server.group.entry.2.toJson)] :=
  rfl

/-- A configuration is what its document says, wherever it is read. -/
theorem ofJson?_document (surroundings : Surroundings) (fits : config.Fits) :
    ofJson? surroundings .toml config.document.value.toJson = some config := by
  simp [ofJson?, toJson_document, SettingsForm.fields?, Json.Fields.of?_obj,
    Json.Fields.defaulted?_given, List.lookup_cons, EngineSettings.ofJson?_group fits.stepTimeout,
    BrowserSettings.ofJson?_group fits.browser, ServerSettings.ofJson?_group]

/-- The text that a configuration is written as is read as that configuration. -/
theorem ofText?_of_write? {text : String} (surroundings : Surroundings) (fits : config.Fits)
    (written : config.write? = some text) : ofText? surroundings text = some config := by
  rw [write?_eq] at written
  split at written
  · cases written
  · next short =>
    obtain rfl := Option.some.inj written
    have legible := legible_document fits.browser (not_le.1 short)
    rw [ofText?, Document.read?_lines legible, Option.bind_some, ofJson?_document surroundings fits]

/-- A file with the text that a configuration is written as is loaded as that configuration. -/
theorem load_of_write? {text : String} (surroundings : Surroundings) (fits : config.Fits)
    (written : config.write? = some text) :
    load surroundings (some (Utf8.encode text)) = .ok config := by
  simp only [load, Utf8.decode?_encode, ofText?_of_write? surroundings fits written]

end Config

end StepRunner
