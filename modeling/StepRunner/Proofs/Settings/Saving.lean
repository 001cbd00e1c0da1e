import StepRunner.Proofs.Disk.Writing
import StepRunner.Proofs.Settings.Texts
import StepRunner.Settings.File

/-!
This file shows that a configuration that was saved is loaded again.
Only a time limit that no document can hold keeps a configuration from being written.
-/

namespace StepRunner.Config

open StepRunner.Path (Location)

variable {config : Config} {surroundings : Surroundings} {disk after : Disk} {path : String}

section Outcomes

/-- What may come of saving a configuration. -/
inductive Saves (config : Config) (disk : Disk) (path : String) :
    Except EngineError Unit × Disk → Prop where
  | unwritten (limit : 2 ^ 63 ≤ config.engine.stepTimeoutSeconds) :
      Saves config disk path (.error .config, disk)
  | broken (text : String) (written : config.write? = some text) (error : IoError) (left : Disk) :
      Saves config disk path (.error (.io error), left)
  | done (text : String) (written : config.write? = some text) (made after : Disk)
      (makes : disk.makeDirectoriesFrom [] (Path.names path).dropLast = .ok made)
      (stores : made.write path (Utf8.encode text) = .ok after) :
      Saves config disk path (.ok (), after)

theorem write?_eq_none_iff :
    config.write? = none ↔ 2 ^ 63 ≤ config.engine.stepTimeoutSeconds := by
  rw [write?_eq]
  split
  · next long => exact iff_of_true rfl long
  · next short => exact iff_of_false nofun short

theorem saves (config : Config) (disk : Disk) (path : String) :
    Saves config disk path (config.save disk path) := by
  unfold save
  split
  · next unwritten => exact .unwritten (write?_eq_none_iff.1 unwritten)
  · next text written =>
    simp only
    split
    · exact .broken text written _ _
    · split
      · exact .broken text written _ _
      · next made makes =>
        split
        · exact .broken text written _ _
        · next after stores => exact .done text written made after makes stores

/-- A limit that is too long is refused before anything is done to the disk. -/
theorem save_of_limit (limit : 2 ^ 63 ≤ config.engine.stepTimeoutSeconds) :
    config.save disk path = (.error .config, disk) := by
  rw [save, write?_eq_none_iff.2 limit]

/-- Nothing but a limit that is too long is refused. -/
theorem limit_of_save (fails : (config.save disk path).1 = .error .config) :
    2 ^ 63 ≤ config.engine.stepTimeoutSeconds := by
  have outcome := saves config disk path
  generalize config.save disk path = result at outcome fails
  cases outcome with
  | unwritten limit => exact limit
  | broken => cases fails
  | done => cases fails

/-- A failure is a refusal or comes from the disk. -/
theorem save_eq_error {error : EngineError} (fails : (config.save disk path).1 = .error error) :
    error = .config ∨ ∃ fault, error = .io fault := by
  have outcome := saves config disk path
  generalize config.save disk path = result at outcome fails
  cases outcome with
  | unwritten => exact .inl (Except.error.inj fails).symm
  | broken _ _ fault => exact .inr ⟨fault, (Except.error.inj fails).symm⟩
  | done => cases fails

/-- A file that can be read is loaded as its content is. -/
theorem loadFrom_of_read {content : Bytes} (found : disk.read path = .ok content) :
    loadFrom surroundings disk path = load surroundings (some content) := by
  rw [loadFrom, Disk.isThere_of_read found, if_pos rfl, found]

end Outcomes

section Results

theorem write?_of_short (short : config.engine.stepTimeoutSeconds < 2 ^ 63) :
    ∃ text, config.write? = some text :=
  Option.ne_none_iff_exists'.1 fun none => not_le.2 short (write?_eq_none_iff.1 none)

/-- Where there is room, a configuration that can be written is saved. -/
theorem save_of_room {place : Location} {missing : List String} {name : String}
    (room : disk.Room place missing name) (short : config.engine.stepTimeoutSeconds < 2 ^ 63) :
    (config.save disk (Path.render (place ++ missing ++ [name]))).1 = .ok () := by
  obtain ⟨text, written⟩ := write?_of_short short
  obtain ⟨missingPlain, last⟩ := List.forall_mem_append.1 room.plain
  obtain ⟨plain, brief⟩ := last name List.mem_cons_self
  have names : Path.names (Path.render (place ++ missing ++ [name])) =
      place ++ missing ++ [name] := by
    refine Path.names_render ?_
    rw [List.append_assoc]
    exact List.forall_mem_append.2
      ⟨room.canonical.plain, fun piece inside => (room.plain piece inside).1⟩
  have clean : (place ++ missing).any (·.contains '\x00') = false := by
    refine List.any_eq_false.2 fun piece inside => ?_
    have listed : piece ∈ Path.names (Path.render (place ++ missing ++ [name])) := by
      rw [names]
      exact List.mem_append_left _ inside
    simp [Path.contains_of_mem_names room.clean listed]
  obtain ⟨made, makes, canonical, inside, kept⟩ :=
    Disk.makeDirectoriesFrom_of_missing room.canonical room.directory missingPlain room.fresh
  have along : disk.makeDirectoriesFrom [] (place ++ missing) =
      disk.makeDirectoriesFrom ([] ++ place) missing :=
    Disk.makeDirectoriesFrom_append missing room.canonical room.directory
  have above : disk.makeDirectoriesFrom [] (place ++ missing) = .ok made := along.trans makes
  have stores := Disk.write_of_vacant (Utf8.encode text) canonical inside plain brief
    (by rw [kept]; exact room.vacant) room.clean room.fits
  unfold save
  simp only [written, names, List.dropLast_concat, clean, above, stores]
  rfl

/-- The text of a configuration that was saved stands where it was saved. -/
theorem read_of_save (saved : config.save disk path = (.ok (), after)) :
    ∃ text, config.write? = some text ∧ after.read path = .ok (Utf8.encode text) := by
  have outcome := saves config disk path
  rw [saved] at outcome
  cases outcome with
  | done text written made _ makes stores =>
    exact ⟨text, written, Disk.read_of_write stores⟩

/-- A configuration that was saved is loaded from where it was saved. -/
theorem loadFrom_of_save (fits : config.Fits) (surroundings : Surroundings)
    (saved : config.save disk path = (.ok (), after)) :
    loadFrom surroundings after path = .ok config := by
  obtain ⟨text, written, found⟩ := read_of_save saved
  exact (loadFrom_of_read found).trans (load_of_write? surroundings fits written)

/-- A configuration survives that it is saved in a file and loaded from there. -/
structure Survives (config : Config) (surroundings : Surroundings) (disk : Disk) (path : String) :
    Prop where
  /-- Only a limit that is too long for a document is refused. -/
  refused : (config.save disk path).1 = .error .config ↔
    2 ^ 63 ≤ config.engine.stepTimeoutSeconds
  /-- A refusal leaves the disk as it was. -/
  untouched : (config.save disk path).1 = .error .config → (config.save disk path).2 = disk
  /-- Every other failure is one of the disk. -/
  failed : ∀ error, (config.save disk path).1 = .error error →
    error = .config ∨ ∃ fault, error = .io fault
  /-- A limit that is not too long has a text, which is loaded as the configuration. -/
  written : config.engine.stepTimeoutSeconds < 2 ^ 63 → ∃ text, config.write? = some text ∧
    load surroundings (some (Utf8.encode text)) = .ok config
  /-- The text is saved where the directories of the path are there or can be made. -/
  saved : ∀ place missing name, disk.Room place missing name →
    path = Path.render (place ++ missing ++ [name]) →
    config.engine.stepTimeoutSeconds < 2 ^ 63 → (config.save disk path).1 = .ok ()
  /-- What was saved is the text, and it is loaded as the configuration. -/
  loaded : ∀ after, config.save disk path = (.ok (), after) →
    loadFrom surroundings after path = .ok config ∧
      ∃ text, config.write? = some text ∧ after.read path = .ok (Utf8.encode text)
  /-- A configuration that was loaded is saved with the same text wherever it is saved. -/
  again : ∀ after found other place last, config.save disk path = (.ok (), after) →
    loadFrom surroundings after path = .ok found → found.save other place = (.ok (), last) →
    last.read place = after.read path

theorem survives_saving (fits : config.Fits) (surroundings : Surroundings) (disk : Disk)
    (path : String) : config.Survives surroundings disk path where
  refused := ⟨limit_of_save, fun limit => by rw [save_of_limit limit]⟩
  untouched fails := by rw [save_of_limit (limit_of_save fails)]
  failed _ fails := save_eq_error fails
  written short := by
    obtain ⟨text, written⟩ := write?_of_short short
    exact ⟨text, written, load_of_write? surroundings fits written⟩
  saved place missing name room same short := by
    rw [same]
    exact save_of_room room short
  loaded after saved := ⟨loadFrom_of_save fits surroundings saved, read_of_save saved⟩
  again after found other place last saved loads resaved := by
    obtain rfl : config = found :=
      Except.ok.inj ((loadFrom_of_save fits surroundings saved).symm.trans loads)
    obtain ⟨text, written, stored⟩ := read_of_save saved
    obtain ⟨copy, rewritten, restored⟩ := read_of_save resaved
    obtain rfl : text = copy := Option.some.inj (written.symm.trans rewritten)
    exact restored.trans stored.symm

/-- A configuration with texts that a document has to quote with care. -/
def sampleConfig : Config where
  storePath := "C:\\data\\\"store\"\n"
  engine := ⟨2 ^ 63 - 1, true⟩
  browser := ⟨"it's\r\n\x01", false, 2 ^ 32 - 1, 0, "'''\"\"\"", some ""⟩
  server := ⟨"\t"⟩

/-- Below the root of an empty disk there is room for a file in a new directory. -/
theorem room_in_empty : Disk.Room {} [] ["settings"] "config.toml" where
  canonical := .root
  directory := rfl
  plain := by
    have directory : Path.Plain "settings" :=
      ⟨by simp [Path.SlashFree], by decide, by decide, by decide⟩
    have file : Path.Plain "config.toml" :=
      ⟨by simp [Path.SlashFree], by decide, by decide, by decide⟩
    simp only [List.cons_append, List.nil_append, List.forall_mem_cons]
    exact ⟨⟨directory, by decide⟩, ⟨file, by decide⟩, List.forall_mem_nil _⟩
  fresh part filled _ := by
    rw [List.nil_append, Disk.node?, if_neg filled]
    rfl
  vacant node found := nomatch found
  clean := by
    rw [String.contains_char_eq]
    decide
  fits := by decide

theorem sampleConfig_survives :
    sampleConfig.Fits ∧ ∃ after,
      sampleConfig.save {} "/settings/config.toml" = (.ok (), after) ∧
        loadFrom ⟨none, none⟩ after "/settings/config.toml" = .ok sampleConfig := by
  have fits : sampleConfig.Fits := ⟨by decide, by decide, by decide⟩
  have survives := survives_saving fits ⟨none, none⟩ {} "/settings/config.toml"
  have saved : (sampleConfig.save {} "/settings/config.toml").1 = .ok () :=
    survives.saved [] ["settings"] "config.toml" room_in_empty rfl (by decide)
  have whole : sampleConfig.save {} "/settings/config.toml" =
      (.ok (), (sampleConfig.save {} "/settings/config.toml").2) := Prod.ext saved rfl
  exact ⟨fits, _, whole, (survives.loaded _ whole).1⟩

end Results

end StepRunner.Config
