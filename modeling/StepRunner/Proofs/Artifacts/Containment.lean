import StepRunner.Artifacts.Basic
import StepRunner.Proofs.Disk.Walks

/-!
This file shows which files a read of the screenshots can disclose.
A requested file is below the directory of the screenshots, and so is a thumbnail that is made.
A thumbnail that is found is served wherever its name leads to.
-/

namespace StepRunner

namespace Path

theorem isBelow_iff {root location : Location} : isBelow root location = true ↔ root <+: location :=
  List.isPrefixOf_iff_prefix

/-- The stem of a name is made of its characters. -/
theorem mem_stem {name : String} {char : Char} (present : char ∈ (stem name).toList) :
    char ∈ name.toList := by
  simp only [stem] at present
  split at present
  · exact present
  · exact present
  · next first rest split =>
    have among : char ∈ name.toList.reverse.dropWhile (· != '.') := by
      rw [split]
      exact List.mem_cons_of_mem _ (by simpa using present)
    simpa using (List.dropWhile_sublist _).subset among

end Path

namespace Artifacts

open StepRunner.Path (Location Plain isBelow)

variable {artifacts after : Artifacts} {path : String} {full location : Location}
  {content : Bytes}

/-- The name of a thumbnail is plain. -/
theorem plain_thumbnailName {name : String} (plain : Plain name) : Plain (thumbnailName name) := by
  have ending : Path.SlashFree thumbnailEnding := fun slash => absurd slash (by decide)
  unfold thumbnailName
  split
  · exact plain
  · exact Path.plain_append (fun slash => plain.slashFree (Path.mem_stem slash)) ending (by decide)

theorem thumbnailLocation_append (place : Location) (name : String) :
    thumbnailLocation (place ++ [name]) = place ++ [thumbnailName name] := by
  simp [thumbnailLocation]

section Pieces

theorem onDisk_eq_ok_iff {α : Type} {result : Except IoError α} {value : α} :
    onDisk result = .ok value ↔ result = .ok value := by
  cases result with
  | error fault => exact ⟨nofun, nofun⟩
  | ok found => exact ⟨fun same => by cases same; rfl, fun same => by cases same; rfl⟩

/-- A request is accepted when it leads to a location below the directory. -/
theorem contain_eq_ok_iff : artifacts.contain path = .ok full ↔
    artifacts.disk.resolve (artifacts.requested path) = .ok full ∧
      isBelow artifacts.root full = true := by
  unfold contain
  cases artifacts.disk.resolve (artifacts.requested path) with
  | error fault => simp; split <;> simp
  | ok found =>
    by_cases below : isBelow artifacts.root found = true
    · simp only [below, if_true]
      constructor
      · rintro ⟨⟩
        exact ⟨rfl, below⟩
      · rintro ⟨⟨⟩, -⟩
        rfl
    · simp only [below]
      constructor
      · rintro ⟨⟩
      · rintro ⟨⟨⟩, inside⟩
        exact absurd inside below

/-- A file is installed while the staging directory is there. -/
theorem install_eq (installed : artifacts.install location content = .ok after) :
    (∃ staging, artifacts.disk.resolve (Path.render (artifacts.root ++ ["tmp"])) = .ok staging) ∧
      ∃ disk, artifacts.disk.replace (Path.render location) content = .ok disk ∧
        after = { artifacts with disk } := by
  simp only [install, bind_eq_ok_iff, refuse_eq_ok_iff, onDisk_eq_ok_iff, pure_eq_ok_iff]
    at installed
  obtain ⟨staging, resolved, -, disk, replaced, rfl⟩ := installed
  exact ⟨⟨staging, resolved⟩, disk, replaced, rfl⟩

/-- A thumbnail is made of a file. -/
theorem rendition_eq {disk : Disk} (rendered : rendition disk full = .ok content) :
    ∃ picture, disk.node? full = some (.file picture) := by
  cases found : disk.readAt full with
  | ok picture => exact ⟨picture, Disk.readAt_eq_ok_iff.1 found⟩
  | error fault => simp [rendition, found] at rendered

/-- A thumbnail is found, or it is made of a file and installed. -/
theorem thumbnailAt_eq (served : artifacts.thumbnailAt full = .ok (location, after)) :
    location = thumbnailLocation full ∧
      (after = artifacts ∨
        artifacts.disk.isThere (Path.render location) = false ∧
        (∃ picture, artifacts.disk.node? full = some (.file picture)) ∧
        ∃ content, artifacts.install location content = .ok after) := by
  simp only [thumbnailAt] at served
  split at served
  · rw [pure_eq_ok_iff] at served
    obtain ⟨rfl, rfl⟩ := Prod.mk.inj served
    exact ⟨rfl, .inl rfl⟩
  · next fresh =>
    obtain ⟨content, rendered, stored⟩ := bind_eq_ok_iff.1 served
    obtain ⟨changed, installed, same⟩ := bind_eq_ok_iff.1 stored
    rw [pure_eq_ok_iff] at same
    obtain ⟨rfl, rfl⟩ := Prod.mk.inj same
    have missing : artifacts.disk.isThere (Path.render (thumbnailLocation full)) = false := by
      simp only [Bool.or_eq_true, decide_eq_true_eq, not_or, Bool.not_eq_true] at fresh
      exact fresh.2
    exact ⟨rfl, .inr ⟨missing, rendition_eq rendered, content, installed⟩⟩

end Pieces

section Reads

/-- The name of the thumbnail of a file leads out of the directory. -/
def Strays (artifacts : Artifacts) (full : Location) (variant : Variant) : Prop :=
  variant = .thumbnail ∧ ∃ stray,
    artifacts.disk.resolve (Path.render (thumbnailLocation full)) = .ok stray ∧
      isBelow artifacts.root stray = false

/-- Bytes are the content of a file at a canonical location of the disk. -/
structure Holds (artifacts : Artifacts) (location : Location) (content : Bytes) : Prop where
  canonical : artifacts.disk.Canonical location
  file : artifacts.disk.node? location = some (.file content)

theorem holds_of_read (found : artifacts.disk.read (Path.render location) = .ok content) :
    ∃ served, artifacts.disk.resolve (Path.render location) = .ok served ∧
      artifacts.Holds served content := by
  unfold Disk.read at found
  cases resolved : artifacts.disk.resolve (Path.render location) with
  | error fault =>
    rw [resolved] at found
    cases found
  | ok served =>
    rw [resolved] at found
    exact ⟨served, rfl, Disk.resolve_canonical resolved, Disk.readAt_eq_ok_iff.1 found⟩

/-- A file that is made beside a file of the directory is below the directory. -/
theorem below_thumbnail (canonical : artifacts.disk.Canonical full)
    (below : isBelow artifacts.root full = true) {picture : Bytes}
    (file : artifacts.disk.node? full = some (.file picture))
    (staged : ∃ staging,
      artifacts.disk.resolve (Path.render (artifacts.root ++ ["tmp"])) = .ok staging) :
    isBelow artifacts.root (thumbnailLocation full) = true := by
  obtain ⟨rest, rfl⟩ := Path.isBelow_iff.1 below
  rcases List.eq_nil_or_concat rest with rfl | ⟨inner, name, rfl⟩
  · -- Nothing can be staged below a file.
    obtain ⟨staging, resolved⟩ := staged
    rw [List.append_nil] at canonical file
    obtain ⟨-, -, -, walked⟩ := Disk.resolve_eq_ok_iff.1 resolved
    rw [Disk.walk_render_append canonical (by simp [Path.SlashFree]), Disk.walk] at walked
    simp [Disk.isDirectory, file] at walked
  · rw [List.concat_eq_append, ← List.append_assoc, thumbnailLocation_append, Path.isBelow_iff,
      List.append_assoc]
    exact List.prefix_append _ _

/-- A thumbnail that cannot be served is not there. -/
theorem isThere_of_thumbnailAt_error {fault : ArtifactError}
    (failed : artifacts.thumbnailAt full = .error fault) :
    artifacts.disk.isThere (Path.render (thumbnailLocation full)) = false := by
  by_contra there
  rw [Bool.not_eq_false] at there
  simp [thumbnailAt, there, pure, Except.pure] at failed

theorem not_strays_of_absent {variant : Variant}
    (absent : artifacts.disk.isThere (Path.render (thumbnailLocation full)) = false) :
    ¬artifacts.Strays full variant := by
  rintro ⟨-, stray, resolved, -⟩
  simp [Disk.isThere, resolved] at absent

/-- What a read of the thumbnail of a file below the directory discloses. -/
theorem disclosed_thumbnail (canonical : artifacts.disk.Canonical full)
    (below : isBelow artifacts.root full = true)
    (served : artifacts.thumbnailAt full = .ok (location, after))
    (found : after.disk.read (Path.render location) = .ok content) :
    after.root = artifacts.root ∧ ∃ place, after.Holds place content ∧
      (isBelow artifacts.root place = true ↔ ¬artifacts.Strays full .thumbnail) := by
  obtain ⟨place, resolved, holds⟩ := holds_of_read found
  obtain ⟨rfl, rfl | ⟨absent, ⟨picture, file⟩, rendered, installed⟩⟩ := thumbnailAt_eq served
  · -- The name of the thumbnail alone decides where it leads to.
    refine ⟨rfl, place, holds, fun inside strays => ?_, fun stays => ?_⟩
    · obtain ⟨-, stray, leads, outside⟩ := strays
      rw [resolved] at leads
      rw [← Except.ok.inj leads, inside] at outside
      cases outside
    · by_contra outside
      exact stays ⟨rfl, place, resolved, by simpa using outside⟩
  · obtain ⟨staged, disk, replaced, rfl⟩ := install_eq installed
    have inside := below_thumbnail canonical below file staged
    cases canonical with
    | root => simp [Disk.node?] at file
    | child parent directory plain =>
      rw [thumbnailLocation_append] at replaced resolved absent inside
      obtain ⟨rfl, short, -⟩ :=
        Disk.replace_render parent directory (plain_thumbnailName plain) replaced
      have made := parent.put_file rendered directory (plain_thumbnailName plain) short
      obtain rfl := Disk.eq_of_resolve_render made resolved
      rw [← thumbnailLocation_append] at absent
      exact ⟨rfl, _, holds, iff_of_true inside (not_strays_of_absent absent)⟩

/-- A thumbnail that is made can be read. -/
theorem read_of_made (canonical : artifacts.disk.Canonical full)
    (served : artifacts.thumbnailAt full = .ok (location, after)) :
    after = artifacts ∨ ∃ content, after.disk.read (Path.render location) = .ok content := by
  obtain ⟨rfl, same | ⟨-, ⟨picture, file⟩, rendered, installed⟩⟩ := thumbnailAt_eq served
  · exact .inl same
  · obtain ⟨-, disk, replaced, rfl⟩ := install_eq installed
    cases canonical with
    | root => simp [Disk.node?] at file
    | child parent directory plain =>
      rw [thumbnailLocation_append] at replaced ⊢
      exact .inr ⟨rendered,
        Disk.read_of_replace parent directory (plain_thumbnailName plain) replaced⟩

/-- A read that fails has made no thumbnail. -/
theorem keeps_of_read_error {variant : Variant} {fault : ArtifactError}
    (failed : (artifacts.read path variant).1 = .error fault) :
    (artifacts.read path variant).2 = artifacts := by
  unfold Artifacts.read at failed ⊢
  split at failed
  · rfl
  · next full accepted =>
    have canonical := Disk.resolve_canonical (contain_eq_ok_iff.1 accepted).1
    cases variant with
    | full => rfl
    | thumbnail =>
      simp only [target] at failed ⊢
      split at failed
      · next found served =>
        rcases read_of_made canonical served with same | ⟨content, readable⟩
        · exact same
        · rw [readable] at failed
          cases failed
      · rfl

/-- The file that the name of a thumbnail leads to is disclosed, wherever it is. -/
theorem read_of_resolve {place : Location} (accepted : artifacts.contain path = .ok full)
    (leads : artifacts.disk.resolve (Path.render (thumbnailLocation full)) = .ok place)
    (file : artifacts.disk.node? place = some (.file content)) :
    artifacts.read path .thumbnail = (.ok content, artifacts) := by
  have there : artifacts.disk.isThere (Path.render (thumbnailLocation full)) = true := by
    simp [Disk.isThere, leads]
  have served : artifacts.thumbnailAt full = .ok (thumbnailLocation full, artifacts) := by
    simp [thumbnailAt, there, pure, Except.pure]
  have found : artifacts.disk.read (Path.render (thumbnailLocation full)) = .ok content := by
    simp [Disk.read, leads, Except.bind, Disk.readAt_eq_ok_iff.2 file]
  simp only [Artifacts.read, accepted, target, served, onDisk_eq_ok_iff.2 found]

/-- What the reads of a requested path disclose. -/
structure Contained (artifacts : Artifacts) (path : String) : Prop where
  digest : ∀ text, artifacts.digest path = .ok text → ∃ full content,
    artifacts.disk.resolve (artifacts.requested path) = .ok full ∧
      isBelow artifacts.root full = true ∧ artifacts.Holds full content ∧
      text = Sha256.hex content
  read : ∀ variant content after, artifacts.read path variant = (.ok content, after) →
    ∃ full place, artifacts.disk.resolve (artifacts.requested path) = .ok full ∧
      isBelow artifacts.root full = true ∧ after.root = artifacts.root ∧
      after.Holds place content ∧
      (isBelow artifacts.root place = true ↔ ¬artifacts.Strays full variant)
  strayed : ∀ full place content, artifacts.contain path = .ok full →
    artifacts.disk.resolve (Path.render (thumbnailLocation full)) = .ok place →
    artifacts.disk.node? place = some (.file content) →
    artifacts.read path .thumbnail = (.ok content, artifacts)
  readDataUrl : ∀ variant text after, artifacts.readDataUrl path variant = (.ok text, after) →
    ∃ content, artifacts.read path variant = (.ok content, after) ∧ text = dataUrl content

/-- A file that is read as it is stands where its path leads to. -/
theorem disclosed_full (canonical : artifacts.disk.Canonical full)
    (found : artifacts.disk.read (Path.render full) = .ok content) :
    artifacts.Holds full content := by
  obtain ⟨place, resolved, holds⟩ := holds_of_read found
  obtain rfl := Disk.eq_of_resolve_render canonical resolved
  exact holds

/-- A read discloses files below the directory only, unless the name of a thumbnail strays. -/
theorem contained (artifacts : Artifacts) (path : String) : Contained artifacts path where
  digest := by
    intro text digested
    obtain ⟨full, accepted, hashed⟩ := bind_eq_ok_iff.1 digested
    obtain ⟨content, found, same⟩ := bind_eq_ok_iff.1 hashed
    obtain ⟨resolved, below⟩ := contain_eq_ok_iff.1 accepted
    have file := Disk.readAt_eq_ok_iff.1 (onDisk_eq_ok_iff.1 found)
    exact ⟨full, content, resolved, below, ⟨Disk.resolve_canonical resolved, file⟩,
      (pure_eq_ok_iff.1 same).symm⟩
  read := by
    intro variant content after done
    simp only [Artifacts.read] at done
    split at done
    · cases done
    · next full accepted =>
      obtain ⟨resolved, below⟩ := contain_eq_ok_iff.1 accepted
      have canonical := Disk.resolve_canonical resolved
      obtain ⟨found, rfl⟩ := Prod.mk.inj done
      rw [onDisk_eq_ok_iff] at found
      have whole (found : artifacts.disk.read (Path.render full) = .ok content)
          (stays : ¬artifacts.Strays full variant) :
          artifacts.Holds full content ∧
            (isBelow artifacts.root full = true ↔ ¬artifacts.Strays full variant) :=
        ⟨disclosed_full canonical found, iff_of_true below stays⟩
      cases variant with
      | full => exact ⟨full, full, resolved, below, rfl, whole found nofun⟩
      | thumbnail =>
        simp only [target] at found ⊢
        split at found
        · next served made =>
          obtain ⟨root, place, disclosed⟩ := disclosed_thumbnail canonical below made found
          exact ⟨full, place, resolved, below, root, disclosed⟩
        · next fault failed =>
          have absent := isThere_of_thumbnailAt_error failed
          exact ⟨full, full, resolved, below, rfl, whole found (not_strays_of_absent absent)⟩
  strayed := fun _ _ _ accepted leads file => read_of_resolve accepted leads file
  readDataUrl := by
    intro variant text after done
    obtain ⟨mapped, rfl⟩ := Prod.mk.inj done
    obtain ⟨content, found, same⟩ := map_eq_ok_iff.1 mapped
    exact ⟨content, Prod.ext found rfl, same.symm⟩

/--
A directory with a file beside it that is named as its thumbnail, and a screenshot in it whose
thumbnail is a link to the outside.
-/
def sampleArtifacts : Artifacts where
  root := ["srv", "artifacts"]
  disk := ⟨[(["srv"], .directory), (["srv", "artifacts"], .directory),
    (["srv", "artifacts.thumb.png"], .file [1]), (["srv", "secret"], .file [2]),
    (["srv", "artifacts", "shot.png"], .file [3]),
    (["srv", "artifacts", "shot.thumb.png"], .link "/srv/secret")]⟩

/-- Both files outside the directory are disclosed. -/
theorem disclosed_sampleArtifacts :
    sampleArtifacts.read "." .thumbnail = (.ok [1], sampleArtifacts) ∧
      sampleArtifacts.read "shot.png" .thumbnail = (.ok [2], sampleArtifacts) ∧
      ∀ place, isBelow sampleArtifacts.root place = true →
        ¬sampleArtifacts.Holds place [1] ∧ ¬sampleArtifacts.Holds place [2] := by
  have leads (path : String) (pieces : List String) (location : Location)
      (split : Path.pieces path = pieces)
      (proper : '\x00' ∉ path.toList ∧ path.utf8ByteSize < Disk.pathLimit ∧ path.isEmpty = false)
      (walks : sampleArtifacts.disk.walk Disk.linkLimit [] pieces = .ok location) :
      sampleArtifacts.disk.resolve path = .ok location := by
    obtain ⟨clean, short, filled⟩ := proper
    refine Disk.resolve_eq_ok_iff.2 ⟨filled, ?_, short, split ▸ walks⟩
    rw [String.contains_char_eq, decide_eq_false clean]
  have root : sampleArtifacts.contain "." = .ok ["srv", "artifacts"] := by
    refine contain_eq_ok_iff.2
      ⟨leads _ ["", "srv", "artifacts", "."] _ (by decide) (by decide) ?_, by decide⟩
    simp [Disk.walk, Disk.isDirectory, Disk.node?, sampleArtifacts, Disk.nameLimit]
    rfl
  have beside : sampleArtifacts.disk.resolve
      (Path.render (thumbnailLocation ["srv", "artifacts"])) =
        .ok ["srv", "artifacts.thumb.png"] := by
    refine leads _ ["", "srv", "artifacts.thumb.png"] _ (by decide) (by decide) ?_
    simp [Disk.walk, Disk.isDirectory, Disk.node?, sampleArtifacts, Disk.nameLimit]
    rfl
  have shot : sampleArtifacts.contain "shot.png" = .ok ["srv", "artifacts", "shot.png"] := by
    refine contain_eq_ok_iff.2
      ⟨leads _ ["", "srv", "artifacts", "shot.png"] _ (by decide) (by decide) ?_, by decide⟩
    simp [Disk.walk, Disk.isDirectory, Disk.node?, sampleArtifacts, Disk.nameLimit]
    rfl
  have linked : sampleArtifacts.disk.resolve
      (Path.render (thumbnailLocation ["srv", "artifacts", "shot.png"])) =
        .ok ["srv", "secret"] := by
    have target : Path.pieces "/srv/secret" = ["", "srv", "secret"] := by decide
    have absolute : Path.isAbsolute "/srv/secret" = true := by decide
    refine leads _ ["", "srv", "artifacts", "shot.thumb.png"] _ (by decide) (by decide) ?_
    simp [Disk.walk, Disk.isDirectory, Disk.node?, sampleArtifacts, Disk.nameLimit,
      Disk.linkLimit, target, absolute]
    rfl
  refine ⟨read_of_resolve root beside (by decide), read_of_resolve shot linked (by decide),
    fun place below => ?_⟩
  have inside : ∀ entry ∈ sampleArtifacts.disk.entries,
      isBelow sampleArtifacts.root entry.1 = true →
        entry.2 ≠ .file [1] ∧ entry.2 ≠ .file [2] := by decide
  have stored (content : Bytes) (holds : sampleArtifacts.Holds place content) :
      (place, .file content) ∈ sampleArtifacts.disk.entries := by
    refine Disk.mem_entries_of_node? ?_ holds.file
    rintro rfl
    exact absurd below (by decide)
  exact ⟨fun holds => (inside _ (stored _ holds) below).1 rfl,
    fun holds => (inside _ (stored _ holds) below).2 rfl⟩

end Reads

end Artifacts

end StepRunner
