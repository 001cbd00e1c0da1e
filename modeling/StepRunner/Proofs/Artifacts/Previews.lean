import StepRunner.Proofs.Artifacts.Answers

/-!
This file shows what the thumbnails of pictures are made of.
In the directory of a run stand the pictures of its steps, their thumbnails, and nothing else.
So a thumbnail is made by a request that leads to its picture, and by no other one.
-/

namespace StepRunner.Artifacts

open StepRunner.Path (Location Plain)

/-- The thumbnail of a picture, unless the picture cannot be decoded. -/
def preview? (picture : Bytes) : Option Bytes :=
  (Png.decode? picture).map fun raster => Png.encode raster.thumbnail

/-- The thumbnail of a picture, or the picture itself when it cannot be decoded. -/
def preview (picture : Bytes) : Bytes := (preview? picture).getD picture

/-- The location of the thumbnail of a step. -/
def thumbnailOf (artifacts : Artifacts) (runId stepId : String) : Location :=
  artifacts.runDirectory runId ++ [stepId ++ thumbnailEnding]

/-- The name of the thumbnail of a step is no longer than a disk takes. -/
def FitsThumbnail (stepId : String) : Prop :=
  (stepId ++ thumbnailEnding).utf8ByteSize ≤ Disk.nameLimit

instance (stepId : String) : Decidable (FitsThumbnail stepId) :=
  inferInstanceAs (Decidable (_ ≤ _))

/-- A picture or a thumbnail of a step is stored under a name. -/
structure Label (name : String) (node : Node) : Prop where
  step : ∃ stepId, isKey stepId = true ∧
    (name = stepId ++ ".png" ∨ name = stepId ++ thumbnailEnding)
  short : name.utf8ByteSize ≤ Disk.nameLimit
  file : ∃ content, node = .file content

/-- In the directories of the runs stand pictures of steps, their thumbnails, and nothing else. -/
def Labelled (artifacts : Artifacts) : Prop :=
  ∀ runId name node, artifacts.disk.node? (artifacts.runDirectory runId ++ [name]) = some node →
    Label name node

/-- The screenshots are stocked as a shelf, and only thumbnails stand beside its pictures. -/
structure Album (artifacts : Artifacts) (shelf : Shelf) : Prop where
  stocked : artifacts.Stocked shelf
  labelled : artifacts.Labelled

variable {artifacts after : Artifacts} {shelf : Shelf} {runId stepId path : String}
  {content picture little : Bytes}

section Names

/-- The last point in the name of a picture is the one before its ending. -/
theorem picture_split (stepId : String) :
    (stepId ++ ".png").toList.reverse.dropWhile (· != '.') = '.' :: stepId.toList.reverse ∧
      (stepId ++ ".png").toList.reverse.takeWhile (· != '.') = "gnp".toList := by
  have backwards : (stepId ++ ".png").toList.reverse =
      'g' :: 'n' :: 'p' :: '.' :: stepId.toList.reverse := by
    simp
  rw [backwards]
  exact ⟨rfl, rfl⟩

theorem reverse_ne_nil_of_isKey (key : isKey stepId = true) : stepId.toList.reverse ≠ [] := by
  intro empty
  rw [List.reverse_eq_nil_iff, String.toList_eq_nil_iff] at empty
  simp [isKey, empty] at key

theorem stem_picture (key : isKey stepId = true) : Path.stem (stepId ++ ".png") = stepId := by
  have filled := reverse_ne_nil_of_isKey key
  simp only [Path.stem, (picture_split stepId).1, List.reverse_reverse, String.ofList_toList]

theorem extension?_picture (key : isKey stepId = true) :
    Path.extension? (stepId ++ ".png") = some "png" := by
  have filled := reverse_ne_nil_of_isKey key
  simp only [Path.extension?, picture_split stepId]
  rfl

theorem thumbnailName_picture (key : isKey stepId = true) :
    thumbnailName (stepId ++ ".png") = stepId ++ thumbnailEnding := by
  unfold thumbnailName
  split
  · next ends =>
    obtain ⟨front, found⟩ := Option.isSome_iff_exists.1 ends
    exact absurd (Text.dropSuffix?_eq_some_iff.1 found) (toList_picture_ne key front)
  · rw [stem_picture key]

theorem thumbnailName_thumbnail (stepId : String) :
    thumbnailName (stepId ++ thumbnailEnding) = stepId ++ thumbnailEnding := by
  have ends : Text.dropSuffix? thumbnailEnding.toList (stepId ++ thumbnailEnding).toList =
      some stepId.toList := Text.dropSuffix?_eq_some_iff.2 String.toList_append
  rw [thumbnailName, ends]
  rfl

theorem plain_thumbnail (key : isKey stepId = true) : Plain (stepId ++ thumbnailEnding) :=
  Path.plain_append (plain_of_isKey key).slashFree (fun slash => absurd slash (by decide))
    (by decide)

theorem thumbnailLocation_location (artifacts : Artifacts) (runId : String)
    (key : isKey stepId = true) :
    thumbnailLocation (artifacts.location runId stepId) = artifacts.thumbnailOf runId stepId := by
  rw [location_eq, thumbnailLocation_append, thumbnailName_picture key, thumbnailOf]

theorem thumbnailOf_ne_nil (artifacts : Artifacts) (runId stepId : String) :
    artifacts.thumbnailOf runId stepId ≠ [] :=
  List.append_ne_nil_of_right_ne_nil _ (List.cons_ne_nil _ _)

theorem location_ne_thumbnailOf (key : isKey stepId = true) (run other last : String) :
    artifacts.location run stepId ≠ artifacts.thumbnailOf other last := by
  rw [thumbnailOf, ← thumbnailName_thumbnail]
  exact location_ne_thumbnail key _ _

/-- What has a thumbnail of a name is a picture or a thumbnail itself. -/
theorem Label.thumbnail {name : String} {node : Node} (label : Label name node)
    (content : Bytes) (short : (thumbnailName name).utf8ByteSize ≤ Disk.nameLimit) :
    Label (thumbnailName name) (.file content) := by
  obtain ⟨stepId, key, rfl | rfl⟩ := label.step
  · exact ⟨⟨stepId, key, .inr (thumbnailName_picture key)⟩, short, content, rfl⟩
  · exact ⟨⟨stepId, key, .inr (thumbnailName_thumbnail stepId)⟩, short, content, rfl⟩

/-- A thumbnail of a step belongs to the picture of the step. -/
theorem Label.eq_picture {name : String} {node : Node} (label : Label name node)
    (other : name ≠ thumbnailName name) (same : thumbnailName name = stepId ++ thumbnailEnding) :
    name = stepId ++ ".png" := by
  obtain ⟨last, key, rfl | rfl⟩ := label.step
  · rw [thumbnailName_picture key, String.append_left_inj] at same
    rw [same]
  · exact absurd (thumbnailName_thumbnail last).symm other

end Names

section Keeping

theorem Labelled.put {place : Location} {node : Node} (labelled : artifacts.Labelled)
    (label : ∀ runId name, artifacts.runDirectory runId ++ [name] = place → Label name node) :
    Labelled { artifacts with disk := artifacts.disk.put place node } := by
  intro runId name held found
  change (artifacts.disk.put place node).node? (artifacts.runDirectory runId ++ [name]) =
    some held at found
  by_cases here : artifacts.runDirectory runId ++ [name] = place
  · have stored : (artifacts.disk.put place node).node? place = some node :=
      Disk.node?_put_self (here ▸ List.append_ne_nil_of_right_ne_nil _ (List.cons_ne_nil _ _))
    rw [here, stored] at found
    exact Option.some.inj found ▸ label runId name here
  · exact labelled runId name held ((Disk.node?_put_of_ne here).symm.trans found)

theorem Labelled.congr {disk : Disk} (labelled : artifacts.Labelled)
    (same : ∀ runId name, disk.node? (artifacts.runDirectory runId ++ [name]) =
      artifacts.disk.node? (artifacts.runDirectory runId ++ [name])) :
    Labelled { artifacts with disk } :=
  fun runId name node found => labelled runId name node ((same runId name).symm.trans found)

/-- A capture may make the directory of its run, and may put its picture there. -/
theorem Stocked.capture_eq (stocked : artifacts.Stocked shelf) (runId stepId : String)
    (content : Bytes) :
    ∃ disk, (∀ place, place ≠ artifacts.runDirectory runId →
        disk.node? place = artifacts.disk.node? place) ∧
      ((artifacts.capture runId stepId content).2 = { artifacts with disk } ∨
        isKey stepId = true ∧ (stepId ++ ".png").utf8ByteSize ≤ Disk.nameLimit ∧
          (artifacts.capture runId stepId content).2 = { artifacts with
            disk := disk.put (artifacts.location runId stepId) (.file content) }) := by
  obtain ⟨_, same⟩ | ⟨run, step, disk, made, outcome⟩ :=
    artifacts.capture_cases runId stepId content
  · exact ⟨artifacts.disk, fun _ _ => rfl, .inl (congrArg Prod.snd same)⟩
  · obtain ⟨runIds, tidy⟩ := stocked.tidy
    have known : artifacts.Tidy (runId :: runIds) := tidy.mono (List.subset_cons_self _ _)
    obtain ⟨tidy, house⟩ := known.makeDirectories List.mem_cons_self run made
    obtain ⟨again, madeAgain, others, -⟩ :=
      known.makeDirectories_run stocked.ready List.mem_cons_self run house.short
    obtain rfl := Except.ok.inj (made.symm.trans madeAgain)
    refine ⟨disk, others, ?_⟩
    obtain ⟨_, same⟩ | ⟨last, replaced, same⟩ := outcome
    · exact .inl (congrArg Prod.snd same)
    · obtain ⟨rfl, short, -⟩ := Disk.replace_render (house.canonical tidy) house.directory
        (plain_picture step) replaced
      exact .inr ⟨step, short, congrArg Prod.snd same⟩

theorem Album.capture (album : artifacts.Album shelf) (runId stepId : String) (content : Bytes) :
    (artifacts.capture runId stepId content).2.Labelled := by
  obtain ⟨disk, others, outcome⟩ := album.stocked.capture_eq runId stepId content
  have labelled : Labelled { artifacts with disk } :=
    album.labelled.congr fun run name => others _ (artifacts.runDirectory_append_ne run name runId)
  obtain same | ⟨step, short, same⟩ := outcome
  · exact same ▸ labelled
  · rw [same]
    refine labelled.put fun run name here => ?_
    obtain ⟨-, named⟩ := runDirectory_append_inj here
    obtain rfl := List.singleton_inj.1 named
    exact ⟨⟨stepId, step, .inl rfl⟩, short, content, rfl⟩

theorem Labelled.read (labelled : artifacts.Labelled) (path : String) (variant : Variant) :
    (artifacts.read path variant).2.Labelled := by
  obtain same | ⟨place, name, picture, content, disk, canonical, directory, plain, file, replaced,
    same⟩ := artifacts.read_cases path variant
  · rw [same]
    exact labelled
  · obtain ⟨rfl, short, -⟩ :=
      Disk.replace_render canonical directory (plain_thumbnailName plain) replaced
    rw [same]
    refine labelled.put fun runId last here => ?_
    obtain ⟨rfl, named⟩ := List.append_inj' here rfl
    obtain rfl := List.singleton_inj.1 named
    exact (labelled runId name _ file).thumbnail content short

theorem Labelled.purged {removed : List String} (labelled : artifacts.Labelled)
    (purged : artifacts.Purged removed after) : after.Labelled := by
  intro runId name node found
  rw [purged.runDirectory_eq] at found
  by_cases gone : runId ∈ removed
  · have below := Path.isBelow_iff.2 (List.prefix_append (artifacts.runDirectory runId) [name])
    rw [purged.gone runId gone _ below] at found
    cases found
  · exact labelled runId name node ((purged.node?_runDirectory gone [name]).symm.trans found)

/-- The removal of a run takes the files of the run, and no others. -/
theorem Stocked.purged_removeRun (stocked : artifacts.Stocked shelf) (runId : String) :
    artifacts.Purged [runId] (artifacts.perform (.removeRun runId)) := by
  obtain ⟨runIds, tidy⟩ := stocked.tidy
  exact tidy.purged_removeRun runId

theorem Album.perform (album : artifacts.Album shelf) (call : Call) :
    (artifacts.perform call).Album (shelf.perform call) := by
  refine ⟨album.stocked.perform call, ?_⟩
  cases call with
  | capture runId stepId content => exact album.capture runId stepId content
  | thumbnail path =>
    rw [perform_thumbnail]
    exact album.labelled.read path .thumbnail
  | read path variant => exact album.labelled.read path variant
  | digest path => exact album.labelled
  | removeRun runId => exact album.labelled.purged (album.stocked.purged_removeRun runId)

theorem Album.performAll (album : artifacts.Album shelf) (calls : List Call) :
    (artifacts.performAll calls).Album (shelf.performAll calls) := by
  induction calls generalizing artifacts shelf with
  | nil => exact album
  | cons call rest inductionHypothesis => exact inductionHypothesis (album.perform call)

/-- New screenshots are an album without pictures and without thumbnails. -/
theorem album_create {disk : Disk} {path : String} (created : create disk path = .ok artifacts)
    (bare : artifacts.Bare) (roomy : Roomy artifacts.root) :
    artifacts.Album Shelf.empty ∧
      ∀ runId stepId, artifacts.disk.node? (artifacts.thumbnailOf runId stepId) = none := by
  have vacant (runId name : String) (node : Node) :
      artifacts.disk.node? (artifacts.runDirectory runId ++ [name]) ≠ some node := by
    intro found
    rw [runDirectory, List.append_assoc] at found
    obtain ⟨-, runs | tmp⟩ := bare _ node (by simp) found
    · exact absurd (congrArg List.length runs) (by simp)
    · exact absurd (congrArg List.length tmp) (by simp)
  exact ⟨⟨stocked_create created bare roomy, fun runId name node found =>
      absurd found (vacant runId name node)⟩,
    fun runId stepId => Option.eq_none_iff_forall_ne_some.2 (vacant runId _)⟩

end Keeping

section Requests

theorem rendition_picture (key : isKey stepId = true)
    (file : artifacts.disk.node? (artifacts.location runId stepId) = some (.file picture)) :
    rendition artifacts.disk (artifacts.location runId stepId) =
      (preview? picture).elim (.error .image) .ok := by
  have named : (artifacts.location runId stepId).getLast?.bind Path.extension? = some "png" := by
    rw [location_eq, List.getLast?_concat, Option.bind_some, extension?_picture key]
  have ending : (Browser.lowerAscii "png" == "png") = true := by decide
  simp only [rendition, named, ending, if_true, Disk.readAt_eq_ok_iff.2 file, preview?]
  cases Png.decode? picture <;> rfl

/-- A thumbnail that is not there is made of its picture. -/
theorem thumbnailAt_of_absent (key : isKey stepId = true)
    (file : artifacts.disk.node? (artifacts.location runId stepId) = some (.file picture))
    (absent : artifacts.disk.isThere (Path.render (artifacts.thumbnailOf runId stepId)) = false) :
    artifacts.thumbnailAt (artifacts.location runId stepId) =
      (preview? picture).elim (.error .image) fun little =>
        (artifacts.install (artifacts.thumbnailOf runId stepId) little).map fun after =>
          (artifacts.thumbnailOf runId stepId, after) := by
  have other : artifacts.location runId stepId ≠ artifacts.thumbnailOf runId stepId :=
    location_ne_thumbnailOf key runId runId stepId
  simp only [thumbnailAt, thumbnailLocation_location artifacts runId key, other, absent,
    rendition_picture key file]
  cases preview? picture with
  | none => rfl
  | some little =>
    simp only [Option.elim_some]
    show (artifacts.install (artifacts.thumbnailOf runId stepId) little >>= _) = _
    cases artifacts.install (artifacts.thumbnailOf runId stepId) little <;> rfl

/-- There is room for the path of a thumbnail whose name fits. -/
theorem Album.legible_thumbnail (album : artifacts.Album shelf) (house : artifacts.House runId)
    (step : isKey stepId = true) (fits : FitsThumbnail stepId) :
    Legible 0 (artifacts.thumbnailOf runId stepId) := by
  have clean : '\x00' ∉ (stepId ++ thumbnailEnding).toList := by
    rw [String.toList_append, List.mem_append]
    exact not_or.2 ⟨nulFree_of_isKey step, by decide⟩
  refine ((album.stocked.roomy.runDirectory house.key house.short).mono ?_).child clean
  have short : (stepId ++ thumbnailEnding).utf8ByteSize ≤ Disk.nameLimit := fits
  omega

/-- The path of a thumbnail leads to the thumbnail, if it is there. -/
theorem Album.resolve_thumbnail (album : artifacts.Album shelf) (step : isKey stepId = true)
    {node : Node} (found : artifacts.disk.node? (artifacts.thumbnailOf runId stepId) = some node) :
    artifacts.disk.resolve (Path.render (artifacts.thumbnailOf runId stepId)) =
      .ok (artifacts.thumbnailOf runId stepId) := by
  obtain ⟨runIds, tidy⟩ := album.stocked.tidy
  have house := (tidy.housed runId [stepId ++ thumbnailEnding] (by
    rw [← thumbnailOf, found, Option.isSome_some])).2
  have label := album.labelled runId _ node found
  have real : ∀ target, node ≠ .link target := by
    obtain ⟨content, rfl⟩ := label.file
    exact fun target linked => by cases linked
  have legible := album.legible_thumbnail house step label.short
  exact Disk.resolve_render
    (.child (house.canonical tidy) house.directory (plain_thumbnail step) label.short found real)
    legible.clean legible.short

theorem Album.isThere_thumbnail (album : artifacts.Album shelf) (house : artifacts.House runId)
    (step : isKey stepId = true)
    (missing : artifacts.disk.node? (artifacts.thumbnailOf runId stepId) = none) :
    artifacts.disk.isThere (Path.render (artifacts.thumbnailOf runId stepId)) = false := by
  obtain ⟨runIds, tidy⟩ := album.stocked.tidy
  exact Disk.isThere_render_of_missing (house.canonical tidy) house.directory
    (plain_thumbnail step) missing (List.forall_mem_nil _)

/-- A request asks for the thumbnail of a step. -/
def Asks (artifacts : Artifacts) (call : Call) (runId stepId : String) : Prop :=
  ∃ path, (call = .thumbnail path ∨ call = .read path .thumbnail) ∧
    artifacts.contain path = .ok (artifacts.location runId stepId)

/-- A thumbnail of a step can be made of the picture that stands there, and is not there yet. -/
structure Unmade (artifacts : Artifacts) (runId stepId : String) (picture : Bytes) : Prop where
  file : artifacts.disk.node? (artifacts.location runId stepId) = some (.file picture)
  missing : artifacts.disk.node? (artifacts.thumbnailOf runId stepId) = none
  decodes : (preview? picture).isSome = true
  fits : FitsThumbnail stepId

/-- A request makes the thumbnail of a step, and it makes it of a picture. -/
structure Makes (artifacts : Artifacts) (call : Call) (runId stepId : String) (picture : Bytes) :
    Prop where
  asks : artifacts.Asks call runId stepId
  unmade : artifacts.Unmade runId stepId picture

/-- A thumbnail that is there is served, whatever the picture is. -/
theorem Album.read_kept (album : artifacts.Album shelf) (step : isKey stepId = true)
    (leads : artifacts.contain path = .ok (artifacts.location runId stepId))
    (there : artifacts.disk.node? (artifacts.thumbnailOf runId stepId) = some (.file little)) :
    artifacts.read path .thumbnail = (.ok little, artifacts) := by
  have resolved := album.resolve_thumbnail step there
  rw [← thumbnailLocation_location artifacts runId step] at resolved there
  exact read_of_resolve leads resolved there

/-- A thumbnail that can be made is made of the picture and served. -/
theorem Album.read_made (album : artifacts.Album shelf) (step : isKey stepId = true)
    (leads : artifacts.contain path = .ok (artifacts.location runId stepId))
    (unmade : artifacts.Unmade runId stepId picture) :
    artifacts.read path .thumbnail =
      (.ok (preview picture), { artifacts with
        disk := artifacts.disk.put (artifacts.thumbnailOf runId stepId)
          (.file (preview picture)) }) := by
  obtain ⟨runIds, tidy⟩ := album.stocked.tidy
  have house := (tidy.housed runId [stepId ++ ".png"] (by
    rw [← location_eq, unmade.file, Option.isSome_some])).2
  have plain := plain_thumbnail step
  have legible := album.legible_thumbnail house step unmade.fits
  obtain ⟨little, decoded⟩ := Option.isSome_iff_exists.1 unmade.decodes
  have same : preview picture = little := by rw [preview, decoded, Option.getD_some]
  have vacant : artifacts.disk.isDirectory (artifacts.thumbnailOf runId stepId) = false := by
    rw [Disk.isDirectory, unmade.missing]
    rfl
  have replaced := house.replace_eq tidy plain unmade.fits ⟨legible.clean, legible.short⟩ vacant
    little
  have installed := album.stocked.ready.install_of_replace replaced
  have readable := Disk.read_of_replace (house.canonical tidy) house.directory plain replaced
  have absent := album.isThere_thumbnail house step unmade.missing
  have made := thumbnailAt_of_absent step unmade.file absent
  rw [decoded, Option.elim_some, thumbnailOf, installed] at made
  simp only [Artifacts.read, leads, target, made, Except.map, onDisk_eq_ok_iff.2 readable, same,
    thumbnailOf]

/-- A picture whose thumbnail can neither be found nor made is served itself. -/
theorem Album.read_unable (album : artifacts.Album shelf) (run : isKey runId = true)
    (step : isKey stepId = true)
    (leads : artifacts.contain path = .ok (artifacts.location runId stepId))
    (file : artifacts.disk.node? (artifacts.location runId stepId) = some (.file picture))
    (missing : artifacts.disk.node? (artifacts.thumbnailOf runId stepId) = none)
    (unable : ¬((preview? picture).isSome = true ∧ FitsThumbnail stepId)) :
    artifacts.read path .thumbnail = (.ok picture, artifacts) := by
  obtain ⟨runIds, tidy⟩ := album.stocked.tidy
  have house := (tidy.housed runId [stepId ++ ".png"] (by
    rw [← location_eq, file, Option.isSome_some])).2
  have absent := album.isThere_thumbnail house step missing
  have failed : ∃ fault,
      artifacts.thumbnailAt (artifacts.location runId stepId) = .error fault := by
    rw [thumbnailAt_of_absent step file absent]
    cases decoded : preview? picture with
    | none => exact ⟨.image, rfl⟩
    | some little =>
      cases installed : artifacts.install (artifacts.thumbnailOf runId stepId) little with
      | error fault => exact ⟨fault, by simp [installed, Except.map]⟩
      | ok after =>
        -- A thumbnail that is installed has a name that fits.
        obtain ⟨-, disk, replaced, -⟩ := install_eq installed
        obtain ⟨-, fits, -⟩ := Disk.replace_render (house.canonical tidy) house.directory
          (plain_thumbnail step) replaced
        exact absurd ⟨by rw [decoded, Option.isSome_some], fits⟩ unable
  obtain ⟨fault, failed⟩ := failed
  have shelved : shelf runId stepId ≠ none := by
    intro empty
    have place := album.stocked.filled runId stepId run step
    rw [empty, file] at place
    cases place
  have fits := (album.stocked.fits runId stepId shelved).2.2
  have placeable := album.stocked.roomy.placeable run step fits
  obtain ⟨-, resolved⟩ := placeable.contain_picture tidy file
  have readable : artifacts.disk.read (Path.render (artifacts.location runId stepId)) =
      .ok picture := by
    simp [Disk.read, resolved, Except.bind, Disk.readAt_eq_ok_iff.2 file]
  simp only [Artifacts.read, leads, target, failed, onDisk_eq_ok_iff.2 readable]

/-- A thumbnail is handed out as its own thumbnail. -/
theorem thumbnailAt_self {full : Location} (itself : full = thumbnailLocation full) :
    artifacts.thumbnailAt full = .ok (thumbnailLocation full, artifacts) := by
  rw [thumbnailAt, if_pos (by simp [← itself])]
  rfl

/-- A read changes nothing, or it makes a thumbnail of the file that its path leads to. -/
theorem read_eq_or_made (artifacts : Artifacts) (path : String) (variant : Variant) :
    (artifacts.read path variant).2 = artifacts ∨ ∃ place name content,
      artifacts.contain path = .ok (place ++ [name]) ∧ variant = .thumbnail ∧
        name ≠ thumbnailName name ∧
        (∃ picture, artifacts.disk.node? (place ++ [name]) = some (.file picture)) ∧
        (artifacts.read path variant).2 = { artifacts with
          disk := artifacts.disk.put (place ++ [thumbnailName name]) (.file content) } := by
  unfold Artifacts.read
  split
  · exact .inl rfl
  · next full accepted =>
    have canonical := Disk.resolve_canonical (contain_eq_ok_iff.1 accepted).1
    cases variant with
    | full => exact .inl rfl
    | thumbnail =>
      by_cases itself : full = thumbnailLocation full
      · exact .inl (by simp only [target, thumbnailAt_self itself])
      simp only [target]
      split
      · next found served =>
        obtain ⟨location, after⟩ := found
        obtain ⟨rfl, rfl | ⟨-, ⟨picture, file⟩, content, installed⟩⟩ := thumbnailAt_eq served
        · exact .inl rfl
        · obtain ⟨-, disk, replaced, rfl⟩ := install_eq installed
          cases canonical with
          | root => simp [Disk.node?] at file
          | @child place name _ parent directory plain =>
            rw [thumbnailLocation_append] at replaced itself
            obtain ⟨rfl, -, -⟩ :=
              Disk.replace_render parent directory (plain_thumbnailName plain) replaced
            exact .inr ⟨place, name, content, accepted, trivial,
              fun same => itself (by rw [← same]), ⟨picture, file⟩, rfl⟩
      · exact .inl rfl

/-- A read of anything but the thumbnail of a step leaves the thumbnail of the step alone. -/
theorem Labelled.node?_read (labelled : artifacts.Labelled) {variant : Variant}
    (elsewhere : variant = .thumbnail →
      artifacts.contain path ≠ .ok (artifacts.location runId stepId)) :
    (artifacts.read path variant).2.disk.node? (artifacts.thumbnailOf runId stepId) =
      artifacts.disk.node? (artifacts.thumbnailOf runId stepId) := by
  obtain same | ⟨place, name, content, accepted, rfl, other, ⟨picture, file⟩, same⟩ :=
    artifacts.read_eq_or_made path variant
  · rw [same]
  · rw [same]
    refine Disk.node?_put_of_ne fun here => elsewhere rfl ?_
    obtain ⟨rfl, named⟩ := List.append_inj' here rfl
    have picture := (labelled runId name _ file).eq_picture other (List.singleton_inj.1 named).symm
    rw [accepted, location_eq, picture]

/-- The picture of a step is there when a path leads to it. -/
theorem Album.exists_picture (album : artifacts.Album shelf) (run : isKey runId = true)
    (step : isKey stepId = true)
    (leads : artifacts.contain path = .ok (artifacts.location runId stepId)) :
    ∃ picture, artifacts.disk.node? (artifacts.location runId stepId) = some (.file picture) := by
  have place := album.stocked.filled runId stepId run step
  have canonical := Disk.resolve_canonical (contain_eq_ok_iff.1 leads).1
  rw [location_eq] at canonical
  obtain ⟨-, -, -, node, found, -⟩ := canonical.last
  rw [← location_eq, place] at found
  obtain ⟨picture, held, -⟩ := Option.map_eq_some_iff.1 found
  exact ⟨picture, by rw [place, held, Option.map_some]⟩

/-- A read of the thumbnail of a step makes the thumbnail if it can be made. -/
theorem Album.node?_read (album : artifacts.Album shelf) (run : isKey runId = true)
    (step : isKey stepId = true) (path : String) {node : Node} :
    (artifacts.read path .thumbnail).2.disk.node? (artifacts.thumbnailOf runId stepId) =
        some node ↔
      (∃ picture, (artifacts.contain path = .ok (artifacts.location runId stepId) ∧
          artifacts.Unmade runId stepId picture) ∧ node = .file (preview picture)) ∨
        artifacts.disk.node? (artifacts.thumbnailOf runId stepId) = some node := by
  by_cases leads : artifacts.contain path = .ok (artifacts.location runId stepId)
  · obtain ⟨picture, file⟩ := album.exists_picture run step leads
    cases there : artifacts.disk.node? (artifacts.thumbnailOf runId stepId) with
    | some stored =>
      obtain ⟨little, rfl⟩ := (album.labelled runId _ stored there).file
      rw [album.read_kept step leads there, there]
      refine ⟨.inr, fun made => made.resolve_left ?_⟩
      rintro ⟨other, ⟨-, unmade⟩, -⟩
      rw [unmade.missing] at there
      cases there
    | none =>
      by_cases able : (preview? picture).isSome = true ∧ FitsThumbnail stepId
      · have unmade : artifacts.Unmade runId stepId picture := ⟨file, there, able.1, able.2⟩
        have stored : (artifacts.disk.put (artifacts.thumbnailOf runId stepId)
            (.file (preview picture))).node? (artifacts.thumbnailOf runId stepId) =
              some (.file (preview picture)) :=
          Disk.node?_put_self (artifacts.thumbnailOf_ne_nil runId stepId)
        rw [album.read_made step leads unmade, stored]
        constructor
        · intro same
          exact .inl ⟨picture, ⟨leads, unmade⟩, (Option.some.inj same).symm⟩
        · rintro (⟨other, ⟨-, made⟩, rfl⟩ | missing)
          · rw [made.file, Option.some.injEq, Node.file.injEq] at file
            rw [file]
          · cases missing
      · rw [album.read_unable run step leads file there able, there]
        refine iff_of_false (by simp) ?_
        rintro (⟨other, ⟨-, made⟩, -⟩ | missing)
        · rw [made.file, Option.some.injEq, Node.file.injEq] at file
          exact able (file ▸ ⟨made.decodes, made.fits⟩)
        · cases missing
  · rw [album.labelled.node?_read fun _ => leads]
    refine ⟨.inr, fun made => made.resolve_left ?_⟩
    rintro ⟨other, ⟨found, -⟩, -⟩
    exact leads found

/-- A request for a thumbnail makes the thumbnail of a step whose picture its path leads to. -/
theorem makes_iff {call : Call} (asks : call = .thumbnail path ∨ call = .read path .thumbnail) :
    artifacts.Makes call runId stepId picture ↔
      artifacts.contain path = .ok (artifacts.location runId stepId) ∧
        artifacts.Unmade runId stepId picture := by
  refine ⟨fun makes => ⟨?_, makes.unmade⟩, fun made => ⟨⟨path, asks, made.1⟩, made.2⟩⟩
  obtain ⟨other, same, leads⟩ := makes.asks
  have named : other = path := by
    rcases asks with rfl | rfl <;> rcases same with same | same <;> cases same <;> rfl
  exact named ▸ leads

/-- A request that is not for a thumbnail makes no thumbnail. -/
theorem not_makes {call : Call}
    (other : ∀ path, call ≠ .thumbnail path ∧ call ≠ .read path .thumbnail) :
    ¬artifacts.Makes call runId stepId picture := by
  intro makes
  obtain ⟨path, same | same, -⟩ := makes.asks
  · exact (other path).1 same
  · exact (other path).2 same

/-- The thumbnail of a step is there when it was just made, or when it was there and is kept. -/
theorem Album.node?_perform (album : artifacts.Album shelf) (run : isKey runId = true)
    (step : isKey stepId = true) (call : Call) {node : Node} :
    (artifacts.perform call).disk.node? (artifacts.thumbnailOf runId stepId) = some node ↔
      (∃ picture, artifacts.Makes call runId stepId picture ∧ node = .file (preview picture)) ∨
        artifacts.disk.node? (artifacts.thumbnailOf runId stepId) = some node ∧
          call ≠ .removeRun runId := by
  cases call with
  | capture other last content =>
    obtain ⟨disk, others, outcome⟩ := album.stocked.capture_eq other last content
    have kept : disk.node? (artifacts.thumbnailOf runId stepId) =
        artifacts.disk.node? (artifacts.thumbnailOf runId stepId) :=
      others _ (artifacts.runDirectory_append_ne runId _ other)
    have same : (artifacts.capture other last content).2.disk.node?
        (artifacts.thumbnailOf runId stepId) =
          artifacts.disk.node? (artifacts.thumbnailOf runId stepId) := by
      obtain refused | ⟨key, -, stored⟩ := outcome
      · rw [refused, kept]
      · rw [stored, ← kept]
        exact Disk.node?_put_of_ne (location_ne_thumbnailOf key other runId stepId).symm
    simp [Artifacts.perform, same, not_makes]
  | thumbnail path =>
    rw [perform_thumbnail, album.node?_read run step path]
    simp [makes_iff (.inl rfl)]
  | read path variant =>
    cases variant with
    | full =>
      have same : (artifacts.read path .full).2.disk.node? (artifacts.thumbnailOf runId stepId) =
          artifacts.disk.node? (artifacts.thumbnailOf runId stepId) :=
        album.labelled.node?_read (by simp)
      simp [Artifacts.perform, same, not_makes]
    | thumbnail =>
      rw [Artifacts.perform, album.node?_read run step path]
      simp [makes_iff (.inr rfl)]
  | digest path => simp [Artifacts.perform, not_makes]
  | removeRun other =>
    have purged := album.stocked.purged_removeRun other
    by_cases same : other = runId
    · subst same
      have below := Path.isBelow_iff.2
        (List.prefix_append (artifacts.runDirectory other) [stepId ++ thumbnailEnding])
      rw [thumbnailOf, purged.gone other (List.mem_singleton_self other) _ below]
      simp [not_makes]
    · rw [thumbnailOf, purged.node?_runDirectory (by simpa using Ne.symm same)]
      simp [not_makes, same]

end Requests

end StepRunner.Artifacts
