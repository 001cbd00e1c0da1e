import StepRunner.Proofs.Artifacts.Housing
import StepRunner.Proofs.Store.Soundness

/-!
This file shows that a screenshot that is stored stays as it is.
Captures of other steps, thumbnails and the removal of other runs leave it alone, so it is read
back as it was captured.
-/

namespace StepRunner.Artifacts

open StepRunner.Path (Location Plain isBelow)

variable {artifacts after : Artifacts} {runIds : List String} {runId stepId : String}
  {content : Bytes}

/-- A run or a step has an id that a picture can be named by. -/
structure PictureName (id : String) : Prop where
  key : isKey id = true
  short : (id ++ ".png").utf8ByteSize ≤ Disk.nameLimit

/--
Pictures can be written: the directory for staging is there, a path to a picture is one that the
disk accepts, and no directory is in the way of a picture.
-/
structure Ready (artifacts : Artifacts) : Prop where
  staging : artifacts.disk.Canonical (artifacts.root ++ ["tmp"])
  directory : artifacts.disk.isDirectory (artifacts.root ++ ["tmp"]) = true
  stageable : (Path.render (artifacts.root ++ ["tmp"])).contains '\x00' = false ∧
    (Path.render (artifacts.root ++ ["tmp"])).utf8ByteSize < Disk.pathLimit
  legible : ∀ runId stepId, PictureName runId → PictureName stepId →
    (Path.render (artifacts.location runId stepId)).contains '\x00' = false ∧
      (Path.render (artifacts.location runId stepId)).utf8ByteSize < Disk.pathLimit
  vacant : ∀ runId stepId, artifacts.disk.isDirectory (artifacts.location runId stepId) = false

/-- A picture of a step has a place that the disk accepts. -/
structure Placeable (artifacts : Artifacts) (runId stepId : String) : Prop where
  run : isKey runId = true
  runShort : runId.utf8ByteSize ≤ Disk.nameLimit
  step : isKey stepId = true
  stepShort : (stepId ++ ".png").utf8ByteSize ≤ Disk.nameLimit
  legible : (Path.render (artifacts.location runId stepId)).contains '\x00' = false ∧
    (Path.render (artifacts.location runId stepId)).utf8ByteSize < Disk.pathLimit

section Places

theorem PictureName.dirShort (name : PictureName runId) : runId.utf8ByteSize ≤ Disk.nameLimit := by
  have short := name.short
  rw [String.utf8ByteSize_append] at short
  omega

theorem Ready.placeable (ready : artifacts.Ready) (run : PictureName runId)
    (step : PictureName stepId) : artifacts.Placeable runId stepId :=
  ⟨run.key, run.dirShort, step.key, step.short, ready.legible runId stepId run step⟩

theorem location_eq (artifacts : Artifacts) (runId stepId : String) :
    artifacts.location runId stepId = artifacts.runDirectory runId ++ [stepId ++ ".png"] := rfl

theorem location_inj {other last : String}
    (same : artifacts.location runId stepId = artifacts.location other last) :
    runId = other ∧ stepId = last := by
  obtain ⟨sameRun, named⟩ := runDirectory_append_inj same
  exact ⟨sameRun, by simpa using named⟩

/-- The text of the path of a picture names its run and its step. -/
theorem render_location_inj {other last : String} (canonical : artifacts.disk.Canonical
      (artifacts.location runId stepId))
    (again : artifacts.disk.Canonical (artifacts.location other last))
    (same : Path.render (artifacts.location runId stepId) =
      Path.render (artifacts.location other last)) : runId = other ∧ stepId = last := by
  have names := congrArg Path.names same
  rw [Path.names_render canonical.plain, Path.names_render again.plain] at names
  exact location_inj names

theorem runDirectory_append_ne (artifacts : Artifacts) (runId name other : String) :
    artifacts.runDirectory runId ++ [name] ≠ artifacts.runDirectory other := by
  intro same
  simpa [runDirectory] using congrArg List.length same

theorem location_ne_runDirectory (other : String) :
    artifacts.location runId stepId ≠ artifacts.runDirectory other :=
  artifacts.runDirectory_append_ne runId (stepId ++ ".png") other

theorem thumbnailName_ending (name : String) :
    ∃ front, (thumbnailName name).toList = front ++ thumbnailEnding.toList := by
  unfold thumbnailName
  split
  · next ends =>
    obtain ⟨front, found⟩ := Option.isSome_iff_exists.1 ends
    exact ⟨front, Text.dropSuffix?_eq_some_iff.1 found⟩
  · exact ⟨_, String.toList_append⟩

/-- The name of a picture of a step does not end as the name of a thumbnail does. -/
theorem toList_picture_ne (key : isKey stepId = true) (front : List Char) :
    (stepId ++ ".png").toList ≠ front ++ thumbnailEnding.toList := by
  intro chars
  rw [String.toList_append] at chars
  have split : stepId.toList = front ++ ".thumb".toList := by
    have longer : thumbnailEnding.toList = ".thumb".toList ++ ".png".toList := by decide
    rw [longer, ← List.append_assoc] at chars
    exact List.append_cancel_right chars
  simp only [isKey, Bool.and_eq_true, List.all_eq_true] at key
  exact absurd (key.2 '.' (by simp [split])) (by decide)

/-- No thumbnail has the name of a picture of a step. -/
theorem location_ne_thumbnail (key : isKey stepId = true) (place : Location) (name : String) :
    artifacts.location runId stepId ≠ place ++ [thumbnailName name] := by
  intro same
  obtain ⟨front, ending⟩ := thumbnailName_ending name
  have last := (List.append_inj' same rfl).2
  exact toList_picture_ne key front (ending ▸ congrArg String.toList (List.singleton_inj.1 last))

/-- What is put where no directory stands, and is no directory in the way, leaves all ready. -/
theorem Ready.put {place : Location} {node : Node} (ready : artifacts.Ready)
    (vacant : artifacts.disk.isDirectory place = false)
    (aside : node = .directory → ∀ runId stepId, artifacts.location runId stepId ≠ place)
    (inside : place ≠ []) :
    Ready { artifacts with disk := artifacts.disk.put place node } where
  staging := ready.staging.put ready.directory vacant
  directory := Disk.isDirectory_put vacant ready.directory
  stageable := ready.stageable
  legible := ready.legible
  vacant := by
    intro runId stepId
    by_cases here : artifacts.location runId stepId = place
    · have file : node ≠ .directory := fun same => aside same runId stepId here
      change Disk.isDirectory _ (artifacts.location runId stepId) = false
      rw [here, Disk.isDirectory, Disk.node?_put_self inside]
      simpa using file
    · change Disk.isDirectory _ (artifacts.location runId stepId) = false
      rw [Disk.isDirectory, Disk.node?_put_of_ne here]
      exact ready.vacant runId stepId

end Places

section Captures

/-- A capture files a picture under its run and its step, and leaves all other pictures alone. -/
structure Files (before : Artifacts) (runId stepId : String) (content : Bytes)
    (after : Artifacts) : Prop where
  root : after.root = before.root
  file : after.disk.node? (before.location runId stepId) = some (.file content)
  others : ∀ other last, before.location other last ≠ before.location runId stepId →
    after.disk.node? (before.location other last) = before.disk.node? (before.location other last)
  ready : after.Ready

/-- The directory of a run can be made, and nothing else is made with it. -/
theorem Tidy.makeDirectories_run (tidy : artifacts.Tidy runIds) (ready : artifacts.Ready)
    (known : runId ∈ runIds) (key : isKey runId = true)
    (short : runId.utf8ByteSize ≤ Disk.nameLimit) :
    ∃ disk, artifacts.disk.makeDirectories (Path.render (artifacts.runDirectory runId)) = .ok disk ∧
      (∀ place, place ≠ artifacts.runDirectory runId →
        disk.node? place = artifacts.disk.node? place) ∧
      Ready { artifacts with disk } ∧ Tidy { artifacts with disk } runIds ∧
      House { artifacts with disk } runId := by
  have made := tidy.makeDirectories_eq key
  split at made
  · next present =>
    obtain ⟨tidy, house⟩ := tidy.makeDirectories known key made
    exact ⟨_, made, fun _ _ => rfl, ready, tidy, house⟩
  · next absent =>
    rw [if_neg (not_lt.2 short)] at made
    obtain ⟨tidy, house⟩ := tidy.makeDirectories known key made
    refine ⟨_, made, fun _ => Disk.node?_put_of_ne, ?_, tidy, house⟩
    refine ready.put ?_ (fun _ _ _ => location_ne_runDirectory runId) (by simp [runDirectory])
    simpa [Disk.isDirectory] using fun found => absent (by simp [found])

/-- A file of a plain name takes its place in the directory of a run. -/
theorem House.replace_eq (house : artifacts.House runId) (tidy : artifacts.Tidy runIds)
    {name : String} (plain : Plain name) (short : name.utf8ByteSize ≤ Disk.nameLimit)
    (legible : (Path.render (artifacts.runDirectory runId ++ [name])).contains '\x00' = false ∧
      (Path.render (artifacts.runDirectory runId ++ [name])).utf8ByteSize < Disk.pathLimit)
    (vacant : artifacts.disk.isDirectory (artifacts.runDirectory runId ++ [name]) = false)
    (content : Bytes) :
    artifacts.disk.replace (Path.render (artifacts.runDirectory runId ++ [name])) content =
      .ok (artifacts.disk.put (artifacts.runDirectory runId ++ [name]) (.file content)) :=
  Disk.replace_of_vacant content (house.canonical tidy) house.directory plain legible.1 legible.2
    short vacant

/-- What replaces a file of the disk is installed, as there is a directory for staging. -/
theorem Ready.install_of_replace (ready : artifacts.Ready) {place : Location} {disk : Disk}
    (replaced : artifacts.disk.replace (Path.render place) content = .ok disk) :
    artifacts.install place content = .ok { artifacts with disk } := by
  have staged := Disk.resolve_render ready.staging ready.stageable.1 ready.stageable.2
  simp only [install, bind_eq_ok_iff, refuse_eq_ok_iff, onDisk_eq_ok_iff, pure_eq_ok_iff]
  exact ⟨_, staged, by simp [ready.directory], _, replaced, rfl⟩

/-- A picture that is ready to be put beside those of its run is put there. -/
theorem Ready.install_eq (ready : artifacts.Ready) (tidy : artifacts.Tidy runIds)
    (house : artifacts.House runId) (placeable : artifacts.Placeable runId stepId)
    (content : Bytes) :
    artifacts.install (artifacts.location runId stepId) content =
      .ok { artifacts with
        disk := artifacts.disk.put (artifacts.location runId stepId) (.file content) } :=
  ready.install_of_replace <| house.replace_eq tidy (plain_picture placeable.step)
    placeable.stepShort placeable.legible (ready.vacant runId stepId) content

/-- A screenshot that is not empty is stored. -/
theorem Ready.capture_filled (ready : artifacts.Ready) (tidy : artifacts.Tidy runIds)
    (known : runId ∈ runIds) (placeable : artifacts.Placeable runId stepId)
    (filled : content ≠ []) :
    (artifacts.capture runId stepId content).1 =
        .ok (Path.render (artifacts.location runId stepId)) ∧
      artifacts.Files runId stepId content (artifacts.capture runId stepId content).2 := by
  have checked : checkCapture runId stepId content = .ok () := by
    simp [checkCapture, checkKey_of_isKey placeable.run, checkKey_of_isKey placeable.step, filled,
      bind, Except.bind, pure, Except.pure]
  obtain ⟨disk, made, others, ready, tidy, house⟩ :=
    tidy.makeDirectories_run ready known placeable.run placeable.runShort
  have same : Placeable { artifacts with disk } runId stepId :=
    { run := placeable.run, runShort := placeable.runShort, step := placeable.step,
      stepShort := placeable.stepShort, legible := placeable.legible }
  have installed := ready.install_eq tidy house same content
  have captured : artifacts.capture runId stepId content =
      (.ok (Path.render (artifacts.location runId stepId)),
        { artifacts with
          disk := disk.put (artifacts.location runId stepId) (.file content) }) := by
    simp only [capture, checked, made]
    rw [show artifacts.location runId stepId =
      location { artifacts with disk } runId stepId from rfl, installed]
  rw [captured]
  have inside : artifacts.location runId stepId ≠ [] := by simp [location]
  refine ⟨rfl, rfl, Disk.node?_put_self inside, fun other last different => ?_, ?_⟩
  · exact (Disk.node?_put_of_ne different).trans (others _ (location_ne_runDirectory runId))
  · exact ready.put (ready.vacant runId stepId) nofun inside

/-- A screenshot without content is not stored. -/
theorem capture_empty (artifacts : Artifacts) (runId stepId : String) :
    (artifacts.capture runId stepId []).1.toOption = none ∧
      (artifacts.capture runId stepId []).2 = artifacts := by
  have refused : ∃ error, checkCapture runId stepId [] = .error error := by
    by_cases run : isKey runId = true <;> by_cases step : isKey stepId = true <;>
      simp [checkCapture, checkKey, run, step, bind, Except.bind, throw, throwThe,
        MonadExceptOf.throw]
  obtain ⟨error, refused⟩ := refused
  simp [capture, refused, Except.toOption]

end Captures

section Frames

/-- A read leaves every picture of a step alone. -/
theorem node?_read (key : isKey stepId = true) (path : String) (variant : Variant) :
    (artifacts.read path variant).2.disk.node? (artifacts.location runId stepId) =
      artifacts.disk.node? (artifacts.location runId stepId) := by
  obtain same | ⟨place, name, picture, content, disk, canonical, directory, plain, -, replaced,
    same⟩ := artifacts.read_cases path variant
  · rw [same]
  · obtain ⟨rfl, -, -⟩ :=
      Disk.replace_render canonical directory (plain_thumbnailName plain) replaced
    rw [same]
    exact Disk.node?_put_of_ne (location_ne_thumbnail key place name)

theorem Ready.read (ready : artifacts.Ready) (path : String) (variant : Variant) :
    (artifacts.read path variant).2.Ready := by
  obtain same | ⟨place, name, picture, content, disk, canonical, directory, plain, -, replaced,
    same⟩ := artifacts.read_cases path variant
  · rw [same]
    exact ready
  · obtain ⟨rfl, -, vacant⟩ :=
      Disk.replace_render canonical directory (plain_thumbnailName plain) replaced
    rw [same]
    exact ready.put vacant nofun (by simp)

theorem Ready.purged {removed : List String} (ready : artifacts.Ready)
    (purged : artifacts.Purged removed after) : after.Ready := by
  have aside (place : Location) (onWay : place <+: artifacts.root ++ ["tmp"]) :
      after.disk.node? place = artifacts.disk.node? place := by
    refine purged.kept place fun runId _ => Bool.eq_false_iff.2 fun below => ?_
    have longer := ((Path.isBelow_iff.1 below).trans onWay).length_le
    simp [runDirectory] at longer
  have same (runId stepId : String) :
      after.location runId stepId = artifacts.location runId stepId := by
    rw [location_eq, location_eq, purged.runDirectory_eq]
  refine ⟨?_, ?_, ?_, fun runId stepId => ?_, fun runId stepId => ?_⟩
  · rw [purged.root]
    exact ready.staging.congr aside
  · rw [purged.root, Disk.isDirectory, aside _ (List.prefix_refl _)]
    exact ready.directory
  · rw [purged.root]
    exact ready.stageable
  · rw [same]
    exact ready.legible runId stepId
  · rw [same, Disk.isDirectory]
    by_cases among : runId ∈ removed
    · have below := Path.isBelow_iff.2 (List.prefix_append (artifacts.runDirectory runId)
        [stepId ++ ".png"])
      rw [location_eq, purged.gone runId among _ below]
      rfl
    · rw [location_eq, purged.node?_runDirectory among]
      exact ready.vacant runId stepId

end Frames

section Reads

/-- A picture stands at a canonical location. -/
theorem Tidy.canonical_picture (tidy : artifacts.Tidy runIds) (key : isKey stepId = true)
    (short : (stepId ++ ".png").utf8ByteSize ≤ Disk.nameLimit)
    (file : artifacts.disk.node? (artifacts.location runId stepId) = some (.file content)) :
    artifacts.disk.Canonical (artifacts.location runId stepId) := by
  rw [location_eq] at file ⊢
  obtain ⟨-, house⟩ := tidy.housed runId [stepId ++ ".png"] (by simp [file])
  exact .child (house.canonical tidy) house.directory (plain_picture key) short file nofun

/-- A picture that stands in its place is served as it is. -/
theorem Placeable.contain_picture (placeable : artifacts.Placeable runId stepId)
    (tidy : artifacts.Tidy runIds)
    (file : artifacts.disk.node? (artifacts.location runId stepId) = some (.file content)) :
    artifacts.contain (Path.render (artifacts.location runId stepId)) =
        .ok (artifacts.location runId stepId) ∧
      artifacts.disk.resolve (Path.render (artifacts.location runId stepId)) =
        .ok (artifacts.location runId stepId) := by
  have canonical := tidy.canonical_picture placeable.step placeable.stepShort file
  obtain ⟨clean, short⟩ := placeable.legible
  have resolved := Disk.resolve_render canonical clean short
  have absolute : artifacts.requested (Path.render (artifacts.location runId stepId)) =
      Path.render (artifacts.location runId stepId) := by
    simp [requested, Path.join, Path.isAbsolute, Path.render]
  refine ⟨contain_eq_ok_iff.2 ⟨?_, Path.isBelow_iff.2 ?_⟩, resolved⟩
  · rw [absolute]
    exact resolved
  · simp [location, runDirectory]

theorem Placeable.read_picture (placeable : artifacts.Placeable runId stepId)
    (tidy : artifacts.Tidy runIds)
    (file : artifacts.disk.node? (artifacts.location runId stepId) = some (.file content)) :
    artifacts.read (Path.render (artifacts.location runId stepId)) .full =
      (.ok content, artifacts) := by
  obtain ⟨accepted, resolved⟩ := placeable.contain_picture tidy file
  have found : artifacts.disk.read (Path.render (artifacts.location runId stepId)) =
      .ok content := by
    simp [Disk.read, resolved, Except.bind, Disk.readAt_eq_ok_iff.2 file]
  simp only [Artifacts.read, accepted, target, onDisk_eq_ok_iff.2 found]

theorem Placeable.digest_picture (placeable : artifacts.Placeable runId stepId)
    (tidy : artifacts.Tidy runIds)
    (file : artifacts.disk.node? (artifacts.location runId stepId) = some (.file content)) :
    artifacts.digest (Path.render (artifacts.location runId stepId)) =
      .ok (Sha256.hex content) := by
  obtain ⟨accepted, -⟩ := placeable.contain_picture tidy file
  have found := onDisk_eq_ok_iff.2 (Disk.readAt_eq_ok_iff.2 file)
  exact bind_eq_ok_iff.2 ⟨_, accepted, bind_eq_ok_iff.2 ⟨_, found, rfl⟩⟩

end Reads

section Names

/-- A character of a key takes one byte. -/
theorem utf8Size_of_isKeyChar {char : Char} (proper : isKeyChar char = true) :
    char.utf8Size = 1 := by
  rw [Char.utf8Size_eq_one_iff]
  have cases : isKeyChar char =
      (char.isUpper || char.isLower || char.isDigit || char == '-' || char == '_') := rfl
  simp only [cases, Bool.or_eq_true, beq_iff_eq] at proper
  rcases proper with (((upper | lower) | digit) | rfl) | rfl
  · exact UInt32.le_trans (of_decide_eq_true upper).2 (by decide)
  · exact UInt32.le_trans (of_decide_eq_true (Bool.and_eq_true_iff.1 lower).2) (by decide)
  · exact UInt32.le_trans (of_decide_eq_true (Bool.and_eq_true_iff.1 digit).2) (by decide)
  · decide
  · decide

theorem utf8ByteSize_ofList {chars : List Char}
    (proper : ∀ char ∈ chars, isKeyChar char = true) :
    (String.ofList chars).utf8ByteSize = chars.length := by
  induction chars with
  | nil => rfl
  | cons char rest inductionHypothesis =>
    obtain ⟨first, others⟩ := List.forall_mem_cons.1 proper
    rw [String.ofList_cons, String.utf8ByteSize_append, String.utf8ByteSize_singleton,
      utf8Size_of_isKeyChar first, inductionHypothesis others, List.length_cons, Nat.add_comm]

theorem isKeyChar_of_mem_toDigits {number : Nat} {digit : Char}
    (present : digit ∈ Nat.toDigits 16 number) : isKeyChar digit = true := by
  obtain ⟨value, small, rfl⟩ := Store.digitChar_of_mem_toDigits present
  interval_cases value <;> decide

/-- A text of few characters that a key may have is a name of pictures. -/
theorem pictureName_ofList {chars : List Char} (filled : chars ≠ [])
    (proper : ∀ char ∈ chars, isKeyChar char = true) (short : chars.length ≤ 251) :
    PictureName (String.ofList chars) where
  key := by
    have some : (String.ofList chars).isEmpty = false := by
      rw [String.isEmpty_eq_false_iff]
      intro empty
      exact filled (by simpa using congrArg String.toList empty)
    simp only [isKey, some, Bool.not_false, Bool.true_and, List.all_eq_true, String.toList_ofList]
    exact proper
  short := by
    have ending : ".png".utf8ByteSize = 4 := by decide
    rw [String.utf8ByteSize_append, utf8ByteSize_ofList proper, ending, Disk.nameLimit]
    omega

/-- The ids that the store hands out are names of pictures, as long as a file name has room. -/
theorem pictureName_idOf {number : Nat} (early : number < 16 ^ 227) :
    PictureName (Store.idOf number) := by
  have digits : (Nat.toDigits 16 number).length ≤ 227 :=
    (Nat.length_toDigits_le_iff (by decide) (by decide)).2 early
  refine pictureName_ofList (List.append_ne_nil_of_right_ne_nil _ Nat.toDigits_ne_nil) ?_ ?_
  · intro char present
    rcases List.mem_append.1 present with front | digit
    · rcases List.mem_append.1 front with head | zero
      · exact List.all_eq_true.1 (by decide) char head
      · obtain ⟨-, rfl⟩ := List.mem_replicate.1 zero
        decide
    · exact isKeyChar_of_mem_toDigits digit
  · have head : "6b0f2d1e-94c7-4a35-b8e1-".toList.length = 24 := by decide
    rw [List.length_append, List.length_append, List.length_replicate, head]
    omega

end Names

end StepRunner.Artifacts
