import StepRunner.Proofs.Artifacts.Previews

/-!
This file shows which picture the thumbnail of a step is made of.
It is the picture that stood there when the thumbnail was asked for the first time since the run was
last removed.
A picture that is taken later takes the place of that picture, but its thumbnail stays.
-/

namespace StepRunner.Artifacts

/-- A picture is the one that the thumbnail of a step was made of since its run was last removed. -/
def Shown (fresh : Artifacts) (calls : List Call) (runId stepId : String) (picture : Bytes) :
    Prop :=
  ∃ early call late, calls = early ++ call :: late ∧
    (fresh.performAll early).Makes call runId stepId picture ∧
      ∀ later ∈ late, later ≠ .removeRun runId

/-- The thumbnail that is served for a step is the one of the picture that is served for it. -/
def Coherent (artifacts : Artifacts) (runId stepId : String) : Prop :=
  ∀ picture, (artifacts.read (artifacts.pathOf runId stepId) .full).1 = .ok picture →
    (artifacts.read (artifacts.pathOf runId stepId) .thumbnail).1 = .ok (preview picture)

/--
What is served for a step: the picture in its place, and as its thumbnail the one of a picture that
the thumbnail shows.
-/
structure Serves (artifacts : Artifacts) (runId stepId : String) (place : Option Bytes)
    (shows : Bytes → Prop) : Prop where
  whole : (artifacts.read (artifacts.pathOf runId stepId) .full).1 =
    place.elim (.error (.notFound (artifacts.pathOf runId stepId))) .ok
  empty : place = none → (artifacts.read (artifacts.pathOf runId stepId) .thumbnail).1 =
    .error (.notFound (artifacts.pathOf runId stepId))
  kept : ∀ picture old, place = some picture → shows old →
    (artifacts.read (artifacts.pathOf runId stepId) .thumbnail).1 = .ok (preview old)
  made : ∀ picture, place = some picture → (∀ old, ¬shows old) →
    (artifacts.read (artifacts.pathOf runId stepId) .thumbnail).1 =
      .ok (if FitsThumbnail stepId then preview picture else picture)

/-- No picture of a step is taken after the thumbnail of the step was asked for. -/
def Unreplaced (fresh : Artifacts) (calls : List Call) (runId stepId : String) : Prop :=
  ∀ early call late, calls = early ++ call :: late →
    (fresh.performAll early).Asks call runId stepId →
      ∀ content, .capture runId stepId content ∉ late

/-- A picture and its thumbnail were served for a step at a time since its run was last removed. -/
def Served (fresh : Artifacts) (calls : List Call) (runId stepId : String) (picture : Bytes) :
    Prop :=
  ∃ early late, calls = early ++ late ∧ (∀ later ∈ late, later ≠ .removeRun runId) ∧
    ((fresh.performAll early).read (fresh.pathOf runId stepId) .full).1 = .ok picture ∧
    ((fresh.performAll early).read (fresh.pathOf runId stepId) .thumbnail).1 = .ok (preview picture)

/--
What new screenshots serve for a step after several requests.
A thumbnail that is made is the one of the picture that is served at that time.
It is coherent exactly as long as the picture in its place has the same one as that picture, and so
it is while no other picture is taken.
-/
structure Portrays (fresh : Artifacts) (calls : List Call) (runId stepId : String) : Prop where
  serves : Serves (fresh.performAll calls) runId stepId
    (Shelf.empty.performAll calls runId stepId) (fresh.Shown calls runId stepId)
  origin : ∀ old, fresh.Shown calls runId stepId old → fresh.Served calls runId stepId old
  coherent_iff : FitsThumbnail stepId → ((fresh.performAll calls).Coherent runId stepId ↔
    ∀ picture old, Shelf.empty.performAll calls runId stepId = some picture →
      fresh.Shown calls runId stepId old → preview old = preview picture)
  steady : FitsThumbnail stepId → fresh.Unreplaced calls runId stepId →
    (fresh.performAll calls).Coherent runId stepId

variable {artifacts fresh : Artifacts} {shelf : Shelf} {runId stepId : String}
  {calls : List Call} {call : Call} {picture content : Bytes}

section Histories

/-- The last request makes the thumbnail, or it leaves the run of the thumbnail. -/
theorem shown_concat_iff : fresh.Shown (calls ++ [call]) runId stepId picture ↔
    (fresh.performAll calls).Makes call runId stepId picture ∨
      fresh.Shown calls runId stepId picture ∧ call ≠ .removeRun runId :=
  exists_split_concat_iff

theorem performAll_concat (artifacts : Artifacts) (calls : List Call) (call : Call) :
    artifacts.performAll (calls ++ [call]) = (artifacts.performAll calls).perform call :=
  List.foldl_concat ..

theorem thumbnailOf_performAll (fresh : Artifacts) (calls : List Call) (runId stepId : String) :
    (fresh.performAll calls).thumbnailOf runId stepId = fresh.thumbnailOf runId stepId := by
  rw [thumbnailOf, runDirectory, fresh.root_performAll calls, thumbnailOf, runDirectory]

/-- The thumbnail of a step is there when it was made of a picture that it still shows. -/
theorem Album.node?_performAll (album : fresh.Album shelf) (run : isKey runId = true)
    (step : isKey stepId = true)
    (bare : fresh.disk.node? (fresh.thumbnailOf runId stepId) = none) {node : Node} :
    (fresh.performAll calls).disk.node? ((fresh.performAll calls).thumbnailOf runId stepId) =
        some node ↔
      ∃ picture, fresh.Shown calls runId stepId picture ∧ node = .file (preview picture) := by
  induction calls using List.reverseRecOn with
  | nil =>
    refine iff_of_false (by simp [Artifacts.performAll, bare]) ?_
    rintro ⟨picture, ⟨early, call, late, whole, -⟩, -⟩
    simp at whole
  | append_singleton calls call inductionHypothesis =>
    rw [thumbnailOf_performAll, ← thumbnailOf_performAll fresh calls, performAll_concat,
      (album.performAll calls).node?_perform run step call, inductionHypothesis]
    simp only [shown_concat_iff, or_and_right, exists_or, exists_and_right, and_right_comm]

/-- A picture that no request takes away lasts. -/
theorem Lasts.append {more : List Call} (lasts : Lasts calls runId stepId content)
    (left : ∀ call ∈ more, Leaves call runId stepId) :
    Lasts (calls ++ more) runId stepId content := by
  obtain ⟨early, late, rfl, proper, fits, kept⟩ := lasts
  exact ⟨early, late ++ more, by simp, proper, fits, List.forall_mem_append.2 ⟨kept, left⟩⟩

end Histories

section Serving

/-- A picture on the shelf is stored, and its path leads to it. -/
theorem Album.leads (album : artifacts.Album shelf) (run : isKey runId = true)
    (step : isKey stepId = true) (held : shelf runId stepId = some picture) :
    artifacts.disk.node? (artifacts.location runId stepId) = some (.file picture) ∧
      artifacts.contain (artifacts.pathOf runId stepId) =
        .ok (artifacts.location runId stepId) := by
  obtain ⟨runIds, tidy⟩ := album.stocked.tidy
  have fits := (album.stocked.fits runId stepId (by simp [held])).2.2
  have file := album.stocked.filled runId stepId run step
  rw [held, Option.map_some] at file
  exact ⟨file, ((album.stocked.roomy.placeable run step fits).contain_picture tidy file).1⟩

/-- What the screenshots of an album serve for a step, given what its thumbnail shows. -/
theorem Album.serves (album : artifacts.Album shelf) (run : isKey runId = true)
    (step : isKey stepId = true) {shows : Bytes → Prop}
    (shown : ∀ node, artifacts.disk.node? (artifacts.thumbnailOf runId stepId) = some node ↔
      ∃ picture, shows picture ∧ node = .file (preview picture)) :
    artifacts.Serves runId stepId (shelf runId stepId) shows := by
  refine ⟨(album.stocked.read_full run step).1, fun empty => ?_, fun picture old held shows => ?_,
    fun picture held blank => ?_⟩
  · have missing := album.stocked.contain_empty run step empty
    simp only [Artifacts.read, missing]
  · have there := (shown _).2 ⟨old, shows, rfl⟩
    rw [album.read_kept step (album.leads run step held).2 there]
  · obtain ⟨file, leads⟩ := album.leads run step held
    have missing : artifacts.disk.node? (artifacts.thumbnailOf runId stepId) = none := by
      refine Option.eq_none_iff_forall_ne_some.2 fun node found => ?_
      obtain ⟨old, shows, -⟩ := (shown node).1 found
      exact blank old shows
    by_cases able : (preview? picture).isSome = true ∧ FitsThumbnail stepId
    · rw [album.read_made step leads ⟨file, missing, able.1, able.2⟩, if_pos able.2]
    · rw [album.read_unable run step leads file missing able]
      split
      · next fits =>
        -- A picture that cannot be decoded stands for its own thumbnail.
        have blind : preview? picture = none :=
          Option.not_isSome_iff_eq_none.1 fun decodes => able ⟨decodes, fits⟩
        rw [preview, blind, Option.getD_none]
      · rfl

/-- A thumbnail is coherent when it is the same as that of the picture that stands there. -/
theorem Serves.coherent_iff {place : Option Bytes} {shows : Bytes → Prop}
    (serves : artifacts.Serves runId stepId place shows) (fits : FitsThumbnail stepId) :
    artifacts.Coherent runId stepId ↔
      ∀ picture old, place = some picture → shows old → preview old = preview picture := by
  constructor
  · intro coherent picture old held shows
    have whole := serves.whole
    rw [held, Option.elim_some] at whole
    have little := coherent picture whole
    rw [serves.kept picture old held shows] at little
    exact Except.ok.inj little
  · intro same picture whole
    have held : place = some picture := by
      rw [serves.whole] at whole
      cases place with
      | none => cases whole
      | some other => rw [Option.elim_some] at whole; rw [Except.ok.inj whole]
    by_cases shown : ∃ old, shows old
    · obtain ⟨old, shows⟩ := shown
      rw [serves.kept picture old held shows, same picture old held shows]
    · rw [serves.made picture held fun old shows => shown ⟨old, shows⟩, if_pos fits]

/-- A thumbnail is made of the picture that stands there. -/
theorem Album.eq_of_makes (album : artifacts.Album shelf) (run : isKey runId = true)
    (step : isKey stepId = true) (makes : artifacts.Makes call runId stepId picture) :
    shelf runId stepId = some picture := by
  have place := album.stocked.filled runId stepId run step
  rw [makes.unmade.file] at place
  obtain ⟨held, stood, same⟩ := Option.map_eq_some_iff.1 place.symm
  rw [stood, Node.file.inj same]

/-- A thumbnail shows a picture that was served when the thumbnail was made. -/
theorem Album.served_of_shown (album : fresh.Album shelf) (run : isKey runId = true)
    (step : isKey stepId = true) (shown : fresh.Shown calls runId stepId picture) :
    fresh.Served calls runId stepId picture := by
  obtain ⟨early, call, late, rfl, makes, kept⟩ := shown
  have before := album.performAll early
  have held := before.eq_of_makes run step makes
  have leads := (before.leads run step held).2
  have whole := (before.stocked.read_full run step).1
  rw [held, Option.elim_some] at whole
  have asks : call ≠ .removeRun runId := by
    obtain ⟨path, rfl | rfl, -⟩ := makes.asks <;> simp
  rw [pathOf_eq (fresh.root_performAll early)] at leads whole
  refine ⟨early, call :: late, rfl, List.forall_mem_cons.2 ⟨asks, kept⟩, whole, ?_⟩
  rw [before.read_made step leads makes.unmade]

/-- A picture that is not replaced is the one that the thumbnail shows. -/
theorem Album.eq_of_shown (album : fresh.Album Shelf.empty) (run : isKey runId = true)
    (step : isKey stepId = true) (unreplaced : fresh.Unreplaced calls runId stepId)
    (shown : fresh.Shown calls runId stepId picture) :
    Shelf.empty.performAll calls runId stepId = some picture := by
  obtain ⟨early, call, late, rfl, makes, kept⟩ := shown
  have lasts := Shelf.performAll_eq_some_iff.1
    ((album.performAll early).eq_of_makes run step makes)
  refine Shelf.performAll_eq_some_iff.2 (lasts.append (List.forall_mem_cons.2 ⟨?_, ?_⟩))
  · obtain ⟨path, rfl | rfl, -⟩ := makes.asks <;> simp [Leaves]
  · intro later among
    refine ⟨kept later among, fun content _ taken => ?_⟩
    exact unreplaced early call late rfl makes.asks content (taken ▸ among)

/--
Whatever is asked of new screenshots, the thumbnail of a step is the one of the picture that stood
there when the thumbnail was made, and of the picture that stands there when it was not made yet.
-/
theorem portrays_performAll {disk : Disk} {path : String} (created : create disk path = .ok fresh)
    (bare : fresh.Bare) (roomy : Roomy fresh.root) (calls : List Call)
    (run : isKey runId = true) (step : isKey stepId = true) :
    fresh.Portrays calls runId stepId := by
  obtain ⟨album, blank⟩ := album_create created bare roomy
  have serves := (album.performAll calls).serves run step fun node =>
    album.node?_performAll run step (blank runId stepId)
  refine ⟨serves, fun old => album.served_of_shown run step, serves.coherent_iff,
    fun fits unreplaced => ?_⟩
  refine (serves.coherent_iff fits).2 fun picture old held shown => ?_
  have stands := album.eq_of_shown run step unreplaced shown
  rw [Option.some.inj (stands.symm.trans held)]

end Serving

section Replacements

/-- The width of a picture is written in its thumbnail, unless the picture is too wide. -/
theorem width_preview {raster : Raster} (decoded : Png.decode? picture = some raster)
    (small : raster.width ≤ Raster.thumbnailWidth) :
    ((preview picture).drop 16).take 4 = Png.wordBytes raster.width := by
  have same : raster.thumbnail = raster := by rw [Raster.thumbnail, if_neg (not_lt.2 small)]
  have kind : "IHDR".toByteArray.toList = [73, 72, 68, 82] := by decide +kernel
  rw [preview, preview?, decoded, Option.map_some, Option.getD_some, same]
  simp [Png.encode, Png.signature, Png.writeChunk, Png.wordBytes, kind]

/-- A grey picture of one place. -/
def narrowPicture : Bytes :=
  [137, 80, 78, 71, 13, 10, 26, 10, 0, 0, 0, 13, 73, 72, 68, 82, 0, 0, 0, 1, 0, 0, 0, 1, 8, 0, 0, 0,
    0, 58, 126, 155, 85, 0, 0, 0, 13, 73, 68, 65, 84, 120, 1, 1, 2, 0, 253, 255, 0, 7, 0, 9, 0, 8,
    185, 172, 134, 135, 0, 0, 0, 0, 73, 69, 78, 68, 174, 66, 96, 130]

/-- A grey picture of two places in a row. -/
def widePicture : Bytes :=
  [137, 80, 78, 71, 13, 10, 26, 10, 0, 0, 0, 13, 73, 72, 68, 82, 0, 0, 0, 2, 0, 0, 0, 1, 8, 0, 0, 0,
    0, 209, 73, 32, 86, 0, 0, 0, 14, 73, 68, 65, 84, 120, 1, 1, 3, 0, 252, 255, 0, 7, 7, 0, 24, 0,
    15, 242, 233, 104, 192, 0, 0, 0, 0, 73, 69, 78, 68, 174, 66, 96, 130]

theorem decoded_narrowPicture :
    ∃ raster, Png.decode? narrowPicture = some raster ∧ raster.width = 1 :=
  Option.map_eq_some_iff.1 (by decide +kernel)

theorem decoded_widePicture :
    ∃ raster, Png.decode? widePicture = some raster ∧ raster.width = 2 :=
  Option.map_eq_some_iff.1 (by decide +kernel)

/-- The two pictures have thumbnails of their own. -/
theorem preview_narrowPicture_ne : preview narrowPicture ≠ preview widePicture := by
  obtain ⟨narrow, decodedNarrow, one⟩ := decoded_narrowPicture
  obtain ⟨wide, decodedWide, two⟩ := decoded_widePicture
  intro same
  have widths := width_preview decodedNarrow (one ▸ by decide)
  rw [same, width_preview decodedWide (two ▸ by decide), one, two] at widths
  exact absurd widths (by decide)

/-- New screenshots in the root of an empty disk. -/
def rootArtifacts : Artifacts where
  root := []
  disk := ⟨[(["runs"], .directory), (["tmp"], .directory)]⟩

theorem roomy_rootArtifacts : Roomy rootArtifacts.root := by
  refine ⟨?_, by decide⟩
  rw [String.contains_char_eq]
  exact decide_eq_false (by decide)

theorem create_rootArtifacts : create {} "/" = .ok rootArtifacts := by
  let half : Disk := ⟨[(["runs"], .directory)]⟩
  have paths : Path.join "/" "runs" = "/runs" ∧ Path.join "/" "tmp" = "/tmp" := by decide +kernel
  have runs : ({} : Disk).makeDirectories "/runs" = .ok half := rfl
  have tmp : half.makeDirectories "/tmp" = .ok rootArtifacts.disk := rfl
  have root : rootArtifacts.disk.resolve "/" = .ok [] :=
    Disk.resolve_render .root roomy_rootArtifacts.clean (by decide)
  simp only [create, paths, bind_eq_ok_iff, onDisk_eq_ok_iff]
  exact ⟨_, runs, _, tmp, _, root, rfl⟩

theorem bare_rootArtifacts : rootArtifacts.Bare := by
  intro rest node below found
  have stored := Disk.mem_entries_of_node? below found
  simpa [rootArtifacts, and_comm, and_or_left] using stored

/-- A picture, its thumbnail, and another picture of the same step. -/
def replacingCalls : List Call :=
  [.capture "run" "step" narrowPicture, .thumbnail (rootArtifacts.pathOf "run" "step"),
    .capture "run" "step" widePicture]

/-- The thumbnail of the first picture is still there when the other one has replaced it. -/
theorem shown_replacingCalls :
    Shelf.empty.performAll replacingCalls "run" "step" = some widePicture ∧
      rootArtifacts.Shown replacingCalls "run" "step" narrowPicture := by
  obtain ⟨album, blank⟩ := album_create create_rootArtifacts bare_rootArtifacts roomy_rootArtifacts
  let first : Call := .capture "run" "step" narrowPicture
  have run : isKey "run" = true := by decide
  have step : isKey "step" = true := by decide
  have taken := album.performAll [first]
  have held : Shelf.empty.performAll [first] "run" "step" = some narrowPicture := by decide +kernel
  obtain ⟨file, leads⟩ := taken.leads run step held
  rw [pathOf_eq (rootArtifacts.root_performAll [first])] at leads
  have missing : (rootArtifacts.performAll [first]).disk.node?
      ((rootArtifacts.performAll [first]).thumbnailOf "run" "step") = none := by
    refine Option.eq_none_iff_forall_ne_some.2 fun node found => ?_
    rw [thumbnailOf_performAll] at found
    obtain ⟨picture, makes, -⟩ | ⟨old, -⟩ := (album.node?_perform run step first).1 found
    · exact not_makes (by simp [first]) makes
    · rw [blank] at old
      cases old
  have decodes : (preview? narrowPicture).isSome = true := by
    obtain ⟨raster, decoded, -⟩ := decoded_narrowPicture
    rw [preview?, decoded, Option.map_some, Option.isSome_some]
  refine ⟨by decide +kernel, [first], _, [.capture "run" "step" widePicture], rfl, ?_, by simp⟩
  exact (makes_iff (.inl rfl)).2 ⟨leads, file, missing, decodes, by decide⟩

/-- After the replacement the picture and its thumbnail are of two pictures. -/
theorem not_coherent_replacingCalls :
    create {} "/" = .ok rootArtifacts ∧ rootArtifacts.Bare ∧ Roomy rootArtifacts.root ∧
      isKey "run" = true ∧ isKey "step" = true ∧ FitsThumbnail "step" ∧
      ¬(rootArtifacts.performAll replacingCalls).Coherent "run" "step" := by
  obtain ⟨album, blank⟩ := album_create create_rootArtifacts bare_rootArtifacts roomy_rootArtifacts
  obtain ⟨held, shown⟩ := shown_replacingCalls
  have serves := (album.performAll replacingCalls).serves (by decide) (by decide) fun node =>
    album.node?_performAll (by decide) (by decide) (blank "run" "step")
  refine ⟨create_rootArtifacts, bare_rootArtifacts, roomy_rootArtifacts, by decide, by decide,
    by decide, fun coherent => ?_⟩
  exact preview_narrowPicture_ne
    ((serves.coherent_iff (by decide)).1 coherent widePicture narrowPicture held shown)

/-- The thumbnail of the first picture is served with the second one. -/
theorem portrays_replacingCalls :
    create {} "/" = .ok rootArtifacts ∧ rootArtifacts.Bare ∧ Roomy rootArtifacts.root ∧
      isKey "run" = true ∧ isKey "step" = true ∧
      Shelf.empty.performAll replacingCalls "run" "step" = some widePicture ∧
      rootArtifacts.Shown replacingCalls "run" "step" narrowPicture ∧
      rootArtifacts.Portrays replacingCalls "run" "step" :=
  ⟨create_rootArtifacts, bare_rootArtifacts, roomy_rootArtifacts, by decide, by decide,
    shown_replacingCalls.1, shown_replacingCalls.2,
    portrays_performAll create_rootArtifacts bare_rootArtifacts roomy_rootArtifacts replacingCalls
      (by decide) (by decide)⟩

end Replacements

end StepRunner.Artifacts
