import StepRunner.Proofs.Artifacts.Shelf

/-!
This file shows what the screenshots answer.
Whatever was asked before, they accept, find, refuse and remove pictures as a shelf does that was
empty when their directory was set up.
-/

namespace StepRunner.Artifacts

open StepRunner.Path (Location Plain isBelow)

/-- Nothing stands in the directory of the screenshots but the directories that belong there. -/
def Bare (artifacts : Artifacts) : Prop :=
  ∀ rest node, rest ≠ [] → artifacts.disk.node? (artifacts.root ++ rest) = some node →
    node = .directory ∧ (rest = ["runs"] ∨ rest = ["tmp"])

/-- The screenshots have the pictures of a shelf, and answer as the shelf does. -/
structure Refines (artifacts : Artifacts) (shelf : Shelf) : Prop where
  captures : ∀ runId stepId content,
    (artifacts.capture runId stepId content).1.toOption =
      if Proper runId stepId content ∧ Fits runId stepId then
        some (artifacts.pathOf runId stepId) else none
  refuses : ∀ runId stepId content, ¬Proper runId stepId content →
    ∃ key, artifacts.capture runId stepId content = (.error (.invalidKey key), artifacts)
  reads : ∀ runId stepId, isKey runId = true → isKey stepId = true →
    (artifacts.read (artifacts.pathOf runId stepId) .full).1 =
      ((shelf runId stepId).elim (.error (.notFound (artifacts.pathOf runId stepId))) .ok)
  digests : ∀ runId stepId, isKey runId = true → isKey stepId = true →
    artifacts.digest (artifacts.pathOf runId stepId) =
      ((shelf runId stepId).elim (.error (.notFound (artifacts.pathOf runId stepId)))
        fun content => .ok (Sha256.hex content))
  apart : ∀ runId stepId other last, isKey runId = true → isKey stepId = true →
    isKey other = true → isKey last = true →
    artifacts.pathOf runId stepId = artifacts.pathOf other last → runId = other ∧ stepId = last
  aside : ∀ runId stepId, isKey runId = true → isKey stepId = true →
    ∀ path thumbnail after, artifacts.thumbnail path = .ok (thumbnail, after) →
      thumbnail ≠ artifacts.pathOf runId stepId
  keeps : ∀ runId stepId, isKey runId = true → isKey stepId = true → ∀ path,
    (artifacts.perform (.thumbnail path)).disk.node? (artifacts.location runId stepId) =
        artifacts.disk.node? (artifacts.location runId stepId) ∧
      ∀ variant, (artifacts.read path variant).2.disk.node? (artifacts.location runId stepId) =
        artifacts.disk.node? (artifacts.location runId stepId)
  removes : ∀ runId, isKey runId = true →
    ∃ after, artifacts.removeRun runId = .ok after ∧ artifacts.Purged [runId] after
  spares : ∀ runId, isKey runId = false →
    artifacts.removeRun runId = .error (.invalidKey runId)

variable {artifacts after : Artifacts} {shelf : Shelf} {runId stepId : String} {content : Bytes}

section Answers

/-- A location that is not there is not found. -/
theorem contain_missing {location : Location} (plain : ∀ name ∈ location, Plain name)
    (below : isBelow artifacts.root location = true)
    (absent : artifacts.disk.isThere (Path.render location) = false) :
    artifacts.contain (Path.render location) = .error (.notFound (Path.render location)) := by
  have same : artifacts.requested (Path.render location) = Path.render location := by
    simp [requested, Path.join, Path.isAbsolute, Path.render]
  have level : Path.climbs (Path.render location) = false := by
    rw [Path.climbs, Path.names_render plain, List.contains_eq_mem, decide_eq_false_iff_not]
    exact fun present => (plain _ present).ne_parent rfl
  obtain ⟨error, resolved⟩ :
      ∃ error, artifacts.disk.resolve (Path.render location) = .error error := by
    unfold Disk.isThere at absent
    split at absent
    · cases absent
    · next error resolved => exact ⟨error, resolved⟩
  rw [contain, same, level, Path.names_render plain, below, resolved]
  rfl

theorem Stocked.plain_location (stocked : artifacts.Stocked shelf) (run : isKey runId = true)
    (step : isKey stepId = true) : ∀ name ∈ artifacts.location runId stepId, Plain name := by
  obtain ⟨runIds, tidy⟩ := stocked.tidy
  rw [location_eq, runDirectory_eq]
  refine List.forall_mem_append.2 ⟨List.forall_mem_append.2 ⟨tidy.canonical.plain, ?_⟩, ?_⟩
  · exact List.forall_mem_singleton.2 (plain_of_isKey run)
  · exact List.forall_mem_singleton.2 (plain_picture step)

/-- The path of an empty place is not found. -/
theorem Stocked.contain_empty (stocked : artifacts.Stocked shelf) (run : isKey runId = true)
    (step : isKey stepId = true) (empty : shelf runId stepId = none) :
    artifacts.contain (artifacts.pathOf runId stepId) =
      .error (.notFound (artifacts.pathOf runId stepId)) := by
  obtain ⟨runIds, tidy⟩ := stocked.tidy
  refine contain_missing (stocked.plain_location run step) ?_ ?_
  · exact Path.isBelow_iff.2 (by simp [location, runDirectory])
  · have missing := stocked.filled runId stepId run step
    rw [empty, Option.map_none] at missing
    by_cases house : artifacts.House runId
    · exact Disk.isThere_render_of_missing (house.canonical tidy) house.directory
        (plain_picture step) missing (List.forall_mem_nil _)
    · exact tidy.isThere_eq_false run house
        (List.forall_mem_singleton.2 (plain_picture step).slashFree)

/-- The path of a picture on the shelf leads to the picture. -/
theorem Stocked.read_full (stocked : artifacts.Stocked shelf) (run : isKey runId = true)
    (step : isKey stepId = true) :
    (artifacts.read (artifacts.pathOf runId stepId) .full).1 =
        (shelf runId stepId).elim (.error (.notFound (artifacts.pathOf runId stepId))) .ok ∧
      artifacts.digest (artifacts.pathOf runId stepId) =
        (shelf runId stepId).elim (.error (.notFound (artifacts.pathOf runId stepId)))
          fun content => .ok (Sha256.hex content) := by
  cases place : shelf runId stepId with
  | none =>
    have missing := stocked.contain_empty run step place
    simp [Artifacts.read, digest, missing, bind, Except.bind]
  | some content =>
    obtain ⟨runIds, tidy⟩ := stocked.tidy
    have fits := (stocked.fits runId stepId (by simp [place])).2.2
    have placeable := stocked.roomy.placeable run step fits
    have file := stocked.filled runId stepId run step
    rw [place, Option.map_some] at file
    exact ⟨congrArg Prod.fst (placeable.read_picture tidy file), placeable.digest_picture tidy file⟩

/-- The path of a thumbnail is no path of a picture. -/
theorem Stocked.pathOf_ne_thumbnail (stocked : artifacts.Stocked shelf) (run : isKey runId = true)
    (step : isKey stepId = true) {path thumbnail : String}
    (served : artifacts.thumbnail path = .ok (thumbnail, after)) :
    thumbnail ≠ artifacts.pathOf runId stepId := by
  obtain ⟨full, accepted, made⟩ := bind_eq_ok_iff.1 served
  obtain ⟨⟨location, changed⟩, found, shown⟩ := bind_eq_ok_iff.1 made
  rw [pure_eq_ok_iff] at shown
  obtain ⟨rfl, rfl⟩ := Prod.mk.inj shown
  obtain ⟨rfl, -⟩ := thumbnailAt_eq found
  have canonical := Disk.resolve_canonical (contain_eq_ok_iff.1 accepted).1
  have plain : ∀ name ∈ thumbnailLocation full, Plain name := by
    cases canonical with
    | root =>
      exact List.forall_mem_singleton.2
        ⟨fun slash => absurd slash (by decide), by decide, by decide, by decide⟩
    | child parent _ plain =>
      rw [thumbnailLocation_append]
      exact List.forall_mem_append.2
        ⟨parent.plain, List.forall_mem_singleton.2 (plain_thumbnailName plain)⟩
  intro same
  have names := congrArg Path.names same
  rw [pathOf, Path.names_render plain, Path.names_render (stocked.plain_location run step)] at names
  rcases List.eq_nil_or_concat full with rfl | ⟨place, name, rfl⟩
  · simpa [thumbnailLocation, location, runDirectory] using congrArg List.length names
  · rw [List.concat_eq_append, thumbnailLocation_append] at names
    exact location_ne_thumbnail step place name names.symm

/-- A picture that is not proper is refused before anything is written. -/
theorem capture_improper (artifacts : Artifacts) (improper : ¬Proper runId stepId content) :
    ∃ key, artifacts.capture runId stepId content = (.error (.invalidKey key), artifacts) := by
  have refused : ∃ key, checkCapture runId stepId content = .error (.invalidKey key) := by
    by_cases run : isKey runId = true
    · by_cases step : isKey stepId = true
      · have empty : content = [] := by
          by_contra filled
          exact improper ⟨run, step, filled⟩
        exact ⟨"empty screenshot", by simp [checkCapture, checkKey, run, step, empty, bind,
          Except.bind, throw, throwThe, MonadExceptOf.throw]⟩
      · exact ⟨stepId, by simp [checkCapture, checkKey, run, step, bind, Except.bind]⟩
    · exact ⟨runId, by simp [checkCapture, checkKey, run, bind, Except.bind]⟩
  obtain ⟨key, refused⟩ := refused
  exact ⟨key, by simp only [Artifacts.capture, refused]⟩

theorem Stocked.removeRun_eq_ok (stocked : artifacts.Stocked shelf) (run : isKey runId = true) :
    ∃ after, artifacts.removeRun runId = .ok after ∧ artifacts.Purged [runId] after := by
  obtain ⟨runIds, tidy⟩ := stocked.tidy
  have purged := tidy.purged_removeRun runId
  by_cases house : artifacts.House runId
  · have removed := house.removeRun_eq tidy
    rw [removed] at purged
    exact ⟨_, removed, purged⟩
  · have absent := tidy.isThere_eq_false run house (List.forall_mem_nil _)
    rw [List.append_nil] at absent
    have removed : artifacts.removeRun runId = .ok artifacts := by
      simp [Artifacts.removeRun, checkKey_of_isKey run, absent, bind, Except.bind, pure,
        Except.pure]
    rw [removed] at purged
    exact ⟨_, removed, purged⟩

/-- Screenshots that are stocked as a shelf answer as the shelf does. -/
theorem Stocked.refines (stocked : artifacts.Stocked shelf) : Refines artifacts shelf where
  captures := fun runId stepId content => (stocked.capture runId stepId content).1
  refuses := fun _ _ _ improper => artifacts.capture_improper improper
  reads := fun _ _ run step => (stocked.read_full run step).1
  digests := fun _ _ run step => (stocked.read_full run step).2
  apart := by
    intro runId stepId other last run step otherKey lastKey same
    have names := congrArg Path.names same
    rw [pathOf, pathOf, Path.names_render (stocked.plain_location run step),
      Path.names_render (stocked.plain_location otherKey lastKey)] at names
    exact location_inj names
  aside := fun _ _ run step _ _ _ served => stocked.pathOf_ne_thumbnail run step served
  keeps := by
    intro runId stepId run step path
    rw [perform_thumbnail]
    exact ⟨node?_read step path .thumbnail, node?_read step path⟩
  removes := fun _ run => stocked.removeRun_eq_ok run
  spares := by
    intro runId hostile
    simp [Artifacts.removeRun, checkKey, hostile, bind, Except.bind]

end Answers

section Starts

/-- The directories of the screenshots are made in the place where their path leads to. -/
theorem create_eq {disk : Disk} {path : String} (created : create disk path = .ok artifacts) :
    ∃ half, disk.makeDirectories (Path.join path "runs") = .ok half ∧
      half.makeDirectories (Path.join path "tmp") = .ok artifacts.disk ∧
        artifacts.disk.resolve path = .ok artifacts.root := by
  simp only [create, bind_eq_ok_iff, onDisk_eq_ok_iff, pure_eq_ok_iff] at created
  obtain ⟨half, runs, whole, tmp, root, resolved, rfl⟩ := created
  exact ⟨half, runs, tmp, resolved⟩

/-- A directory in the directory of the screenshots is canonical. -/
theorem canonical_child {name : String} (canonical : artifacts.disk.Canonical artifacts.root)
    (inside : artifacts.disk.isDirectory artifacts.root = true) (key : isKey name = true)
    (short : name.utf8ByteSize ≤ Disk.nameLimit)
    (directory : artifacts.disk.isDirectory (artifacts.root ++ [name]) = true) :
    artifacts.disk.Canonical (artifacts.root ++ [name]) :=
  .child canonical inside (plain_of_isKey key) short (by simpa [Disk.isDirectory] using directory)
    fun _ linked => by cases linked

/-- New screenshots are an empty shelf. -/
theorem stocked_create {disk : Disk} {path : String} (created : create disk path = .ok artifacts)
    (bare : artifacts.Bare) (roomy : Roomy artifacts.root) :
    artifacts.Stocked Shelf.empty := by
  obtain ⟨half, runs, tmp, resolved⟩ := create_eq created
  have canonical := Disk.resolve_canonical resolved
  have real (name target : String) :
      artifacts.disk.node? (artifacts.root ++ [name]) ≠ some (.link target) := fun found => by
    have directory := (bare [name] _ (List.cons_ne_nil _ _) found).1
    cases directory
  obtain ⟨inside, runsThere⟩ := Disk.isDirectory_makeDirectories_join runs
    (Disk.grows_makeDirectoriesFrom tmp) resolved (plain_of_isKey (by decide)) (real "runs")
  obtain ⟨-, tmpThere⟩ := Disk.isDirectory_makeDirectories_join tmp (.refl _) resolved
    (plain_of_isKey (by decide)) (real "tmp")
  have vacant (rest : List String) (node : Node) (deep : 1 < rest.length) :
      artifacts.disk.node? (artifacts.root ++ rest) ≠ some node := fun found => by
    obtain ⟨-, rfl | rfl⟩ := bare rest node (List.ne_nil_of_length_pos (by omega)) found
    all_goals exact absurd deep (by decide)
  have staged : Legible 0 (artifacts.root ++ ["tmp"]) :=
    (roomy.mono (by decide)).child (by decide)
  have tidy : artifacts.Tidy [] := by
    refine ⟨canonical_child canonical inside (by decide) (by decide) runsThere, runsThere,
      fun runId key short => ?_, fun runId rest present => ?_⟩
    · have legible := (roomy.runDirectory key short).mono (Nat.zero_le _)
      exact ⟨legible.clean, legible.short⟩
    · obtain ⟨node, found⟩ := Option.isSome_iff_exists.1 present
      rw [runDirectory, List.append_assoc] at found
      exact absurd found (vacant _ node (by simp))
  have ready : artifacts.Ready := by
    refine ⟨canonical_child canonical inside (by decide) (by decide) tmpThere, tmpThere,
      ⟨staged.clean, staged.short⟩, fun runId stepId run step => ?_, fun runId stepId => ?_⟩
    · exact (roomy.placeable run.key step.key ⟨run.dirShort, step.short⟩).legible
    · rw [Disk.isDirectory, decide_eq_false_iff_not, location, runDirectory, List.append_assoc]
      exact vacant _ _ (by simp)
  refine ⟨⟨[], tidy⟩, ready, roomy, fun _ _ present => absurd rfl present,
    fun runId stepId _ _ => ?_⟩
  rw [location, runDirectory, List.append_assoc]
  exact Option.eq_none_iff_forall_ne_some.2 fun node => vacant _ node (by simp)

/--
Whatever is asked of new screenshots, they are a shelf whose places have the last pictures, and the
paths of the places stay the same.
-/
theorem refines_performAll {disk : Disk} {path : String}
    (created : create disk path = .ok artifacts) (bare : artifacts.Bare)
    (roomy : Roomy artifacts.root) (calls : List Call) :
    (∀ runId stepId, (artifacts.performAll calls).pathOf runId stepId =
        artifacts.pathOf runId stepId) ∧
      (∀ runId stepId content, Shelf.empty.performAll calls runId stepId = some content ↔
        Lasts calls runId stepId content) ∧
      Refines (artifacts.performAll calls) (Shelf.empty.performAll calls) :=
  ⟨pathOf_eq (artifacts.root_performAll calls), fun _ _ _ => Shelf.performAll_eq_some_iff,
    ((stocked_create created bare roomy).performAll calls).refines⟩

/-- New screenshots on an empty disk. -/
def freshArtifacts : Artifacts where
  root := ["srv"]
  disk := ⟨[(["srv"], .directory), (["srv", "runs"], .directory), (["srv", "tmp"], .directory)]⟩

/-- Requests with hostile names, a picture that replaces another one, and a run that is removed. -/
def hostileCalls : List Call :=
  [.capture "run" "step" [1], .capture "../run" "step" [2], .capture "run" "step" [3],
    .thumbnail "runs/run/step.png", .capture "other" "step" [4], .removeRun "other",
    .removeRun "..", .read "/etc/passwd" .full, .capture "run" "step" []]

/-- The screenshots on an empty disk serve the second picture of the run that is kept. -/
theorem refines_freshArtifacts :
    create {} "/srv" = .ok freshArtifacts ∧ freshArtifacts.Bare ∧ Roomy freshArtifacts.root ∧
      Shelf.empty.performAll hostileCalls "run" "step" = some [3] ∧
      Shelf.empty.performAll hostileCalls "other" "step" = none ∧
      (freshArtifacts.performAll hostileCalls).pathOf "run" "step" =
        freshArtifacts.pathOf "run" "step" ∧
      Refines (freshArtifacts.performAll hostileCalls) (Shelf.empty.performAll hostileCalls) := by
  let half : Disk := ⟨[(["srv"], .directory), (["srv", "runs"], .directory)]⟩
  have runs : ({} : Disk).makeDirectories "/srv/runs" = .ok half := rfl
  have tmp : half.makeDirectories "/srv/tmp" = .ok freshArtifacts.disk := by
    have names : Path.names "/srv/tmp" = ["srv", "tmp"] := by decide +kernel
    have there : half.walk Disk.linkLimit [] ["srv"] = .ok ["srv"] := by
      simp [Disk.walk, half]
      rfl
    rw [Disk.makeDirectories, names]
    simp only [Disk.makeDirectoriesFrom, List.nil_append]
    rw [there]
    rfl
  have root : freshArtifacts.disk.resolve "/srv" = .ok ["srv"] := by
    have pieces : Path.pieces "/srv" = ["", "srv"] := by decide +kernel
    have short : ¬Disk.pathLimit ≤ "/srv".utf8ByteSize := by decide
    simp [Disk.resolve, pieces, short, Disk.walk, freshArtifacts]
    rfl
  have paths : Path.join "/srv" "runs" = "/srv/runs" ∧ Path.join "/srv" "tmp" = "/srv/tmp" := by
    decide +kernel
  have created : create {} "/srv" = .ok freshArtifacts := by
    simp only [create, paths, bind_eq_ok_iff, onDisk_eq_ok_iff]
    exact ⟨_, runs, _, tmp, _, root, rfl⟩
  have bare : freshArtifacts.Bare := by
    intro rest node below found
    have stored := Disk.mem_entries_of_node? (by simp [freshArtifacts]) found
    simpa [freshArtifacts, below, and_comm, and_or_left] using stored
  have roomy : Roomy freshArtifacts.root := by
    refine ⟨?_, by decide⟩
    rw [String.contains_char_eq]
    exact decide_eq_false (by decide)
  obtain ⟨same, -, refines⟩ := refines_performAll created bare roomy hostileCalls
  exact ⟨created, bare, roomy, by decide +kernel, by decide +kernel, same "run" "step", refines⟩

end Starts

end StepRunner.Artifacts
