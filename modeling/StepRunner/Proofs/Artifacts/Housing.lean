import StepRunner.Proofs.Artifacts.Containment

/-!
This file shows that the files of each run stand below the directory of the run.
A capture and a thumbnail keep them there, so the removal of a run takes all of its files and no
other ones.
-/

namespace StepRunner.Artifacts

open StepRunner.Path (Location Plain isBelow)

variable {artifacts : Artifacts} {runIds : List String} {runId : String} {location : Location}

/-- The directory of a run is there, and its name is a key. -/
structure House (artifacts : Artifacts) (runId : String) : Prop where
  key : isKey runId = true
  short : runId.utf8ByteSize ≤ Disk.nameLimit
  directory : artifacts.disk.isDirectory (artifacts.runDirectory runId) = true

/--
The directory of all runs is there, a path to the directory of a run is one that the disk accepts,
and whatever stands below the directory of all runs is in the house of a known run.
-/
structure Tidy (artifacts : Artifacts) (runIds : List String) : Prop where
  canonical : artifacts.disk.Canonical (artifacts.root ++ ["runs"])
  directory : artifacts.disk.isDirectory (artifacts.root ++ ["runs"]) = true
  legible : ∀ runId, isKey runId = true → runId.utf8ByteSize ≤ Disk.nameLimit →
    (Path.render (artifacts.runDirectory runId)).contains '\x00' = false ∧
      (Path.render (artifacts.runDirectory runId)).utf8ByteSize < Disk.pathLimit
  housed : ∀ runId rest,
    (artifacts.disk.node? (artifacts.runDirectory runId ++ rest)).isSome = true →
      runId ∈ runIds ∧ artifacts.House runId

/-- The files of runs are gone, and all others are as before. -/
structure Purged (before : Artifacts) (runIds : List String) (after : Artifacts) : Prop where
  root : after.root = before.root
  gone : ∀ runId ∈ runIds, ∀ location, isBelow (before.runDirectory runId) location = true →
    after.disk.node? location = none
  kept : ∀ location, (∀ runId ∈ runIds, isBelow (before.runDirectory runId) location = false) →
    after.disk.node? location = before.disk.node? location

section Places

theorem runDirectory_eq (artifacts : Artifacts) (runId : String) :
    artifacts.runDirectory runId = artifacts.root ++ ["runs"] ++ [runId] := by
  simp [runDirectory]

theorem runDirectory_append_inj {other : String} {rest more : List String}
    (same : artifacts.runDirectory runId ++ rest = artifacts.runDirectory other ++ more) :
    runId = other ∧ rest = more := by
  simpa [runDirectory] using same

theorem plain_of_isKey (key : isKey runId = true) : Plain runId := by
  simp only [isKey, Bool.and_eq_true, Bool.not_eq_true', List.all_eq_true] at key
  obtain ⟨filled, chars⟩ := key
  refine ⟨fun slash => absurd (chars _ slash) (by decide), ?_, ?_, ?_⟩
  · rintro rfl
    simp at filled
  · rintro rfl
    exact absurd (chars '.' (by simp)) (by decide)
  · rintro rfl
    exact absurd (chars '.' (by simp)) (by decide)

theorem nulFree_of_isKey (key : isKey runId = true) : '\x00' ∉ runId.toList := by
  intro marked
  simp only [isKey, Bool.and_eq_true, List.all_eq_true] at key
  exact absurd (key.2 _ marked) (by decide)

theorem plain_picture (key : isKey runId = true) : Plain (runId ++ ".png") :=
  Path.plain_append (plain_of_isKey key).slashFree (fun slash => absurd slash (by decide))
    (by decide)

/-- A house is a canonical directory below the directory of all runs. -/
theorem House.canonical (house : artifacts.House runId) (tidy : artifacts.Tidy runIds) :
    artifacts.disk.Canonical (artifacts.runDirectory runId) := by
  have found : artifacts.disk.node? (artifacts.root ++ ["runs"] ++ [runId]) = some .directory := by
    rw [← runDirectory_eq]
    simpa [Disk.isDirectory] using house.directory
  rw [runDirectory_eq]
  exact .child tidy.canonical tidy.directory (plain_of_isKey house.key) house.short found
    fun _ linked => by cases linked

theorem House.put {node : Node} (house : artifacts.House runId)
    (vacant : artifacts.disk.isDirectory location = false) :
    House { artifacts with disk := artifacts.disk.put location node } runId where
  key := house.key
  short := house.short
  directory := Disk.isDirectory_put vacant house.directory

/-- What is put in a house, in place of no directory, leaves the screenshots tidy. -/
theorem Tidy.put {node : Node} (tidy : artifacts.Tidy runIds)
    (vacant : artifacts.disk.isDirectory location = false)
    (house : ∀ runId rest, location = artifacts.runDirectory runId ++ rest → runId ∈ runIds ∧
      House { artifacts with disk := artifacts.disk.put location node } runId) :
    Tidy { artifacts with disk := artifacts.disk.put location node } runIds where
  canonical := tidy.canonical.put tidy.directory vacant
  directory := Disk.isDirectory_put vacant tidy.directory
  legible := tidy.legible
  housed := by
    intro runId rest present
    by_cases here : artifacts.runDirectory runId ++ rest = location
    · exact house runId rest here.symm
    · have old := tidy.housed runId rest ((Disk.node?_put_of_ne here) ▸ present)
      exact ⟨old.1, old.2.put vacant⟩

end Places

section Captures

/-- What making the directory of a run gives: the directory is there already, or it is new. -/
theorem Tidy.makeDirectories_eq (tidy : artifacts.Tidy runIds) (key : isKey runId = true) :
    artifacts.disk.makeDirectories (Path.render (artifacts.runDirectory runId)) =
      if (artifacts.disk.node? (artifacts.runDirectory runId)).isSome then .ok artifacts.disk
      else if Disk.nameLimit < runId.utf8ByteSize then .error .nameTooLong
      else .ok (artifacts.disk.put (artifacts.runDirectory runId) .directory) := by
  have plain := plain_of_isKey key
  have names : Path.names (Path.render (artifacts.runDirectory runId)) =
      artifacts.root ++ ["runs"] ++ [runId] := by
    rw [runDirectory_eq]
    exact Path.names_render <| List.forall_mem_append.2
      ⟨tidy.canonical.plain, List.forall_mem_singleton.2 plain⟩
  have straight : artifacts.disk.makeDirectoriesFrom [] (artifacts.root ++ ["runs"] ++ [runId]) =
      artifacts.disk.makeDirectoriesFrom (artifacts.root ++ ["runs"]) [runId] :=
    Disk.makeDirectoriesFrom_append [runId] tidy.canonical tidy.directory
  rw [Disk.makeDirectories, names, straight, Disk.makeDirectoriesFrom]
  simp only [plain.ne_parent, if_false, ← runDirectory_eq, Disk.makeDirectoriesFrom]
  cases found : artifacts.disk.node? (artifacts.runDirectory runId) with
  | none => rfl
  | some node =>
    have present : (artifacts.disk.node? (artifacts.runDirectory runId ++ [])).isSome = true := by
      simp [found]
    have house := (tidy.housed runId [] present).2
    have leads : artifacts.disk.walk Disk.linkLimit (artifacts.root ++ ["runs"]) [runId] =
        .ok (artifacts.runDirectory runId) := by
      have canonical := house.canonical tidy
      rw [runDirectory_eq] at canonical ⊢
      rw [Disk.walk_cons [] canonical, Disk.walk]
    simp only [leads, house.directory, if_true, Option.isSome_some]

/-- The directory of a run is made, unless it is there. -/
theorem Tidy.makeDirectories (tidy : artifacts.Tidy runIds) (known : runId ∈ runIds)
    (key : isKey runId = true) {disk : Disk}
    (made : artifacts.disk.makeDirectories (Path.render (artifacts.runDirectory runId)) =
      .ok disk) :
    Tidy { artifacts with disk } runIds ∧ House { artifacts with disk } runId := by
  rw [tidy.makeDirectories_eq key] at made
  split at made
  · next present =>
    obtain rfl := Except.ok.inj made
    exact ⟨tidy, (tidy.housed runId [] (by simpa using present)).2⟩
  · next absent =>
    split at made
    · cases made
    · next short =>
      obtain rfl := Except.ok.inj made
      have vacant : artifacts.disk.isDirectory (artifacts.runDirectory runId) = false := by
        rw [Disk.isDirectory, decide_eq_false_iff_not]
        exact fun found => absent (by simp [found])
      have house : House { artifacts with
          disk := artifacts.disk.put (artifacts.runDirectory runId) .directory } runId := by
        refine ⟨key, not_lt.1 short, ?_⟩
        rw [Disk.isDirectory, decide_eq_true_eq]
        exact Disk.node?_put_self (by simp [runDirectory])
      refine ⟨tidy.put vacant fun other rest same => ?_, house⟩
      rw [← List.append_nil (artifacts.runDirectory runId)] at same
      obtain ⟨rfl, -⟩ := runDirectory_append_inj same
      exact ⟨known, house⟩

theorem checkCapture_eq {stepId : String} {content : Bytes}
    (checked : checkCapture runId stepId content = .ok ()) :
    isKey runId = true ∧ isKey stepId = true := by
  have keyed (key : String) (accepted : checkKey key = .ok ()) : isKey key = true := by
    unfold checkKey at accepted
    split at accepted
    · next proper => exact proper
    · cases accepted
  obtain ⟨⟨⟩, run, checked⟩ := bind_eq_ok_iff.1 checked
  obtain ⟨⟨⟩, step, -⟩ := bind_eq_ok_iff.1 checked
  exact ⟨keyed runId run, keyed stepId step⟩

/-- What a capture answers, and what it does to the disk. -/
theorem capture_cases (artifacts : Artifacts) (runId stepId : String) (content : Bytes) :
    (∃ error, artifacts.capture runId stepId content = (.error error, artifacts)) ∨
      isKey runId = true ∧ isKey stepId = true ∧ ∃ disk,
        artifacts.disk.makeDirectories (Path.render (artifacts.runDirectory runId)) = .ok disk ∧
          ((∃ error, artifacts.capture runId stepId content =
              (.error error, { artifacts with disk })) ∨
            ∃ last, disk.replace (Path.render (artifacts.location runId stepId)) content =
              .ok last ∧ artifacts.capture runId stepId content =
                (.ok (Path.render (artifacts.location runId stepId)),
                  { artifacts with disk := last })) := by
  unfold Artifacts.capture
  split
  · next error _ => exact .inl ⟨error, rfl⟩
  · next checked =>
    obtain ⟨runKey, stepKey⟩ := checkCapture_eq checked
    split
    · next error _ => exact .inl ⟨.io error, rfl⟩
    · next disk made =>
      refine .inr ⟨runKey, stepKey, disk, made, ?_⟩
      simp only
      split
      · next error _ => exact .inl ⟨error, rfl⟩
      · next installed =>
        obtain ⟨-, last, replaced, rfl⟩ := install_eq installed
        exact .inr ⟨last, replaced, rfl⟩

/-- What a read does to the disk: it may put a thumbnail beside a picture. -/
theorem read_cases (artifacts : Artifacts) (path : String) (variant : Variant) :
    (artifacts.read path variant).2 = artifacts ∨ ∃ place name picture content disk,
      artifacts.disk.Canonical place ∧ artifacts.disk.isDirectory place = true ∧ Plain name ∧
        artifacts.disk.node? (place ++ [name]) = some (.file picture) ∧
        artifacts.disk.replace (Path.render (place ++ [thumbnailName name])) content = .ok disk ∧
        (artifacts.read path variant).2 = { artifacts with disk } := by
  unfold Artifacts.read
  split
  · exact .inl rfl
  · next full accepted =>
    have canonical := Disk.resolve_canonical (contain_eq_ok_iff.1 accepted).1
    cases variant with
    | full => exact .inl rfl
    | thumbnail =>
      simp only [target]
      split
      · next found served =>
        obtain ⟨location, after⟩ := found
        obtain ⟨rfl, rfl | ⟨-, ⟨picture, file⟩, content, installed⟩⟩ := thumbnailAt_eq served
        · exact .inl rfl
        · obtain ⟨-, disk, replaced, rfl⟩ := install_eq installed
          cases canonical with
          | root => simp [Disk.node?] at file
          | @child place name _ parent directory plain =>
            rw [thumbnailLocation_append] at replaced
            exact .inr ⟨place, name, picture, content, disk, parent, directory, plain, file,
              replaced, rfl⟩
      · exact .inl rfl

theorem root_capture (artifacts : Artifacts) (runId stepId : String) (content : Bytes) :
    (artifacts.capture runId stepId content).2.root = artifacts.root := by
  obtain ⟨_, same⟩ | ⟨-, -, disk, -, ⟨_, same⟩ | ⟨last, -, same⟩⟩ :=
    artifacts.capture_cases runId stepId content
  all_goals rw [same]

theorem root_read (artifacts : Artifacts) (path : String) (variant : Variant) :
    (artifacts.read path variant).2.root = artifacts.root := by
  obtain same | ⟨_, _, _, _, _, -, -, -, -, -, same⟩ := artifacts.read_cases path variant
  all_goals rw [same]

/-- A capture stays in the house of its run. -/
theorem Tidy.capture (tidy : artifacts.Tidy runIds) (known : runId ∈ runIds) (stepId : String)
    (content : Bytes) : (artifacts.capture runId stepId content).2.Tidy runIds := by
  obtain ⟨_, same⟩ | ⟨runKey, stepKey, disk, made, outcome⟩ :=
    artifacts.capture_cases runId stepId content
  · rw [same]
    exact tidy
  · obtain ⟨tidy, house⟩ := tidy.makeDirectories known runKey made
    obtain ⟨_, same⟩ | ⟨last, replaced, same⟩ := outcome
    · rw [same]
      exact tidy
    · obtain ⟨rfl, -, vacant⟩ := Disk.replace_render (house.canonical tidy) house.directory
        (plain_picture stepKey) replaced
      rw [same]
      refine tidy.put vacant fun other rest same => ?_
      obtain ⟨rfl, -⟩ := runDirectory_append_inj same
      exact ⟨known, house.put vacant⟩

/-- A thumbnail stays in the house of its picture. -/
theorem Tidy.read (tidy : artifacts.Tidy runIds) (path : String) (variant : Variant) :
    (artifacts.read path variant).2.Tidy runIds := by
  obtain same | ⟨place, name, picture, content, disk, canonical, directory, plain, file, replaced,
    same⟩ := artifacts.read_cases path variant
  · rw [same]
    exact tidy
  · obtain ⟨rfl, -, vacant⟩ :=
      Disk.replace_render canonical directory (plain_thumbnailName plain) replaced
    rw [same]
    refine tidy.put vacant fun runId rest same => ?_
    rcases List.eq_nil_or_concat rest with rfl | ⟨inner, last, rfl⟩
    · -- No picture stands where the directories of runs do.
      rw [List.append_nil, runDirectory_eq] at same
      obtain ⟨rfl, -⟩ := List.append_inj' same rfl
      rw [← runDirectory_eq] at file
      have present : (artifacts.disk.node? (artifacts.runDirectory name ++ [])).isSome = true := by
        simp [file]
      have house := (tidy.housed name [] present).2.directory
      simp [Disk.isDirectory, file] at house
    · rw [List.concat_eq_append, ← List.append_assoc] at same
      obtain ⟨rfl, -⟩ := List.append_inj' same rfl
      rw [List.append_assoc] at file
      obtain ⟨known, house⟩ := tidy.housed runId (inner ++ [name]) (by simp [file])
      exact ⟨known, house.put vacant⟩

end Captures

section Removals

/-- Nothing stands below the directory of a run that is not there. -/
theorem Tidy.node?_eq_none (tidy : artifacts.Tidy runIds) (vacant : ¬artifacts.House runId)
    (below : isBelow (artifacts.runDirectory runId) location = true) :
    artifacts.disk.node? location = none := by
  obtain ⟨rest, rfl⟩ := Path.isBelow_iff.1 below
  by_contra present
  exact vacant (tidy.housed runId rest (Option.isSome_iff_ne_none.2 present)).2

/-- No path through the directory of a run that is not there leads anywhere. -/
theorem Tidy.isThere_eq_false (tidy : artifacts.Tidy runIds) (key : isKey runId = true)
    (vacant : ¬artifacts.House runId) {rest : List String}
    (slashFree : ∀ name ∈ rest, Path.SlashFree name) :
    artifacts.disk.isThere (Path.render (artifacts.runDirectory runId ++ rest)) = false := by
  have absent : artifacts.disk.node? (artifacts.root ++ ["runs"] ++ [runId]) = none := by
    rw [← runDirectory_eq]
    exact tidy.node?_eq_none vacant (Path.isBelow_iff.2 (List.prefix_refl _))
  rw [runDirectory_eq, List.append_assoc]
  exact Disk.isThere_render_of_missing tidy.canonical tidy.directory (plain_of_isKey key) absent
    slashFree

theorem checkKey_of_isKey (key : isKey runId = true) : checkKey runId = .ok () := by
  simp [checkKey, key]

/-- The removal of a run takes the directory of the run with all that is below it. -/
theorem House.removeRun_eq (house : artifacts.House runId) (tidy : artifacts.Tidy runIds) :
    artifacts.removeRun runId = .ok { artifacts with
      disk := artifacts.disk.removeTree (artifacts.runDirectory runId) } := by
  obtain ⟨clean, short⟩ := tidy.legible runId house.key house.short
  have resolved := Disk.resolve_render (house.canonical tidy) clean short
  have there : artifacts.disk.isThere (Path.render (artifacts.runDirectory runId)) = true := by
    simp [Disk.isThere, resolved]
  have slot := Disk.slotOf_render_of_legible tidy.canonical tidy.directory
    (plain_of_isKey house.key) (runDirectory_eq artifacts runId ▸ clean)
    (runDirectory_eq artifacts runId ▸ short)
  have found : artifacts.disk.node? (artifacts.runDirectory runId) = some .directory := by
    simpa [Disk.isDirectory] using house.directory
  rw [← runDirectory_eq] at slot
  have removed : artifacts.disk.removeDirectory (Path.render (artifacts.runDirectory runId)) =
      .ok (artifacts.disk.removeTree (artifacts.runDirectory runId)) := by
    simp only [Disk.removeDirectory, slot, bind, Except.bind, ← runDirectory_eq, found]
    rfl
  simp [Artifacts.removeRun, checkKey_of_isKey house.key, there, onDisk_eq_ok_iff.2 removed, bind,
    Except.bind, pure, Except.pure]

/-- The removal of a run that has no files changes nothing. -/
theorem Tidy.removeRun_of_vacant (tidy : artifacts.Tidy runIds) (vacant : ¬artifacts.House runId) :
    (artifacts.removeRun runId).toOption.getD artifacts = artifacts := by
  by_cases key : isKey runId = true
  · have absent := tidy.isThere_eq_false key vacant (List.forall_mem_nil _)
    rw [List.append_nil] at absent
    simp [Artifacts.removeRun, checkKey_of_isKey key, absent, bind, Except.bind, pure, Except.pure,
      Except.toOption]
  · simp [Artifacts.removeRun, checkKey, key, bind, Except.bind, Except.toOption]

/-- The removal of a run takes what is below its directory, and nothing else. -/
theorem Tidy.purged_removeRun (tidy : artifacts.Tidy runIds) (runId : String) :
    artifacts.Purged [runId] ((artifacts.removeRun runId).toOption.getD artifacts) := by
  by_cases house : artifacts.House runId
  · have inside : artifacts.runDirectory runId ≠ [] := by simp [runDirectory]
    rw [house.removeRun_eq tidy]
    refine ⟨rfl, ?_, ?_⟩
    · intro other named location below
      obtain rfl := List.mem_singleton.1 named
      exact (Disk.node?_removeTree inside).trans (if_pos below)
    · intro location apart
      have outside := apart runId (List.mem_singleton_self runId)
      exact (Disk.node?_removeTree inside).trans (if_neg (by simp [outside]))
  · rw [tidy.removeRun_of_vacant house]
    refine ⟨rfl, ?_, fun _ _ => rfl⟩
    intro other named location below
    obtain rfl := List.mem_singleton.1 named
    exact tidy.node?_eq_none house below

variable {removed : List String} {after middle : Artifacts}

theorem Purged.nil (artifacts : Artifacts) : artifacts.Purged [] artifacts :=
  ⟨rfl, fun _ named => absurd named List.not_mem_nil, fun _ _ => rfl⟩

theorem Purged.runDirectory_eq (purged : artifacts.Purged removed after) (runId : String) :
    after.runDirectory runId = artifacts.runDirectory runId := by
  rw [runDirectory, purged.root, runDirectory]

theorem Purged.append {more : List String} (first : artifacts.Purged removed middle)
    (second : middle.Purged more after) : artifacts.Purged (removed ++ more) after where
  root := second.root.trans first.root
  gone := by
    intro runId named location below
    by_cases among : ∃ other ∈ more, isBelow (middle.runDirectory other) location = true
    · obtain ⟨other, listed, inside⟩ := among
      exact second.gone other listed location inside
    · simp only [not_exists, not_and] at among
      have apart := second.kept location fun other listed =>
        Bool.eq_false_iff.2 (among other listed)
      rw [apart]
      rcases List.mem_append.1 named with early | late
      · exact first.gone runId early location below
      · rw [← first.runDirectory_eq] at below
        exact absurd below (among runId late)
  kept := by
    intro location apart
    have early := first.kept location fun runId named => apart runId (List.mem_append_left _ named)
    refine (second.kept location fun runId named => ?_).trans early
    rw [first.runDirectory_eq]
    exact apart runId (List.mem_append_right _ named)

/-- The house of another run is not touched. -/
theorem Purged.node?_runDirectory (purged : artifacts.Purged removed after)
    (other : runId ∉ removed) (rest : List String) :
    after.disk.node? (artifacts.runDirectory runId ++ rest) =
      artifacts.disk.node? (artifacts.runDirectory runId ++ rest) := by
  refine purged.kept _ fun gone named => Bool.eq_false_iff.2 fun below => ?_
  obtain ⟨more, same⟩ := Path.isBelow_iff.1 below
  obtain ⟨rfl, -⟩ := runDirectory_append_inj same
  exact other named

/-- The files of the runs that are left stay tidy. -/
theorem Tidy.purged (tidy : artifacts.Tidy runIds) (purged : artifacts.Purged removed after)
    {left : List String} (others : ∀ runId ∈ runIds, runId ∈ removed ∨ runId ∈ left) :
    after.Tidy left := by
  have above (place : Location) (onWay : place <+: artifacts.root ++ ["runs"]) :
      after.disk.node? place = artifacts.disk.node? place := by
    refine purged.kept place fun runId _ => Bool.eq_false_iff.2 fun below => ?_
    have longer := ((Path.isBelow_iff.1 below).trans onWay).length_le
    simp [runDirectory] at longer
  refine ⟨?_, ?_, fun runId => ?_, fun runId rest present => ?_⟩
  · rw [purged.root]
    exact tidy.canonical.congr above
  · rw [purged.root, Disk.isDirectory, above _ (List.prefix_refl _)]
    exact tidy.directory
  · rw [purged.runDirectory_eq]
    exact tidy.legible runId
  · rw [purged.runDirectory_eq] at present
    have other : runId ∉ removed := by
      intro named
      have below := Path.isBelow_iff.2 (List.prefix_append (artifacts.runDirectory runId) rest)
      simp [purged.gone runId named _ below] at present
    rw [purged.node?_runDirectory other] at present
    obtain ⟨known, house⟩ := tidy.housed runId rest present
    refine ⟨(others runId known).resolve_left other, house.key, house.short, ?_⟩
    have same := purged.node?_runDirectory other []
    rw [List.append_nil] at same
    rw [purged.runDirectory_eq, Disk.isDirectory, same]
    exact house.directory

theorem Tidy.mono (tidy : artifacts.Tidy runIds) {more : List String} (known : runIds ⊆ more) :
    artifacts.Tidy more :=
  tidy.purged (.nil artifacts) fun _ listed => .inr (known listed)

/-- The removal of several runs takes the files of all of them, and nothing else. -/
theorem Tidy.purged_removeRuns (tidy : artifacts.Tidy runIds) (removed : List String) :
    artifacts.Purged removed (removed.foldl
      (fun artifacts runId => (artifacts.removeRun runId).toOption.getD artifacts) artifacts) := by
  induction removed generalizing artifacts with
  | nil => exact .nil artifacts
  | cons runId others inductionHypothesis =>
    have first := tidy.purged_removeRun runId
    exact first.append (inductionHypothesis (tidy.purged first fun _ known => .inr known))

end Removals

end StepRunner.Artifacts
