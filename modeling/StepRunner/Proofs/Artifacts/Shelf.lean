import StepRunner.Proofs.Artifacts.Pictures
import StepRunner.Proofs.Disk.Growth

/-!
This file shows that the screenshots are a shelf on which each step of each run has a place.
A picture stays on the shelf until another one takes its place or its run is removed, whatever is
asked in between and whatever texts name the runs, the steps and the paths.
-/

namespace StepRunner.Artifacts

open StepRunner.Path (Location Plain isBelow)

/-- A request to the screenshots. -/
inductive Call where
  | capture (runId stepId : String) (content : Bytes)
  | thumbnail (path : String)
  | read (path : String) (variant : Variant)
  | digest (path : String)
  | removeRun (runId : String)

/-- The screenshots after a request, whether it is served or refused. -/
def perform (artifacts : Artifacts) : Call → Artifacts
  | .capture runId stepId content => (artifacts.capture runId stepId content).2
  | .thumbnail path => ((artifacts.thumbnail path).toOption.map Prod.snd).getD artifacts
  | .read path variant => (artifacts.read path variant).2
  | .digest _ => artifacts
  | .removeRun runId => (artifacts.removeRun runId).toOption.getD artifacts

/-- The screenshots after several requests. -/
def performAll (artifacts : Artifacts) (calls : List Call) : Artifacts :=
  calls.foldl perform artifacts

/-- The path of the screenshot of a step. -/
def pathOf (artifacts : Artifacts) (runId stepId : String) : String :=
  Path.render (artifacts.location runId stepId)

/-- A picture is named by two keys and is not empty. -/
def Proper (runId stepId : String) (content : Bytes) : Prop :=
  isKey runId = true ∧ isKey stepId = true ∧ content ≠ []

/-- The names of the directory and of the file of a picture are no longer than a disk takes. -/
def Fits (runId stepId : String) : Prop :=
  runId.utf8ByteSize ≤ Disk.nameLimit ∧ (stepId ++ ".png").utf8ByteSize ≤ Disk.nameLimit

instance (runId stepId : String) (content : Bytes) : Decidable (Proper runId stepId content) :=
  inferInstanceAs (Decidable (_ ∧ _ ∧ _))

instance (runId stepId : String) : Decidable (Fits runId stepId) :=
  inferInstanceAs (Decidable (_ ∧ _))

/-- A shelf has the picture of a step of a run, or an empty place for it. -/
abbrev Shelf := String → String → Option Bytes

namespace Shelf

/-- A shelf without pictures. -/
def empty : Shelf := fun _ _ => none

/-- Puts a picture in the place of a step. -/
def put (shelf : Shelf) (runId stepId : String) (content : Bytes) : Shelf :=
  fun run step => if run = runId ∧ step = stepId then some content else shelf run step

/-- Takes all pictures of a run. -/
def clear (shelf : Shelf) (runId : String) : Shelf :=
  fun run step => if run = runId then none else shelf run step

/-- What a request does to a shelf. -/
def perform (shelf : Shelf) : Call → Shelf
  | .capture runId stepId content =>
    if Proper runId stepId content ∧ Fits runId stepId then shelf.put runId stepId content
    else shelf
  | .removeRun runId => shelf.clear runId
  | .thumbnail _ | .read _ _ | .digest _ => shelf

/-- The shelf after several requests. -/
def performAll (shelf : Shelf) (calls : List Call) : Shelf :=
  calls.foldl perform shelf

end Shelf

/-- A request leaves the place of a step as it is. -/
def Leaves (call : Call) (runId stepId : String) : Prop :=
  call ≠ .removeRun runId ∧
    ∀ content, Proper runId stepId content → call ≠ .capture runId stepId content

/-- The last picture of a step that was taken since its run was last removed. -/
def Lasts (calls : List Call) (runId stepId : String) (content : Bytes) : Prop :=
  ∃ early late, calls = early ++ .capture runId stepId content :: late ∧
    Proper runId stepId content ∧ Fits runId stepId ∧ ∀ call ∈ late, Leaves call runId stepId

/-- The path of a directory is one that a disk accepts, and leaves room for more names. -/
structure Legible (room : Nat) (location : Location) : Prop where
  clean : (Path.render location).contains '\x00' = false
  short : (Path.render location).utf8ByteSize + room < Disk.pathLimit

/-- A directory whose path leaves room for the path of each picture in it. -/
def Roomy (root : Location) : Prop := Legible (2 * Disk.nameLimit + 7) root

/-- The screenshots keep their files in order, and these are the pictures of a shelf. -/
structure Stocked (artifacts : Artifacts) (shelf : Shelf) : Prop where
  tidy : ∃ runIds, artifacts.Tidy runIds
  ready : artifacts.Ready
  roomy : Roomy artifacts.root
  fits : ∀ runId stepId, shelf runId stepId ≠ none →
    isKey runId = true ∧ isKey stepId = true ∧ Fits runId stepId
  filled : ∀ runId stepId, isKey runId = true → isKey stepId = true →
    artifacts.disk.node? (artifacts.location runId stepId) = (shelf runId stepId).map Node.file

variable {artifacts after : Artifacts} {shelf : Shelf} {runId stepId : String} {content : Bytes}

section Histories

variable {calls : List Call} {call : Call}

/-- A list with one more item splits at this item, or at an item before it. -/
theorem exists_split_concat_iff {α : Type} {marks : List α → α → Prop} {stays : α → Prop}
    {items : List α} {last : α} :
    (∃ early item late, items ++ [last] = early ++ item :: late ∧ marks early item ∧
        ∀ later ∈ late, stays later) ↔
      marks items last ∨ (∃ early item late, items = early ++ item :: late ∧ marks early item ∧
        ∀ later ∈ late, stays later) ∧ stays last := by
  constructor
  · rintro ⟨early, item, late, whole, marked, stayed⟩
    rcases List.eq_nil_or_concat' late with rfl | ⟨between, final, rfl⟩
    · obtain ⟨rfl, same⟩ := List.append_inj' whole rfl
      exact .inl (List.singleton_inj.1 same ▸ marked)
    · have split : items ++ [last] = (early ++ item :: between) ++ [final] := by simp [whole]
      obtain ⟨rfl, same⟩ := List.append_inj' split rfl
      obtain rfl := List.singleton_inj.1 same
      obtain ⟨before, stays⟩ := List.forall_mem_append.1 stayed
      exact .inr ⟨⟨early, item, between, rfl, marked, before⟩,
        stays last (List.mem_singleton_self last)⟩
  · rintro (marked | ⟨⟨early, item, late, rfl, marked, stayed⟩, stays⟩)
    · exact ⟨items, last, [], rfl, marked, List.forall_mem_nil _⟩
    · exact ⟨early, item, late ++ [last], by simp, marked,
        List.forall_mem_append.2 ⟨stayed, List.forall_mem_singleton.2 stays⟩⟩

/-- The last request puts the picture in its place, or it leaves the place as it is. -/
theorem lasts_concat_iff : Lasts (calls ++ [call]) runId stepId content ↔
    (call = .capture runId stepId content ∧ Proper runId stepId content ∧ Fits runId stepId) ∨
      (Lasts calls runId stepId content ∧ Leaves call runId stepId) := by
  have marked (calls : List Call) : Lasts calls runId stepId content ↔
      ∃ early call late, calls = early ++ call :: late ∧
        (call = .capture runId stepId content ∧ Proper runId stepId content ∧
          Fits runId stepId) ∧ ∀ later ∈ late, Leaves later runId stepId := by
    constructor
    · rintro ⟨early, late, whole, proper, fits, left⟩
      exact ⟨early, _, late, whole, ⟨rfl, proper, fits⟩, left⟩
    · rintro ⟨early, call, late, whole, ⟨rfl, proper, fits⟩, left⟩
      exact ⟨early, late, whole, proper, fits, left⟩
  rw [marked, marked]
  exact exists_split_concat_iff

/-- The place of a step has the last picture that was taken since its run was last removed. -/
theorem Shelf.performAll_eq_some_iff :
    Shelf.empty.performAll calls runId stepId = some content ↔
      Lasts calls runId stepId content := by
  induction calls using List.reverseRecOn with
  | nil =>
    refine iff_of_false nofun ?_
    rintro ⟨early, late, whole, -⟩
    simp at whole
  | append_singleton calls call inductionHypothesis =>
    rw [lasts_concat_iff, ← inductionHypothesis, Shelf.performAll, List.foldl_append,
      ← Shelf.performAll]
    show (Shelf.empty.performAll calls).perform call runId stepId = some content ↔ _
    cases call with
    | capture run step picture =>
      by_cases accepted : Proper run step picture ∧ Fits run step
      · by_cases same : runId = run ∧ stepId = step
        · obtain ⟨rfl, rfl⟩ := same
          have blocked : ¬Leaves (.capture runId stepId picture) runId stepId :=
            fun leaves => leaves.2 picture accepted.1 rfl
          simp only [Shelf.perform, if_pos accepted, Shelf.put, and_self, if_true, blocked,
            and_false, or_false, Option.some.injEq, Call.capture.injEq, true_and]
          exact ⟨fun same => ⟨same, same ▸ accepted⟩, And.left⟩
        · have leaves : Leaves (.capture run step picture) runId stepId :=
            ⟨nofun, fun _ _ taken => same (by cases taken; exact ⟨rfl, rfl⟩)⟩
          have other : Call.capture run step picture ≠ .capture runId stepId content :=
            fun taken => same (by cases taken; exact ⟨rfl, rfl⟩)
          simp [Shelf.perform, accepted, Shelf.put, same, leaves, other]
      · have kept : (Shelf.empty.performAll calls).perform (.capture run step picture) =
            Shelf.empty.performAll calls := if_neg accepted
        rw [kept, inductionHypothesis]
        constructor
        · intro lasts
          refine .inr ⟨lasts, nofun, fun other proper taken => ?_⟩
          obtain ⟨-, -, -, -, fits, -⟩ := lasts
          cases taken
          exact accepted ⟨proper, fits⟩
        · rintro (⟨taken, proper, fits⟩ | ⟨lasts, -⟩)
          · cases taken
            exact absurd ⟨proper, fits⟩ accepted
          · exact lasts
    | removeRun run =>
      by_cases same : runId = run
      · subst same
        have blocked : ¬Leaves (.removeRun runId) runId stepId := fun leaves => leaves.1 rfl
        simp [Shelf.perform, Shelf.clear, blocked]
      · have leaves : Leaves (.removeRun run) runId stepId :=
          ⟨fun removed => same (by cases removed; rfl), nofun⟩
        simp [Shelf.perform, Shelf.clear, same, leaves]
    | thumbnail path => simp [Shelf.perform, Leaves]
    | read path variant => simp [Shelf.perform, Leaves]
    | digest path => simp [Shelf.perform, Leaves]

end Histories

section Paths

theorem render_child (place : Location) (name : String) :
    Path.render (place ++ [name]) =
      (if place = [] then "/" else Path.render place ++ "/") ++ name := by
  split
  · next top => simp [top, Path.render]
  · next inner =>
    simp only [Path.render]
    rw [String.intercalate_append_of_ne_nil inner (List.cons_ne_nil _ _),
      String.intercalate_singleton, ← String.append_assoc, ← String.append_assoc]

/-- A name takes its own room and that of a slash. -/
theorem Legible.child {room : Nat} {place : Location} {name : String}
    (legible : Legible (name.utf8ByteSize + 1 + room) place) (clean : '\x00' ∉ name.toList) :
    Legible room (place ++ [name]) := by
  have marks := legible.clean
  rw [String.contains_char_eq, decide_eq_false_iff_not] at marks
  have slash : "/".utf8ByteSize = 1 := by decide
  constructor
  · rw [render_child, String.contains_char_eq, decide_eq_false_iff_not]
    split <;> simp [clean, marks]
  · have short := legible.short
    have top : 0 < (Path.render place).utf8ByteSize := by
      simp [Path.render, String.utf8ByteSize_append, slash]
    rw [render_child, String.utf8ByteSize_append]
    split
    · omega
    · rw [String.utf8ByteSize_append]
      omega

theorem Legible.mono {room less : Nat} {place : Location} (legible : Legible room place)
    (fewer : less ≤ room) : Legible less place :=
  ⟨legible.clean, by have short := legible.short; omega⟩

/-- There is room for the path of the directory of a run. -/
theorem Roomy.runDirectory (roomy : Roomy artifacts.root) (key : isKey runId = true)
    (short : runId.utf8ByteSize ≤ Disk.nameLimit) :
    Legible (Disk.nameLimit + 1) (artifacts.runDirectory runId) := by
  have runs : "runs".utf8ByteSize = 4 := by decide
  rw [runDirectory_eq]
  refine ((roomy.mono ?_).child (by decide)).child (nulFree_of_isKey key)
  omega

/-- Each step whose names fit has a place for its picture. -/
theorem Roomy.placeable (roomy : Roomy artifacts.root) (run : isKey runId = true)
    (step : isKey stepId = true) (fits : Fits runId stepId) :
    artifacts.Placeable runId stepId where
  run := run
  runShort := fits.1
  step := step
  stepShort := fits.2
  legible := by
    have clean : '\x00' ∉ (stepId ++ ".png").toList := by
      rw [String.toList_append, List.mem_append]
      exact not_or.2 ⟨nulFree_of_isKey step, by decide⟩
    have room : (stepId ++ ".png").utf8ByteSize + 1 + 0 ≤ Disk.nameLimit + 1 := by
      have short := fits.2
      omega
    have legible := ((roomy.runDirectory run fits.1).mono room).child clean
    exact ⟨legible.clean, legible.short⟩

end Paths

section Keeping

theorem pathOf_eq (same : after.root = artifacts.root) (runId stepId : String) :
    after.pathOf runId stepId = artifacts.pathOf runId stepId := by
  rw [pathOf, location, runDirectory, same, pathOf, location, runDirectory]

/-- A thumbnail changes as much as a read of it. -/
theorem perform_thumbnail (artifacts : Artifacts) (path : String) :
    artifacts.perform (.thumbnail path) = (artifacts.read path .thumbnail).2 := by
  simp only [perform, thumbnail, Artifacts.read, target]
  cases artifacts.contain path with
  | error error => rfl
  | ok full =>
    simp only [bind, Except.bind]
    cases artifacts.thumbnailAt full <;> rfl

theorem Stocked.read (stocked : artifacts.Stocked shelf) (path : String) (variant : Variant) :
    (artifacts.read path variant).2.Stocked shelf := by
  obtain ⟨runIds, tidy⟩ := stocked.tidy
  have root := artifacts.root_read path variant
  refine ⟨⟨runIds, tidy.read path variant⟩, stocked.ready.read path variant, root ▸ stocked.roomy,
    stocked.fits, fun runId stepId run step => ?_⟩
  rw [location, runDirectory, root, ← stocked.filled runId stepId run step]
  exact node?_read step path variant

/-- The removal of a run clears the places of its steps. -/
theorem Stocked.purged (stocked : artifacts.Stocked shelf)
    (purged : artifacts.Purged [runId] after) : after.Stocked (shelf.clear runId) := by
  obtain ⟨runIds, tidy⟩ := stocked.tidy
  refine ⟨⟨runIds, tidy.purged purged fun _ known => .inr known⟩, stocked.ready.purged purged,
    purged.root ▸ stocked.roomy, fun run step present => ?_, fun run step runKey stepKey => ?_⟩
  · unfold Shelf.clear at present
    split at present
    · exact absurd rfl present
    · exact stocked.fits run step present
  · rw [location_eq, purged.runDirectory_eq, Shelf.clear]
    split
    · next same =>
      subst same
      exact purged.gone run (List.mem_singleton_self run) _
        (Path.isBelow_iff.2 (List.prefix_append _ _))
    · next other =>
      rw [purged.node?_runDirectory (by simpa using other), ← location_eq]
      exact stocked.filled run step runKey stepKey

theorem Stocked.removeRun (stocked : artifacts.Stocked shelf) (runId : String) :
    ((artifacts.removeRun runId).toOption.getD artifacts).Stocked (shelf.clear runId) := by
  obtain ⟨runIds, tidy⟩ := stocked.tidy
  exact stocked.purged (tidy.purged_removeRun runId)

/-- A picture that is proper and fits takes its place. -/
theorem Stocked.capture_accepted (stocked : artifacts.Stocked shelf)
    (proper : Proper runId stepId content) (fits : Fits runId stepId) :
    (artifacts.capture runId stepId content).1 = .ok (artifacts.pathOf runId stepId) ∧
      (artifacts.capture runId stepId content).2.Stocked (shelf.put runId stepId content) := by
  obtain ⟨run, step, filled⟩ := proper
  obtain ⟨runIds, tidy⟩ := stocked.tidy
  have known : artifacts.Tidy (runId :: runIds) := tidy.mono (List.subset_cons_self _ _)
  have placeable := stocked.roomy.placeable run step fits
  obtain ⟨answer, files⟩ :=
    stocked.ready.capture_filled known List.mem_cons_self placeable filled
  refine ⟨answer, ⟨_, known.capture List.mem_cons_self stepId content⟩, files.ready,
    files.root ▸ stocked.roomy, fun other last present => ?_, fun other last otherKey lastKey => ?_⟩
  · unfold Shelf.put at present
    split at present
    · next same => exact same.1 ▸ same.2 ▸ ⟨run, step, fits⟩
    · exact stocked.fits other last present
  · rw [location, runDirectory, files.root, Shelf.put]
    change Disk.node? _ (artifacts.location other last) = _
    split
    · next same =>
      rw [same.1, same.2]
      exact files.file
    · next different =>
      rw [files.others other last fun same => different (location_inj same)]
      exact stocked.filled other last otherKey lastKey

/-- Only a picture that is proper and fits is stored. -/
theorem Stocked.accepts (stocked : artifacts.Stocked shelf) {path : String}
    (stored : (artifacts.capture runId stepId content).1 = .ok path) :
    Proper runId stepId content ∧ Fits runId stepId := by
  obtain ⟨runIds, tidy⟩ := stocked.tidy
  have known : artifacts.Tidy (runId :: runIds) := tidy.mono (List.subset_cons_self _ _)
  have filled : content ≠ [] := by
    intro empty
    have refused := (artifacts.capture_empty runId stepId).1
    rw [← empty, stored] at refused
    cases refused
  obtain ⟨_, same⟩ | ⟨run, step, disk, made, ⟨_, same⟩ | ⟨last, replaced, -⟩⟩ :=
    artifacts.capture_cases runId stepId content
  · rw [same] at stored
    cases stored
  · rw [same] at stored
    cases stored
  · obtain ⟨tidy, house⟩ := known.makeDirectories List.mem_cons_self run made
    obtain ⟨-, short, -⟩ := Disk.replace_render (house.canonical tidy) house.directory
      (plain_picture step) replaced
    exact ⟨⟨run, step, filled⟩, house.short, short⟩

/-- A picture that is refused leaves the shelf as it is. -/
theorem Stocked.capture_refused (stocked : artifacts.Stocked shelf)
    (refused : ¬(Proper runId stepId content ∧ Fits runId stepId)) :
    (artifacts.capture runId stepId content).1.toOption = none ∧
      (artifacts.capture runId stepId content).2.Stocked shelf := by
  obtain ⟨_, same⟩ | ⟨run, step, disk, made, ⟨_, same⟩ | ⟨last, -, same⟩⟩ :=
    artifacts.capture_cases runId stepId content
  · rw [same]
    exact ⟨rfl, stocked⟩
  · obtain ⟨runIds, tidy⟩ := stocked.tidy
    have known : artifacts.Tidy (runId :: runIds) := tidy.mono (List.subset_cons_self _ _)
    obtain ⟨-, house⟩ := known.makeDirectories List.mem_cons_self run made
    obtain ⟨again, madeAgain, others, ready, tidy, -⟩ :=
      known.makeDirectories_run stocked.ready List.mem_cons_self run house.short
    obtain rfl := Except.ok.inj (made.symm.trans madeAgain)
    rw [same]
    refine ⟨rfl, ⟨_, tidy⟩, ready, stocked.roomy, stocked.fits,
      fun other last otherKey lastKey => ?_⟩
    exact (others _ (location_ne_runDirectory runId)).trans
      (stocked.filled other last otherKey lastKey)
  · exact absurd (stocked.accepts (congrArg Prod.fst same)) refused

theorem Stocked.capture (stocked : artifacts.Stocked shelf) (runId stepId : String)
    (content : Bytes) :
    (artifacts.capture runId stepId content).1.toOption =
        (if Proper runId stepId content ∧ Fits runId stepId then
          some (artifacts.pathOf runId stepId) else none) ∧
      (artifacts.capture runId stepId content).2.Stocked
        (shelf.perform (.capture runId stepId content)) := by
  by_cases accepted : Proper runId stepId content ∧ Fits runId stepId
  · obtain ⟨answer, kept⟩ := stocked.capture_accepted accepted.1 accepted.2
    rw [Shelf.perform, if_pos accepted, if_pos accepted, answer]
    exact ⟨rfl, kept⟩
  · obtain ⟨answer, kept⟩ := stocked.capture_refused accepted
    rw [Shelf.perform, if_neg accepted, if_neg accepted]
    exact ⟨answer, kept⟩

/-- One request does the same to the screenshots and to the shelf. -/
theorem Stocked.perform (stocked : artifacts.Stocked shelf) (call : Call) :
    (artifacts.perform call).Stocked (shelf.perform call) := by
  cases call with
  | capture runId stepId content => exact (stocked.capture runId stepId content).2
  | thumbnail path =>
    rw [perform_thumbnail]
    exact stocked.read path .thumbnail
  | read path variant => exact stocked.read path variant
  | digest path => exact stocked
  | removeRun runId => exact stocked.removeRun runId

theorem Stocked.performAll (stocked : artifacts.Stocked shelf) (calls : List Call) :
    (artifacts.performAll calls).Stocked (shelf.performAll calls) := by
  induction calls generalizing artifacts shelf with
  | nil => exact stocked
  | cons call rest inductionHypothesis => exact inductionHypothesis (stocked.perform call)

theorem root_perform (artifacts : Artifacts) (call : Call) :
    (artifacts.perform call).root = artifacts.root := by
  cases call with
  | capture runId stepId content => exact artifacts.root_capture runId stepId content
  | thumbnail path =>
    rw [perform_thumbnail]
    exact artifacts.root_read path .thumbnail
  | read path variant => exact artifacts.root_read path variant
  | digest path => rfl
  | removeRun runId =>
    show ((artifacts.removeRun runId).toOption.getD artifacts).root = artifacts.root
    cases removed : artifacts.removeRun runId with
    | error error => rfl
    | ok after =>
      simp only [Artifacts.removeRun] at removed
      obtain ⟨_, -, removed⟩ := bind_eq_ok_iff.1 removed
      split at removed
      · obtain ⟨disk, -, same⟩ := bind_eq_ok_iff.1 removed
        rw [pure_eq_ok_iff] at same
        exact same ▸ rfl
      · rw [pure_eq_ok_iff] at removed
        exact removed ▸ rfl

theorem root_performAll (artifacts : Artifacts) (calls : List Call) :
    (artifacts.performAll calls).root = artifacts.root := by
  induction calls generalizing artifacts with
  | nil => rfl
  | cons call rest inductionHypothesis =>
    exact (inductionHypothesis (artifacts.perform call)).trans (artifacts.root_perform call)

end Keeping

end StepRunner.Artifacts
