import StepRunner.Proofs.Artifacts.Containment
import StepRunner.Proofs.Disk.Visits

/-!
This file shows what the answers to a request tell about the disk around the screenshots.
Two disks that have the same screenshots are compared by what they answer to one request.
A request that stays on the way to the directory and in it is answered alike, but one that passes
through a place outside tells whether a directory stands there.
-/

namespace StepRunner.Artifacts

open StepRunner.Path (Location Plain isBelow)

/-- Two disks have one directory of screenshots, and the same stands in it. -/
structure Shares (first second : Artifacts) : Prop where
  root : second.root = first.root
  canonical : first.disk.Canonical first.root ∧ second.disk.Canonical first.root
  inside : ∀ location, isBelow first.root location = true →
    second.disk.node? location = first.disk.node? location

/-- A request leads to a place in the directory. -/
def Finds (artifacts : Artifacts) (path : String) (full : Location) : Prop :=
  artifacts.disk.resolve (artifacts.requested path) = .ok full ∧ isBelow artifacts.root full = true

/-- The text of a request climbs, or it is no text of a path in the directory. -/
def Wayward (artifacts : Artifacts) (path : String) : Prop :=
  Path.climbs (artifacts.requested path) = true ∨
    isBelow artifacts.root (Path.names (artifacts.requested path)) = false

instance (artifacts : Artifacts) (path : String) : Decidable (artifacts.Wayward path) :=
  inferInstanceAs (Decidable (_ ∨ _))

/-- A place is in the directory, or on the way to it. -/
def Along (artifacts : Artifacts) (place : Location) : Prop :=
  place <+: artifacts.root ∨ artifacts.root <+: place

/-- A path that goes up from a directory as far as it can, and from there to a file. -/
def detour (directory file : Location) : String :=
  Path.render (directory ++ List.replicate directory.length ".." ++ file)

/-- What the answers of two disks to one request tell apart. -/
structure Discerned (first second : Artifacts) (path : String) : Prop where
  same_iff : (first.read path .full).1 = (second.read path .full).1 ↔
    (∃ full other, first.Finds path full ∧ second.Finds path other ∧
        first.disk.read (Path.render full) = first.disk.read (Path.render other)) ∨
      ((∀ full, ¬first.Finds path full) ∧ (∀ other, ¬second.Finds path other) ∧
        (first.Wayward path ∨ first.disk.isThere (first.requested path) =
          second.disk.isThere (first.requested path)))
  unmoved : (∀ seen, first.disk.Looks Disk.linkLimit [] (Path.pieces (first.requested path)) seen →
      first.Along seen) →
    (first.read path .full).1 = (second.read path .full).1
  level : Path.isAbsolute path = false → Path.climbs path = false →
    (∀ location target, isBelow first.root location = true →
      first.disk.node? location ≠ some (.link target)) →
    (first.read path .full).1 = (second.read path .full).1
  told : ∀ directory file content, first.disk.Canonical directory →
    first.disk.isDirectory directory = true →
    (∀ place, second.disk.Leads [] directory place → second.disk.isDirectory place = false) →
    first.Finds (Path.render file) file → first.disk.read (Path.render file) = .ok content →
    path = detour directory file → path.contains '\x00' = false →
    path.utf8ByteSize < Disk.pathLimit →
    (first.read path .full).1 = .ok content ∧
      (second.read path .full).1 = .error (.outsideRoot path)

variable {artifacts first second : Artifacts} {path : String} {full place : Location}

section Answers

theorem contain_of_finds (finds : artifacts.Finds path full) : artifacts.contain path = .ok full :=
  contain_eq_ok_iff.2 finds

/-- A request that finds nothing is answered by where it leads, or else by its text. -/
theorem contain_of_lost (lost : ∀ full, ¬artifacts.Finds path full) :
    artifacts.contain path = .error
      (if artifacts.Wayward path ∨ artifacts.disk.isThere (artifacts.requested path) = true then
        .outsideRoot path
      else .notFound path) := by
  unfold contain Disk.isThere
  cases resolved : artifacts.disk.resolve (artifacts.requested path) with
  | ok full =>
    have outside : ¬isBelow artifacts.root full = true := fun below => lost full ⟨resolved, below⟩
    simp [outside]
  | error fault =>
    simp only [Bool.or_eq_true, Bool.not_eq_true', Wayward]
    split <;> simp_all

theorem read_of_finds (finds : artifacts.Finds path full) :
    (artifacts.read path .full).1 = onDisk (artifacts.disk.read (Path.render full)) := by
  rw [Artifacts.read, contain_of_finds finds]
  rfl

theorem read_of_lost (lost : ∀ full, ¬artifacts.Finds path full) :
    (artifacts.read path .full).1 = .error
      (if artifacts.Wayward path ∨ artifacts.disk.isThere (artifacts.requested path) = true then
        .outsideRoot path
      else .notFound path) := by
  rw [Artifacts.read, contain_of_lost lost]

theorem onDisk_injective {α : Type} : Function.Injective (onDisk (α := α)) := by
  intro result other same
  cases result <;> cases other <;> cases same <;> rfl

/-- What a disk answers is not what the screenshots say of a request that finds nothing. -/
theorem onDisk_ne_of_lost {α : Type} (result : Except IoError α) (condition : Prop)
    [Decidable condition] :
    onDisk result ≠ .error (if condition then .outsideRoot path else .notFound path) := by
  intro same
  cases result with
  | ok found => cases same
  | error fault => split at same <;> cases same

end Answers

section Sharing

/-- What stands in the directory and on the way to it is the same on both disks. -/
theorem Shares.node?_of_along (shares : Shares first second) (along : first.Along place) :
    second.disk.node? place = first.disk.node? place := by
  rcases along with above | below
  · by_cases same : place = first.root
    · subst same
      exact shares.inside _ (Path.isBelow_iff.2 (List.prefix_refl _))
    · obtain ⟨-, one⟩ := Disk.Canonical.of_prefix shares.canonical.1 above
      obtain ⟨-, two⟩ := Disk.Canonical.of_prefix shares.canonical.2 above
      specialize one same
      specialize two same
      rw [Disk.isDirectory, decide_eq_true_eq] at one two
      rw [one, two]
  · exact shares.inside place (Path.isBelow_iff.2 below)

/-- What a place in the directory passes through is in the directory, or on the way to it. -/
theorem along_of_above (below : isBelow artifacts.root full = true) (above : place <+: full) :
    artifacts.Along place :=
  List.prefix_or_prefix_of_prefix above (Path.isBelow_iff.1 below)

/-- The text of a canonical location leads to it, if it is a text of a path. -/
theorem read_render {disk : Disk} (canonical : disk.Canonical full) :
    disk.read (Path.render full) =
      if (Path.render full).contains '\x00' then .error .invalidName
      else if Disk.pathLimit ≤ (Path.render full).utf8ByteSize then .error .nameTooLong
      else disk.readAt full := by
  have filled : (Path.render full).isEmpty = false := by simp [Path.render]
  rw [Disk.read, Disk.resolve, filled, if_neg Bool.false_ne_true, Disk.walk_render canonical]
  split
  · rfl
  · split <;> rfl

/-- The text of a place in the directory reads alike on both disks. -/
theorem Shares.read_eq (shares : Shares first second) (canonical : second.disk.Canonical full)
    (below : isBelow first.root full = true) :
    second.disk.read (Path.render full) = first.disk.read (Path.render full) := by
  have other : first.disk.Canonical full := canonical.congr fun place above =>
    (shares.node?_of_along (along_of_above below above)).symm
  rw [read_render canonical, read_render other, Disk.readAt, Disk.readAt, shares.inside full below]

theorem Shares.requested_eq (shares : Shares first second) (path : String) :
    second.requested path = first.requested path := by
  rw [requested, requested, rootText, rootText, shares.root]

theorem Shares.wayward_iff (shares : Shares first second) :
    second.Wayward path ↔ first.Wayward path := by
  rw [Wayward, Wayward, shares.requested_eq, shares.root]

theorem Shares.read_of_finds (shares : Shares first second) (finds : second.Finds path full) :
    (second.read path .full).1 = onDisk (first.disk.read (Path.render full)) := by
  have below := finds.2
  rw [shares.root] at below
  rw [Artifacts.read_of_finds finds, shares.read_eq (Disk.resolve_canonical finds.1) below]

/-- A request that leads to one place on both disks is answered alike. -/
theorem Shares.read_of_resolve (shares : Shares first second)
    (same : second.disk.resolve (first.requested path) =
      first.disk.resolve (first.requested path)) :
    (first.read path .full).1 = (second.read path .full).1 := by
  have finds_iff (full : Location) : second.Finds path full ↔ first.Finds path full := by
    rw [Finds, Finds, shares.requested_eq, shares.root, same]
  by_cases found : ∃ full, first.Finds path full
  · obtain ⟨full, finds⟩ := found
    rw [Artifacts.read_of_finds finds, shares.read_of_finds ((finds_iff full).2 finds)]
  · have lost : ∀ full, ¬first.Finds path full := not_exists.1 found
    have other : ∀ full, ¬second.Finds path full := fun full finds =>
      lost full ((finds_iff full).1 finds)
    have there : second.disk.isThere (first.requested path) =
        first.disk.isThere (first.requested path) := by rw [Disk.isThere, Disk.isThere, same]
    rw [read_of_lost lost, read_of_lost other]
    simp only [shares.wayward_iff, shares.requested_eq, there]

/-- The answers differ only where one disk leads to another place than the other disk. -/
theorem Shares.same_iff (shares : Shares first second) (path : String) :
    (first.read path .full).1 = (second.read path .full).1 ↔
      (∃ full other, first.Finds path full ∧ second.Finds path other ∧
          first.disk.read (Path.render full) = first.disk.read (Path.render other)) ∨
        ((∀ full, ¬first.Finds path full) ∧ (∀ other, ¬second.Finds path other) ∧
          (first.Wayward path ∨ first.disk.isThere (first.requested path) =
            second.disk.isThere (first.requested path))) := by
  by_cases found : ∃ full, first.Finds path full
  · obtain ⟨full, finds⟩ := found
    rw [Artifacts.read_of_finds finds]
    by_cases again : ∃ other, second.Finds path other
    · obtain ⟨other, leads⟩ := again
      rw [shares.read_of_finds leads, onDisk_injective.eq_iff]
      constructor
      · exact fun same => .inl ⟨full, other, finds, leads, same⟩
      · rintro (⟨one, two, early, late, same⟩ | ⟨lost, -⟩)
        · obtain rfl := Except.ok.inj (finds.1.symm.trans early.1)
          obtain rfl := Except.ok.inj (leads.1.symm.trans late.1)
          exact same
        · exact absurd finds (lost full)
    · have lost : ∀ other, ¬second.Finds path other := not_exists.1 again
      rw [read_of_lost lost]
      refine iff_of_false (onDisk_ne_of_lost _ _) ?_
      rintro (⟨-, other, -, leads, -⟩ | ⟨none, -⟩)
      · exact lost other leads
      · exact none full finds
  · have lost : ∀ full, ¬first.Finds path full := not_exists.1 found
    rw [read_of_lost lost]
    by_cases again : ∃ other, second.Finds path other
    · obtain ⟨other, leads⟩ := again
      rw [shares.read_of_finds leads]
      refine iff_of_false (fun same => onDisk_ne_of_lost _ _ same.symm) ?_
      rintro (⟨full, -, finds, -⟩ | ⟨-, none, -⟩)
      · exact lost full finds
      · exact none other leads
    · have none : ∀ other, ¬second.Finds path other := not_exists.1 again
      have nowhere : ¬∃ full other, first.Finds path full ∧ second.Finds path other ∧
          first.disk.read (Path.render full) = first.disk.read (Path.render other) := by
        rintro ⟨full, -, finds, -⟩
        exact lost full finds
      rw [read_of_lost none, shares.requested_eq, or_iff_right nowhere]
      simp only [shares.wayward_iff, lost, none, not_false_eq_true, implies_true, true_and]
      by_cases wayward : first.Wayward path
      · simp [wayward]
      · cases first.disk.isThere (first.requested path) <;>
          cases second.disk.isThere (first.requested path) <;> simp [wayward]

/-- A request whose way stays along the directory is answered alike. -/
theorem Shares.unmoved (shares : Shares first second)
    (near : ∀ seen, first.disk.Looks Disk.linkLimit [] (Path.pieces (first.requested path)) seen →
      first.Along seen) :
    (first.read path .full).1 = (second.read path .full).1 := by
  apply shares.read_of_resolve
  have same := Disk.walk_congr fun seen looks => shares.node?_of_along (near seen looks)
  rw [Disk.resolve, Disk.resolve, same]

end Sharing

section Paths

theorem pieces_slash (front back : String) :
    Path.pieces (front ++ "/" ++ back) = Path.pieces front ++ Path.pieces back := by
  have text : (front ++ "/" ++ back).toList = front.toList ++ '/' :: back.toList := by simp
  rw [Path.pieces, text, Text.splitAt_append, List.map_append, Path.pieces, Path.pieces]

/-- Only the text of the top ends in a slash. -/
theorem getLast?_render_ne (plain : ∀ name ∈ place, Plain name) (inner : place ≠ []) :
    (Path.render place).toList.getLast? ≠ some '/' := by
  intro last
  obtain ⟨front, whole⟩ := List.getLast?_eq_some_iff.1 last
  have text : Path.render place = String.ofList front ++ "/" ++ "" := by
    rw [← String.toList_inj, whole]
    simp
  have split := Path.pieces_render fun name present => (plain name present).slashFree
  rw [if_neg inner, text, pieces_slash] at split
  have ends : place.getLast inner = "" := by
    have same := congrArg List.getLast? split
    rw [List.getLast?_append, List.getLast?_cons, List.getLast?_eq_some_getLast inner] at same
    exact (Option.some.inj same).symm
  exact (plain _ (List.getLast_mem inner)).ne_empty ends

/-- The pieces of a relative request come after the names of the directory. -/
theorem pieces_requested (plain : ∀ name ∈ artifacts.root, Plain name)
    (relative : Path.isAbsolute path = false) :
    Path.pieces (artifacts.requested path) = "" :: (artifacts.root ++ Path.pieces path) := by
  have filled : (Path.render artifacts.root).isEmpty = false := by simp [Path.render]
  unfold requested Path.join rootText
  rw [if_neg (by simp [relative])]
  by_cases top : artifacts.root = []
  · have text : Path.render artifacts.root = "" ++ "/" := by
      rw [top]
      rfl
    have last : (Path.render artifacts.root).toList.getLast? = some '/' := by simp [text]
    rw [if_pos (by simp [last]), text, pieces_slash, top]
    rfl
  · have last := getLast?_render_ne plain top
    have split := Path.pieces_render fun name present => (plain name present).slashFree
    rw [if_neg top] at split
    rw [if_neg (by simp [filled, last]), pieces_slash, split]
    rfl

/-- A request that only goes down stays along a directory without links. -/
theorem along_of_level (canonical : artifacts.disk.Canonical artifacts.root)
    (relative : Path.isAbsolute path = false) (level : Path.climbs path = false)
    (solid : ∀ location target, isBelow artifacts.root location = true →
      artifacts.disk.node? location ≠ some (.link target))
    (looks : artifacts.disk.Looks Disk.linkLimit []
      (Path.pieces (artifacts.requested path)) place) :
    artifacts.Along place := by
  have stays : ".." ∉ Path.pieces path := by
    intro present
    have named : ".." ∈ Path.names path := List.mem_filter.2 ⟨present, by decide⟩
    simp [Path.climbs, named] at level
  rw [pieces_requested canonical.plain relative] at looks
  rcases looks.of_idle (.inl rfl) with rfl | later
  · exact .inl List.nil_prefix
  · rcases later.goes_along canonical with above | beyond
    · exact .inl above
    · refine .inr (beyond.stays_inside (List.prefix_refl _) stays fun location target below => ?_)
      exact solid location target (Path.isBelow_iff.2 below)

end Paths

section Detours

variable {directory file : Location} {content : Bytes}

theorem requested_detour (artifacts : Artifacts) (directory file : Location) :
    artifacts.requested (detour directory file) = detour directory file := by
  have absolute : Path.isAbsolute (detour directory file) = true := by
    simp [detour, Path.isAbsolute, Path.render]
  rw [requested, Path.join, if_pos absolute]

/-- The pieces of a detour go to a directory, up to the top, and down to a file. -/
theorem pieces_detour (canonical : first.disk.Canonical directory)
    (slashFree : ∀ name ∈ file, Path.SlashFree name) (inner : directory ≠ []) :
    Path.pieces (detour directory file) =
      "" :: (directory ++ (List.replicate directory.length ".." ++ file)) := by
  have up : ∀ name ∈ List.replicate directory.length "..", Path.SlashFree name := by
    intro name present
    rw [List.eq_of_mem_replicate present, Path.SlashFree]
    decide
  have clean : ∀ name ∈ directory ++ (List.replicate directory.length ".." ++ file),
      Path.SlashFree name :=
    List.forall_mem_append.2 ⟨fun name present => (canonical.plain name present).slashFree,
      List.forall_mem_append.2 ⟨up, slashFree⟩⟩
  rw [detour, List.append_assoc, Path.pieces_render clean, if_neg (by simp [inner])]

/-- A detour over a directory leads to the file. -/
theorem resolve_detour (canonical : first.disk.Canonical directory)
    (there : first.disk.isDirectory directory = true) (inner : directory ≠ [])
    (filed : first.disk.Canonical file) (clean : (detour directory file).contains '\x00' = false)
    (short : (detour directory file).utf8ByteSize < Disk.pathLimit) :
    first.disk.resolve (detour directory file) = .ok file := by
  have filled : (detour directory file).isEmpty = false := by simp [detour, Path.render]
  have slashFree : ∀ name ∈ file, Path.SlashFree name := fun name present =>
    (filed.plain name present).slashFree
  have top : first.disk.isDirectory [] = true := by simp [Disk.isDirectory, Disk.node?]
  refine Disk.resolve_eq_ok_iff.2 ⟨filled, clean, short, ?_⟩
  calc first.disk.walk Disk.linkLimit [] (Path.pieces (detour directory file))
      = first.disk.walk Disk.linkLimit []
          (directory ++ (List.replicate directory.length ".." ++ file)) := by
        rw [pieces_detour canonical slashFree inner, Disk.walk_of_idle top (.inl rfl)]
    _ = first.disk.walk Disk.linkLimit directory
          (List.replicate directory.length ".." ++ file) := Disk.walk_append _ canonical
    _ = first.disk.walk Disk.linkLimit [] (file ++ []) := by
        rw [Disk.walk_parents _ canonical there, List.append_nil]
    _ = first.disk.walk Disk.linkLimit file [] := Disk.walk_append _ filed
    _ = .ok file := by rw [Disk.walk]

/-- A detour over a place that is no directory leads nowhere. -/
theorem not_finds_detour (canonical : first.disk.Canonical directory) (inner : directory ≠ [])
    (slashFree : ∀ name ∈ file, Path.SlashFree name)
    (gone : ∀ place, second.disk.Leads [] directory place →
      second.disk.isDirectory place = false) (other : Location) :
    second.disk.resolve (detour directory file) ≠ .ok other := by
  intro resolved
  obtain ⟨-, -, -, walked⟩ := Disk.resolve_eq_ok_iff.1 resolved
  rw [pieces_detour canonical slashFree inner] at walked
  obtain ⟨place, early, late⟩ := ((Disk.leads_of_walk walked).of_idle (.inl rfl)).split
  obtain ⟨count, counted⟩ := Nat.exists_eq_succ_of_ne_zero
    fun none => inner (List.eq_nil_of_length_eq_zero none)
  rw [counted, List.replicate_succ, List.cons_append] at late
  cases late with
  | stay _ idle => exact absurd idle (by decide)
  | climb there => simp [gone place early] at there
  | follow _ _ forward => exact absurd rfl forward
  | enter _ _ forward => exact absurd rfl forward

/-- A detour tells whether the directory that it passes through is there. -/
theorem read_detour (canonical : first.disk.Canonical directory)
    (there : first.disk.isDirectory directory = true)
    (gone : ∀ place, second.disk.Leads [] directory place →
      second.disk.isDirectory place = false)
    (finds : first.Finds (Path.render file) file)
    (reads : first.disk.read (Path.render file) = .ok content)
    (clean : (detour directory file).contains '\x00' = false)
    (short : (detour directory file).utf8ByteSize < Disk.pathLimit) :
    (first.read (detour directory file) .full).1 = .ok content ∧
      (second.read (detour directory file) .full).1 =
        .error (.outsideRoot (detour directory file)) := by
  have filed := Disk.resolve_canonical finds.1
  have slashFree : ∀ name ∈ file, Path.SlashFree name := fun name present =>
    (filed.plain name present).slashFree
  have inner : directory ≠ [] := by
    rintro rfl
    have top := gone [] (.done [])
    simp [Disk.isDirectory, Disk.node?] at top
  have leads : first.Finds (detour directory file) file := by
    rw [Finds, requested_detour]
    exact ⟨resolve_detour canonical there inner filed clean short, finds.2⟩
  have lost (other : Location) : ¬second.Finds (detour directory file) other := by
    rintro ⟨resolved, -⟩
    rw [requested_detour] at resolved
    exact not_finds_detour canonical inner slashFree gone other resolved
  have wayward : second.Wayward (detour directory file) := by
    have up : ".." ∈ Path.names (detour directory file) := by
      refine List.mem_filter.2 ⟨?_, by decide⟩
      simp [pieces_detour canonical slashFree inner, inner]
    rw [Wayward, requested_detour]
    exact .inl (by simp [Path.climbs, up])
  constructor
  · rw [Artifacts.read_of_finds leads, reads]
    rfl
  · rw [read_of_lost lost, if_pos (.inl wayward)]

end Detours

section Results

/--
A request is answered alike on two disks with the same screenshots, exactly where it leads to the
same on both, or leads out of the directory on both.
-/
theorem discerned (shares : Shares first second) (path : String) :
    Discerned first second path where
  same_iff := shares.same_iff path
  unmoved := shares.unmoved
  level := fun relative level solid => shares.unmoved fun _ looks =>
    along_of_level shares.canonical.1 relative level solid looks
  told := by
    rintro directory file content canonical there gone finds reads rfl clean short
    exact read_detour canonical there gone finds reads clean short

end Results

section Sample

/-- A note in a directory of screenshots, and what else stands on the disk. -/
def besideNote (others : List (Location × Node)) : Artifacts where
  root := ["artifacts"]
  disk := ⟨(["artifacts"], .directory) :: (["artifacts", "note"], .file [3]) :: others⟩

/-- A directory that stands outside. -/
def outsider : Location × Node := (["secret"], .directory)

theorem canonical_besideNote (others : List (Location × Node)) :
    (besideNote others).disk.Canonical ["artifacts"] ∧
      (besideNote others).disk.Canonical ["artifacts", "note"] := by
  have shots : Plain "artifacts" := ⟨by simp [Path.SlashFree], by decide, by decide, by decide⟩
  have note : Plain "note" := ⟨by simp [Path.SlashFree], by decide, by decide, by decide⟩
  have top : (besideNote others).disk.Canonical ([] ++ ["artifacts"]) :=
    .child .root (by simp [Disk.isDirectory, Disk.node?]) shots (by decide)
      (by simp [Disk.node?, besideNote]; rfl) fun _ linked => by cases linked
  have file : (besideNote others).disk.Canonical (["artifacts"] ++ ["note"]) :=
    .child top (by simp [Disk.isDirectory, Disk.node?, besideNote]) note (by decide)
      (by simp [Disk.node?, besideNote]; rfl) fun _ linked => by cases linked
  exact ⟨top, file⟩

/-- The screenshots are the same with and without the directory outside. -/
theorem shares_besideNote : (besideNote [outsider]).Shares (besideNote []) where
  root := rfl
  canonical := ⟨(canonical_besideNote _).1, (canonical_besideNote _).1⟩
  inside := by
    intro location below
    have elsewhere : ["secret"] ≠ location := by
      rintro rfl
      exact absurd below (by decide)
    simp [Disk.node?, besideNote, outsider, List.find?_cons, elsewhere]

/-- A request that passes through a directory outside is answered with the note. -/
theorem read_note_past_outsider :
    ((besideNote [outsider]).read "../secret/../artifacts/note" .full).1 = .ok [3] := by
  have split : Path.pieces "/artifacts/../secret/../artifacts/note" =
      ["", "artifacts", "..", "secret", "..", "artifacts", "note"] := by decide +kernel
  have asked : (besideNote [outsider]).requested "../secret/../artifacts/note" =
      "/artifacts/../secret/../artifacts/note" := by decide +kernel
  have clean : "/artifacts/../secret/../artifacts/note".contains '\x00' = false := by
    rw [String.contains_char_eq]
    decide
  have finds : (besideNote [outsider]).Finds "../secret/../artifacts/note"
      ["artifacts", "note"] := by
    refine ⟨?_, by decide⟩
    rw [asked]
    refine Disk.resolve_eq_ok_iff.2 ⟨by decide, clean, by decide, ?_⟩
    rw [split]
    simp [Disk.walk, Disk.isDirectory, Disk.node?, besideNote, outsider, Disk.nameLimit]
    rfl
  have short : (Path.render ["artifacts", "note"]).contains '\x00' = false := by
    rw [String.contains_char_eq]
    decide
  rw [read_of_finds finds, read_render (canonical_besideNote _).2, short,
    if_neg Bool.false_ne_true, if_neg (by decide)]
  rfl

/-- Without that directory the same request is taken to lead out of the screenshots. -/
theorem read_note_past_nothing :
    ((besideNote []).read "../secret/../artifacts/note" .full).1 =
      .error (.outsideRoot "../secret/../artifacts/note") := by
  have split : Path.pieces "/artifacts/../secret/../artifacts/note" =
      ["", "artifacts", "..", "secret", "..", "artifacts", "note"] := by decide +kernel
  have asked : (besideNote []).requested "../secret/../artifacts/note" =
      "/artifacts/../secret/../artifacts/note" := by decide +kernel
  have lost (full : Location) : ¬(besideNote []).Finds "../secret/../artifacts/note" full := by
    rintro ⟨resolved, -⟩
    rw [asked] at resolved
    obtain ⟨-, -, -, walked⟩ := Disk.resolve_eq_ok_iff.1 resolved
    have short : ¬Disk.nameLimit < "artifacts".utf8ByteSize ∧
        ¬Disk.nameLimit < "secret".utf8ByteSize := by decide
    rw [split] at walked
    simp [Disk.walk, Disk.isDirectory, Disk.node?, besideNote, short] at walked
  have wayward : (besideNote []).Wayward "../secret/../artifacts/note" := by
    left
    rw [asked]
    decide +kernel
  rw [read_of_lost lost, if_pos (.inl wayward)]

/-- The answer to one request tells whether a directory stands outside. -/
theorem told_apart_besideNote :
    ¬∀ first second : Artifacts, first.Shares second → ∀ path,
      (first.read path .full).1 = (second.read path .full).1 := by
  intro alike
  have same := alike _ _ shares_besideNote "../secret/../artifacts/note"
  rw [read_note_past_outsider, read_note_past_nothing] at same
  cases same

theorem discerned_besideNote :
    (besideNote [outsider]).Shares (besideNote []) ∧
      ((besideNote [outsider]).read "/secret/../artifacts/note" .full).1 = .ok [3] ∧
      ((besideNote []).read "/secret/../artifacts/note" .full).1 =
        .error (.outsideRoot "/secret/../artifacts/note") := by
  have secret : Plain "secret" := ⟨by simp [Path.SlashFree], by decide, by decide, by decide⟩
  have outside : (besideNote [outsider]).disk.Canonical ([] ++ ["secret"]) :=
    .child .root (by simp [Disk.isDirectory, Disk.node?]) secret (by decide)
      (by simp [Disk.node?, besideNote, outsider]; rfl) fun _ linked => by cases linked
  have missing : (besideNote []).disk.node? ([] ++ ["secret"]) = none := by
    simp [Disk.node?, besideNote]
  have gone (place : Location) (leads : (besideNote []).disk.Leads [] ["secret"] place) :
      (besideNote []).disk.isDirectory place = false :=
    absurd leads (Disk.not_leads_of_missing (by decide) (by decide) missing)
  have clean : (Path.render ["artifacts", "note"]).contains '\x00' = false := by
    rw [String.contains_char_eq]
    decide
  have finds : (besideNote [outsider]).Finds (Path.render ["artifacts", "note"])
      ["artifacts", "note"] := by
    have asked : (besideNote [outsider]).requested (Path.render ["artifacts", "note"]) =
        Path.render ["artifacts", "note"] := by decide +kernel
    refine ⟨?_, by decide⟩
    rw [asked]
    exact Disk.resolve_render (canonical_besideNote _).2 clean (by decide)
  have reads : (besideNote [outsider]).disk.read (Path.render ["artifacts", "note"]) =
      .ok [3] := by
    rw [read_render (canonical_besideNote _).2, clean, if_neg Bool.false_ne_true,
      if_neg (by decide)]
    rfl
  refine ⟨shares_besideNote, ?_⟩
  refine (discerned shares_besideNote "/secret/../artifacts/note").told ["secret"]
    ["artifacts", "note"] [3] outside ?_ gone finds reads (by decide +kernel) ?_ (by decide)
  · simp [Disk.isDirectory, Disk.node?, besideNote, outsider]
  · rw [String.contains_char_eq]
    decide

end Sample

end StepRunner.Artifacts
