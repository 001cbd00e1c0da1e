import StepRunner.Proofs.Disk.Growth

/-!
This file shows that a file that was written is read where it was written.
The way to the file may lead through links, and the file may replace a link that leads nowhere.
-/

namespace StepRunner

/-- The characters of a piece are characters of the text that was split. -/
theorem Text.subset_of_mem_splitAt {separator : Char} {text piece : List Char}
    (present : piece ∈ Text.splitAt separator text) : piece ⊆ text := by
  induction text generalizing piece with
  | nil =>
    obtain rfl := List.mem_singleton.1 present
    exact List.Subset.refl _
  | cons char rest inductionHypothesis =>
    rw [Text.splitAt] at present
    split at present
    · rcases List.mem_cons.1 present with rfl | later
      · exact List.nil_subset _
      · exact List.Subset.trans (inductionHypothesis later) (List.subset_cons_self _ _)
    · split at present
      · obtain rfl := List.mem_singleton.1 present
        simp
      · next first others split =>
        rcases List.mem_cons.1 present with rfl | later
        · exact List.cons_subset_cons _ (inductionHypothesis (by simp [split]))
        · have early : piece ⊆ rest := inductionHypothesis (by simp [split, later])
          exact List.Subset.trans early (List.subset_cons_self _ _)

/-- A character that no path has is in none of its names. -/
theorem Path.contains_of_mem_names {path name : String} {char : Char}
    (clean : path.contains char = false) (present : name ∈ names path) :
    name.contains char = false := by
  obtain ⟨chars, split, rfl⟩ := List.mem_map.1 (List.mem_of_mem_filter present)
  rw [String.contains_char_eq, decide_eq_false_iff_not] at clean ⊢
  rw [String.toList_ofList]
  exact fun inside => clean (Text.subset_of_mem_splitAt split inside)

theorem Path.pieces_ne_nil (path : String) : Path.pieces path ≠ [] := by
  rw [Path.pieces, Text.splitAt_eq_splitOn, Ne, List.map_eq_nil_iff]
  exact List.splitOn_ne_nil _ _

namespace Disk

open StepRunner.Path (Location Plain)

variable {disk after : Disk} {links : Nat} {place middle location parent : Location}
  {first second todo rest : List String} {piece name path target : String} {content : Bytes}
  {node : Node}

section Ways

/-- A walk comes to a place on its way, and goes on from there with the links that are left. -/
theorem walk_append_of_ok (walked : disk.walk links place (first ++ second) = .ok location) :
    ∃ left middle, ∀ rest, disk.walk links place (first ++ rest) = disk.walk left middle rest := by
  induction links, place, first using Disk.walk.induct disk with
  | case1 links place => exact ⟨links, place, fun rest => rfl⟩
  | case2 links place piece rest outside =>
    rw [List.cons_append, walk, if_pos outside] at walked
    cases walked
  | case3 links place piece rest inside skipped inductionHypothesis =>
    have step (more : List String) :
        disk.walk links place (piece :: more) = disk.walk links place more :=
      walk_of_idle (by simpa using inside) skipped
    rw [List.cons_append, step] at walked
    simpa only [List.cons_append, step] using inductionHypothesis walked
  | case4 links place rest inside named inductionHypothesis =>
    have step (more : List String) :
        disk.walk links place (".." :: more) = disk.walk links place.dropLast more :=
      walk_of_parent (by simpa using inside)
    rw [List.cons_append, step] at walked
    simpa only [List.cons_append, step] using inductionHypothesis walked
  | case5 links place piece rest inside named forward long =>
    rw [List.cons_append, walk, if_neg inside, if_neg named, if_neg forward, if_pos long] at walked
    cases walked
  | case6 links place piece rest inside named forward short missing =>
    rw [List.cons_append, walk_of_name (by simpa using inside) named forward short,
      missing] at walked
    cases walked
  | case7 place piece rest inside named forward short target found =>
    rw [List.cons_append, walk_of_name (by simpa using inside) named forward short, found] at walked
    cases walked
  | case8 place piece rest inside named forward short target found links inductionHypothesis =>
    have step (more : List String) : disk.walk (links + 1) place (piece :: more) =
        disk.walk links (if Path.isAbsolute target then [] else place)
          (Path.pieces target ++ more) :=
      walk_of_link (by simpa using inside) named forward short found
    rw [List.cons_append, step, ← List.append_assoc] at walked
    obtain ⟨left, middle, goes⟩ := inductionHypothesis walked
    refine ⟨left, middle, fun more => ?_⟩
    rw [List.cons_append, step, ← List.append_assoc]
    exact goes more
  | case9 links place piece rest inside named forward short node real found inductionHypothesis =>
    have step (more : List String) :
        disk.walk links place (piece :: more) = disk.walk links (place ++ [piece]) more :=
      walk_of_node (by simpa using inside) named forward short found fun target => real target
    rw [List.cons_append, step] at walked
    simpa only [List.cons_append, step] using inductionHypothesis walked

theorem walk_append_of_end (walked : disk.walk links place first = .ok middle) :
    ∃ left, ∀ rest, disk.walk links place (first ++ rest) = disk.walk left middle rest := by
  have whole : disk.walk links place (first ++ []) = .ok middle := by rwa [List.append_nil]
  obtain ⟨left, reached, goes⟩ := walk_append_of_ok whole
  rw [goes, walk] at whole
  exact ⟨left, fun rest => by rw [goes, Except.ok.inj whole]⟩

/-- Where a walk finds nothing, no number of links leads on. -/
theorem not_leads_of_notFound (walked : disk.walk links place todo = .error .notFound) :
    ¬disk.Leads place todo location := by
  intro leads
  induction leads generalizing links with
  | done place =>
    rw [walk] at walked
    cases walked
  | stay inside idle later inductionHypothesis =>
    rw [walk_of_idle inside idle] at walked
    exact inductionHypothesis walked
  | climb inside later inductionHypothesis =>
    rw [walk_of_parent inside] at walked
    exact inductionHypothesis walked
  | @follow place location piece target rest inside moves forward found later
      inductionHypothesis =>
    by_cases short : nameLimit < piece.utf8ByteSize
    · have named : ¬(piece = "" ∨ piece = ".") := moves
      rw [walk, inside, if_neg (by simp), if_neg named, if_neg forward, if_pos short] at walked
      cases walked
    · cases links with
      | zero =>
        rw [walk_of_name inside moves forward short, found] at walked
        cases walked
      | succ links =>
        rw [walk_of_link inside moves forward short found] at walked
        exact inductionHypothesis walked
  | @enter place location piece rest node inside moves forward found real later
      inductionHypothesis =>
    by_cases short : nameLimit < piece.utf8ByteSize
    · have named : ¬(piece = "" ∨ piece = ".") := moves
      rw [walk, inside, if_neg (by simp), if_neg named, if_neg forward, if_pos short] at walked
      cases walked
    · rw [walk_of_node inside moves forward short found real] at walked
      exact inductionHypothesis walked

/-- A walk that ends in a directory started in one. -/
theorem isDirectory_of_walk (walked : disk.walk links place todo = .ok location)
    (ends : disk.isDirectory location = true) : disk.isDirectory place = true := by
  cases todo with
  | nil =>
    rw [walk] at walked
    rwa [Except.ok.inj walked]
  | cons piece rest =>
    rw [walk] at walked
    split at walked
    · cases walked
    · next inside => simpa using inside

/-- The pieces that lead nowhere else make no difference on the way to a directory. -/
theorem walk_of_filter (ends : disk.isDirectory location = true)
    (walked : disk.walk links place (todo.filter fun piece => piece ≠ "" ∧ piece ≠ ".") =
      .ok location) : disk.walk links place todo = .ok location := by
  induction todo generalizing links place with
  | nil => exact walked
  | cons piece rest inductionHypothesis =>
    by_cases idle : Idle piece
    · rw [List.filter_cons_of_neg (by simpa [Idle, or_iff_not_imp_left] using idle)] at walked
      rw [walk_of_idle (isDirectory_of_walk walked ends) idle]
      exact inductionHypothesis walked
    · obtain ⟨filled, moves⟩ := not_or.1 idle
      rw [List.filter_cons_of_pos (by simp [filled, moves])] at walked
      have first : disk.walk links place ([piece] ++ rest.filter fun piece =>
          piece ≠ "" ∧ piece ≠ ".") = .ok location := walked
      obtain ⟨left, middle, goes⟩ := walk_append_of_ok first
      rw [goes] at first
      exact (goes rest).trans (inductionHypothesis first)

/-- A file that is put somewhere changes no walk that passes by, or that found a file there. -/
theorem walk_put_file (content : Bytes) (vacant : disk.isDirectory (parent ++ [name]) = false)
    (passes : ∀ links rest, disk.walk links parent (name :: rest) = .ok location →
      ∃ old, disk.node? (parent ++ [name]) = some (.file old))
    (walked : disk.walk links place todo = .ok location) :
    (disk.put (parent ++ [name]) (.file content)).walk links place todo = .ok location := by
  refine walk_induction (motive := fun links place todo =>
    (disk.put (parent ++ [name]) (.file content)).walk links place todo = .ok location)
    (fun _ => by rw [walk]) ?stay ?climb ?follow ?enter walked
  case stay =>
    intro links place piece rest inside idle later
    rw [walk_of_idle (isDirectory_put vacant inside) idle]
    exact later
  case climb =>
    intro links place rest inside later
    rw [walk_of_parent (isDirectory_put vacant inside)]
    exact later
  case follow =>
    intro links place piece target rest inside moves forward short found walked later
    have apart : place ++ [piece] ≠ parent ++ [name] := by
      intro same
      obtain ⟨rfl, last⟩ := List.append_inj' same rfl
      obtain rfl := List.singleton_inj.1 last
      obtain ⟨old, file⟩ := passes (links + 1) rest walked
      rw [found] at file
      cases file
    have kept : (disk.put (parent ++ [name]) (.file content)).node? (place ++ [piece]) =
        some (.link target) := (node?_put_of_ne apart).trans found
    rw [walk_of_link (isDirectory_put vacant inside) moves forward short kept]
    exact later
  case enter =>
    intro links place piece node rest inside moves forward short found real later
    obtain ⟨now, kept, solid⟩ : ∃ now, (disk.put (parent ++ [name]) (.file content)).node?
        (place ++ [piece]) = some now ∧ ∀ target, now ≠ .link target := by
      by_cases same : place ++ [piece] = parent ++ [name]
      · exact ⟨.file content, same ▸ node?_put_self (by simp), fun _ linked => by cases linked⟩
      · exact ⟨node, (node?_put_of_ne same).trans found, real⟩
    rw [walk_of_node (isDirectory_put vacant inside) moves forward short kept solid]
    exact later

end Ways

section Files

/-- A file that a path leads to is read where it was put. -/
theorem read_put_file (inside : location ≠ [])
    (resolved : (disk.put location (.file content)).resolve path = .ok location) :
    (disk.put location (.file content)).read path = .ok content := by
  rw [read, resolved]
  exact readAt_eq_ok_iff.2 (node?_put_self inside)

/-- A path that leads to a file leads to what is written over it. -/
theorem read_of_overwrite (content : Bytes) (resolved : disk.resolve path = .ok location)
    (vacant : disk.isDirectory location = false) :
    (disk.put location (.file content)).read path = .ok content := by
  have canonical := resolve_canonical resolved
  obtain ⟨filled, clean, short, walked⟩ := resolve_eq_ok_iff.1 resolved
  rcases List.eq_nil_or_concat' location with rfl | ⟨parent, name, rfl⟩
  · cases vacant
  · obtain ⟨-, -, -, node, found, real⟩ := canonical.last
    have file : ∃ old, disk.node? (parent ++ [name]) = some (.file old) := by
      cases node with
      | file old => exact ⟨old, found⟩
      | directory => simp [isDirectory, found] at vacant
      | link target => exact absurd rfl (real target)
    refine read_put_file (by simp) (resolve_eq_ok_iff.2 ⟨filled, clean, short, ?_⟩)
    exact walk_put_file content vacant (fun _ _ _ => file) walked

/-- The slot of a path that ends in a name is where the pieces before it lead. -/
theorem slotOf_eq_ok {before : List String} (pieces : Path.pieces path = before ++ [name])
    (moves : ¬Idle name) (slot : disk.slotOf path = .ok (parent, piece)) :
    piece = name ∧ path.contains '\x00' = false ∧ path.utf8ByteSize < pathLimit ∧
      disk.walk linkLimit [] (before.filter fun piece => piece ≠ "" ∧ piece ≠ ".") = .ok parent ∧
      disk.isDirectory parent = true := by
  obtain ⟨filled, named⟩ := not_or.1 moves
  have names : (Path.names path).reverse =
      name :: (before.filter fun piece => piece ≠ "" ∧ piece ≠ ".").reverse := by
    rw [Path.names, pieces, List.filter_append, List.filter_cons_of_pos (by simp [filled, named]),
      List.filter_nil, List.reverse_append]
    rfl
  rw [slotOf, names] at slot
  simp only [refuse_eq_ok_iff, bind_eq_ok_iff, pure_eq_ok_iff, List.reverse_reverse] at slot
  obtain ⟨clean, fits, place, walked, inside, same⟩ := slot
  obtain ⟨rfl, rfl⟩ := Prod.mk.inj same
  exact ⟨rfl, by simpa using clean, not_le.1 fits, walked, by simpa using inside⟩

/-- A path that led nowhere leads to the file that was put in its slot. -/
theorem read_of_creation {before : List String} (pieces : Path.pieces path = before ++ [name])
    (moves : ¬Idle name) (missing : disk.resolve path = .error .notFound)
    (replaced : disk.replace path content = .ok after) : after.read path = .ok content := by
  obtain ⟨⟨parent, piece⟩, slot, stored⟩ := bind_eq_ok_iff.1 replaced
  simp only [refuse_eq_ok_iff, pure_eq_ok_iff] at stored
  obtain ⟨short, vacant, rfl⟩ := stored
  obtain ⟨rfl, clean, fits, filtered, inside⟩ := slotOf_eq_ok pieces moves slot
  have filled : path.isEmpty = false := by
    rw [Bool.eq_false_iff]
    intro empty
    obtain rfl := String.isEmpty_iff.1 empty
    have single : [] ++ [""] = before ++ [piece] := pieces
    obtain ⟨-, last⟩ := List.append_inj' single rfl
    exact moves (.inl (List.singleton_inj.1 last).symm)
  have early : disk.walk linkLimit [] before = .ok parent := walk_of_filter inside filtered
  have fails : disk.walk linkLimit [] (before ++ [piece]) = .error .notFound := by
    rw [resolve, if_neg (by simp [filled]), if_neg (by simp [clean]), if_neg (not_le.2 fits),
      pieces] at missing
    exact missing
  obtain ⟨left, goes⟩ := walk_append_of_end early
  rw [goes] at fails
  have forward : piece ≠ ".." := by
    rintro rfl
    rw [walk_of_parent inside, walk] at fails
    cases fails
  -- The walk to the name stops for want of it, so no walk passes through its place.
  have passes (links : Nat) (rest : List String)
      (through : disk.walk links parent (piece :: rest) = .ok parent) :
      ∃ old, disk.node? (parent ++ [piece]) = some (.file old) := by
    have whole : disk.Leads parent ([piece] ++ rest) parent := leads_of_walk through
    obtain ⟨beyond, enters, -⟩ := whole.split
    exact absurd enters (not_leads_of_notFound fails)
  have free : disk.isDirectory (parent ++ [piece]) = false := by simpa using vacant
  obtain ⟨spare, leads⟩ := walk_append_of_end (walk_put_file content free passes early)
  have stays : (disk.put (parent ++ [piece]) (.file content)).isDirectory parent = true :=
    isDirectory_put free inside
  refine read_put_file (by simp) (resolve_eq_ok_iff.2 ⟨filled, clean, fits, ?_⟩)
  rw [pieces, leads, walk_of_node stays moves forward short (node?_put_self (by simp)) (by simp),
    walk]

/-- A path that leads nowhere is written to by a file in its slot, when it ends in a name. -/
theorem write_of_missing (content : Bytes) (missing : disk.resolve path = .error .notFound)
    (ends : (Path.pieces path).getLast? = some name) (moves : ¬Idle name) :
    disk.write path content = disk.replace path content := by
  unfold write
  rw [missing]
  simp only [ends]
  split
  · next same => exact absurd (.inl (Option.some.inj same)) moves
  · next same => exact absurd (.inr (Option.some.inj same)) moves
  · rfl

/-- A file that was written can be read. -/
theorem read_of_write (written : disk.write path content = .ok after) :
    after.read path = .ok content := by
  unfold write at written
  split at written
  · next location resolved =>
    split at written
    · cases written
    · next vacant =>
      obtain rfl := Except.ok.inj written
      exact read_of_overwrite content resolved (by simpa using vacant)
  · next missing =>
    split at written
    · cases written
    · cases written
    · next last filled named =>
      rcases List.eq_nil_or_concat' (Path.pieces path) with empty | ⟨before, name, pieces⟩
      · exact absurd empty (Path.pieces_ne_nil path)
      · have ends : (Path.pieces path).getLast? = some name := by simp [pieces]
        have moves : ¬Idle name := by
          rintro (rfl | rfl)
          · exact filled ends
          · exact named ends
        exact read_of_creation pieces moves missing written
  · cases written

theorem isThere_of_read (found : disk.read path = .ok content) : disk.isThere path = true := by
  obtain ⟨location, resolved, -⟩ := bind_eq_ok_iff.1 found
  rw [isThere, resolved]

end Files

section Room

/-- Directories that are missing are made below one that is there. -/
theorem makeDirectoriesFrom_of_missing {names : List String} (canonical : disk.Canonical place)
    (inside : disk.isDirectory place = true)
    (plain : ∀ name ∈ names, Plain name ∧ name.utf8ByteSize ≤ nameLimit)
    (fresh : ∀ part, part ≠ [] → part <+: names → disk.node? (place ++ part) = none) :
    ∃ made, disk.makeDirectoriesFrom place names = .ok made ∧ made.Canonical (place ++ names) ∧
      made.isDirectory (place ++ names) = true ∧
      ∀ name, made.node? (place ++ names ++ [name]) = disk.node? (place ++ names ++ [name]) := by
  induction names generalizing disk place with
  | nil => exact ⟨disk, rfl, by simpa using canonical, by simpa using inside, fun name => rfl⟩
  | cons first names inductionHypothesis =>
    obtain ⟨⟨single, short⟩, others⟩ := List.forall_mem_cons.1 plain
    have vacant : disk.node? (place ++ [first]) = none :=
      fresh [first] (by simp) (by simp)
    have created : (disk.put (place ++ [first]) .directory).node? (place ++ [first]) =
        some .directory := node?_put_self (by simp)
    have free : disk.isDirectory (place ++ [first]) = false := by simp [isDirectory, vacant]
    have next : (disk.put (place ++ [first]) .directory).Canonical (place ++ [first]) :=
      .child (canonical.put inside free) (isDirectory_put free inside) single short created
        fun _ linked => by cases linked
    have below (part : List String) (filled : part ≠ []) :
        (disk.put (place ++ [first]) .directory).node? (place ++ [first] ++ part) =
          disk.node? (place ++ (first :: part)) := by
      rw [node?_put_of_ne (by simpa using filled)]
      simp
    obtain ⟨made, makes, reached, directory, kept⟩ := inductionHypothesis next
      (by simp [isDirectory, created]) others fun part filled above =>
        (below part filled).trans (fresh _ (by simp) (List.cons_prefix_cons.2 ⟨rfl, above⟩))
    have whole : place ++ first :: names = place ++ [first] ++ names := by simp
    rw [whole]
    refine ⟨made, ?_, reached, directory, fun name => ?_⟩
    · rw [makeDirectoriesFrom]
      simp only [single.ne_parent, if_false, vacant, if_neg (not_lt.2 short)]
      exact makes
    · rw [kept, List.append_assoc, below _ (by simp)]
      simp

/--
Room for a file: a directory that is there, the names of directories that are missing, and a name
at which nothing stands that is no file.
-/
structure Room (disk : Disk) (place : Location) (missing : List String) (name : String) :
    Prop where
  canonical : disk.Canonical place
  directory : disk.isDirectory place = true
  plain : ∀ piece ∈ missing ++ [name], Plain piece ∧ piece.utf8ByteSize ≤ nameLimit
  fresh : ∀ part, part ≠ [] → part <+: missing → disk.node? (place ++ part) = none
  vacant : ∀ node, disk.node? (place ++ missing ++ [name]) = some node → ∃ old, node = .file old
  clean : (Path.render (place ++ missing ++ [name])).contains '\x00' = false
  fits : (Path.render (place ++ missing ++ [name])).utf8ByteSize < pathLimit

/-- A file can be written in a directory where nothing else stands. -/
theorem write_of_vacant (content : Bytes) (canonical : disk.Canonical place)
    (inside : disk.isDirectory place = true) (plain : Plain name)
    (short : name.utf8ByteSize ≤ nameLimit)
    (vacant : ∀ node, disk.node? (place ++ [name]) = some node → ∃ old, node = .file old)
    (clean : (Path.render (place ++ [name])).contains '\x00' = false)
    (fits : (Path.render (place ++ [name])).utf8ByteSize < pathLimit) :
    disk.write (Path.render (place ++ [name])) content =
      .ok (disk.put (place ++ [name]) (.file content)) := by
  have resolved : disk.resolve (Path.render (place ++ [name])) =
      disk.walk linkLimit place [name] := by
    rw [resolve, if_neg (by simp [Path.render]), if_neg (by simp [clean]), if_neg (not_le.2 fits)]
    exact walk_render_append canonical (List.forall_mem_singleton.2 plain.slashFree)
  have moves : ¬Idle name := not_or.2 ⟨plain.ne_empty, plain.ne_here⟩
  rw [walk_of_name inside moves plain.ne_parent (not_lt.2 short)] at resolved
  cases found : disk.node? (place ++ [name]) with
  | none =>
    have slashFree : ∀ piece ∈ place ++ [name], Path.SlashFree piece :=
      List.forall_mem_append.2 ⟨fun piece early => (canonical.plain piece early).slashFree,
        List.forall_mem_singleton.2 plain.slashFree⟩
    have last : (Path.pieces (Path.render (place ++ [name]))).getLast? = some name := by
      rw [Path.pieces_render slashFree, if_neg (by simp)]
      exact (List.getLast?_append_of_ne_nil ("" :: place) (by simp)).trans rfl
    rw [found] at resolved
    rw [write_of_missing content resolved last moves]
    exact replace_of_vacant content canonical inside plain clean fits short
      (by simp [isDirectory, found])
  | some node =>
    obtain ⟨old, rfl⟩ := vacant node found
    rw [found] at resolved
    simp only [walk] at resolved
    unfold write
    simp [resolved, isDirectory, found]

end Room

end Disk

end StepRunner
