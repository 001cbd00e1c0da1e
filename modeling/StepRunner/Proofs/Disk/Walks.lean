import Mathlib.Data.List.Infix
import StepRunner.Disk.Basic
import StepRunner.Proofs.Fallible

/-!
This file shows where a path leads to on a disk.
A walk that ends leads to a canonical location, and the text of a canonical location leads back to
it.
-/

namespace StepRunner

section Texts

theorem Text.splitAt_eq_splitOn (separator : Char) (text : List Char) :
    Text.splitAt separator text = text.splitOn separator := by
  induction text with
  | nil => rfl
  | cons char rest inductionHypothesis =>
    rw [List.splitOn_cons_eq_if_modifyHead, Text.splitAt, inductionHypothesis]
    by_cases same : char = separator
    · simp [same]
    · simp only [same, if_false, beq_iff_eq]
      cases split : rest.splitOn separator with
      | nil => exact absurd split (List.splitOn_ne_nil _ _)
      | cons first others => rfl

theorem Text.not_mem_of_mem_splitAt {separator : Char} {text piece : List Char}
    (present : piece ∈ Text.splitAt separator text) : separator ∉ piece := by
  induction text generalizing piece with
  | nil =>
    obtain rfl := List.mem_singleton.1 present
    exact List.not_mem_nil
  | cons char rest inductionHypothesis =>
    rw [Text.splitAt] at present
    split at present
    · rcases List.mem_cons.1 present with rfl | later
      · exact List.not_mem_nil
      · exact inductionHypothesis later
    · next different =>
      split at present
      · obtain rfl := List.mem_singleton.1 present
        simpa using Ne.symm different
      · next first others split =>
        rcases List.mem_cons.1 present with rfl | later
        · have clean : separator ∉ first := inductionHypothesis (by simp [split])
          simp [Ne.symm different, clean]
        · exact inductionHypothesis (by simp [split, later])

end Texts

namespace Path

/-- A piece of a path that is no slash. -/
def SlashFree (piece : String) : Prop := '/' ∉ piece.toList

/-- A name that stands for itself in a path. -/
structure Plain (name : String) : Prop where
  slashFree : SlashFree name
  ne_empty : name ≠ ""
  ne_here : name ≠ "."
  ne_parent : name ≠ ".."

variable {location : Location}

theorem slashFree_of_mem_pieces {path piece : String} (present : piece ∈ pieces path) :
    SlashFree piece := by
  obtain ⟨chars, split, rfl⟩ := List.mem_map.1 present
  simpa [SlashFree] using Text.not_mem_of_mem_splitAt split

/-- A name with a long ending stands for itself. -/
theorem plain_append {name ending : String} (clean : SlashFree name) (ends : SlashFree ending)
    (long : 3 ≤ ending.toList.length) : Plain (name ++ ending) := by
  have whole : 3 ≤ (name ++ ending).toList.length := by
    rw [String.toList_append, List.length_append]
    omega
  refine ⟨?_, ?_, ?_, ?_⟩
  · rw [SlashFree, String.toList_append, List.mem_append]
    exact not_or.2 ⟨clean, ends⟩
  all_goals
    intro same
    simp [same] at whole

/-- The text of a location falls into its names, behind the empty piece before the first slash. -/
theorem pieces_render (plain : ∀ name ∈ location, SlashFree name) :
    pieces (render location) = "" :: if location = [] then [""] else location := by
  have text : (render location).toList = '/' :: ['/'].intercalate (location.map String.toList) := by
    simp [render]
  rw [pieces, text, Text.splitAt, if_pos rfl, List.map_cons, Text.splitAt_eq_splitOn]
  refine congrArg _ ?_
  split
  · next empty =>
    subst empty
    rfl
  · next filled =>
    rw [List.splitOn_intercalate '/' (by simpa [SlashFree] using plain) (by simpa using filled)]
    simp [Function.comp_def]

/-- The names of the text of a location are those of the location. -/
theorem names_render (plain : ∀ name ∈ location, Plain name) :
    names (render location) = location := by
  have kept : location.filter (fun piece => decide (piece ≠ "" ∧ piece ≠ ".")) = location := by
    refine List.filter_eq_self.2 fun name present => decide_eq_true ?_
    exact ⟨(plain name present).ne_empty, (plain name present).ne_here⟩
  rw [names, pieces_render fun name present => (plain name present).slashFree]
  split
  · next empty =>
    subst empty
    decide
  · rw [List.filter_cons_of_neg (by simp)]
    exact kept

end Path

namespace Disk

open StepRunner.Path (Location Plain SlashFree)

variable {disk : Disk}

section Nodes

variable {location other : Location} {node : Node}

theorem mem_entries_of_node? (inside : location ≠ []) (found : disk.node? location = some node) :
    (location, node) ∈ disk.entries := by
  rw [node?, if_neg inside, Option.map_eq_some_iff] at found
  obtain ⟨entry, first, rfl⟩ := found
  have same : entry.1 = location := by simpa using List.find?_some first
  exact same ▸ List.mem_of_find?_eq_some first

theorem node?_put_self (inside : location ≠ []) :
    (disk.put location node).node? location = some node := by
  have absent : (disk.entries.filter fun entry => decide (entry.1 ≠ location)).find?
      (fun entry => decide (entry.1 = location)) = none := by
    rw [List.find?_eq_none]
    intro entry kept
    simpa using (List.mem_filter.1 kept).2
  rw [node?, if_neg inside, put, List.find?_append, absent]
  simp

theorem node?_put_of_ne (different : other ≠ location) :
    (disk.put location node).node? other = disk.node? other := by
  have kept : (disk.entries.filter fun entry => decide (entry.1 ≠ location)).find?
      (fun entry => decide (entry.1 = other)) =
        disk.entries.find? fun entry => decide (entry.1 = other) := by
    rw [List.find?_filter]
    congr 1
    funext entry
    by_cases same : entry.1 = other <;> simp [same, different]
  rw [node?, node?, put, List.find?_append, kept]
  simp [Ne.symm different]

/-- The removal of a tree takes what is below its location, and nothing else. -/
theorem node?_removeTree (inside : location ≠ []) :
    (disk.removeTree location).node? other =
      if Path.isBelow location other then none else disk.node? other := by
  by_cases top : other = []
  · have outside : Path.isBelow location [] = false := by
      cases location with
      | nil => exact absurd rfl inside
      | cons name rest => rfl
    simp [node?, top, outside]
  · rw [node?, node?, removeTree, if_neg top, if_neg top, List.find?_filter]
    split
    · next below =>
      rw [Option.map_eq_none_iff, List.find?_eq_none]
      intro entry _
      by_cases same : entry.1 = other <;> simp [same, below]
    · next above =>
      congr 2
      funext entry
      by_cases same : entry.1 = other <;> simp [same, above]

end Nodes

/-- A location that is reached without links, through directories whose names are plain. -/
inductive Canonical (disk : Disk) : Location → Prop where
  | root : Canonical disk []
  | child {place : Location} {name : String} {node : Node} (parent : Canonical disk place)
      (directory : disk.isDirectory place = true) (plain : Plain name)
      (short : name.utf8ByteSize ≤ nameLimit) (found : disk.node? (place ++ [name]) = some node)
      (real : ∀ target, node ≠ .link target) : Canonical disk (place ++ [name])

section Canonical

variable {location place root : Location} {name : String}

theorem Canonical.dropLast (canonical : disk.Canonical location) :
    disk.Canonical location.dropLast := by
  cases canonical with
  | root => exact .root
  | child parent => simpa using parent

theorem Canonical.plain (canonical : disk.Canonical location) :
    ∀ name ∈ location, Plain name := by
  induction canonical with
  | root => exact List.forall_mem_nil _
  | child _ _ plain _ _ _ inductionHypothesis =>
    exact List.forall_mem_append.2 ⟨inductionHypothesis, List.forall_mem_singleton.2 plain⟩

/-- The last name of a canonical location is plain, and no link. -/
theorem Canonical.last (canonical : disk.Canonical (place ++ [name])) :
    disk.isDirectory place = true ∧ Plain name ∧ name.utf8ByteSize ≤ nameLimit ∧
      ∃ node, disk.node? (place ++ [name]) = some node ∧ ∀ target, node ≠ .link target := by
  generalize whole : place ++ [name] = location at canonical
  cases canonical with
  | root => simp at whole
  | @child parent last node _ directory plain short found real =>
    obtain ⟨rfl, same⟩ := List.append_inj' whole rfl
    obtain rfl := List.singleton_inj.1 same
    exact ⟨directory, plain, short, node, found, real⟩

/-- What a canonical location passes through is canonical, and short of its end a directory. -/
theorem Canonical.of_prefix (canonical : disk.Canonical location) (above : root <+: location) :
    disk.Canonical root ∧ (root ≠ location → disk.isDirectory root = true) := by
  induction canonical with
  | root =>
    obtain rfl := List.prefix_nil.1 above
    exact ⟨.root, fun other => absurd rfl other⟩
  | @child place name node parent directory plain short found real inductionHypothesis =>
    rcases List.prefix_concat_iff.1 above with rfl | higher
    · exact ⟨.child parent directory plain short found real, fun other => absurd rfl other⟩
    · obtain ⟨canonical, inner⟩ := inductionHypothesis higher
      refine ⟨canonical, fun _ => ?_⟩
      by_cases same : root = place
      · exact same ▸ directory
      · exact inner same

theorem Canonical.of_append {rest : List String} (canonical : disk.Canonical (place ++ rest)) :
    disk.Canonical place :=
  (canonical.of_prefix (List.prefix_append place rest)).1

/-- A canonical location depends only on what stands on the way to it. -/
theorem Canonical.congr {after : Disk} (canonical : disk.Canonical location)
    (same : ∀ place, place <+: location → after.node? place = disk.node? place) :
    after.Canonical location := by
  induction canonical with
  | root => exact .root
  | @child place name node parent directory plain short found real inductionHypothesis =>
    have onWay : place <+: place ++ [name] := List.prefix_append place [name]
    have kept := inductionHypothesis fun other above => same other (above.trans onWay)
    refine .child kept ?_ plain short ((same _ (List.prefix_refl _)).trans found) real
    rwa [isDirectory, same place onWay]

end Canonical

section Walks

variable {links : Nat} {place location : Location}

section Steps

variable {piece target : String} {rest : List String} {node : Node}

/-- A piece of a path leads nowhere else. -/
def Idle (piece : String) : Prop := piece = "" ∨ piece = "."

instance (piece : String) : Decidable (Idle piece) :=
  inferInstanceAs (Decidable (_ ∨ _))

theorem walk_of_idle (inside : disk.isDirectory place = true) (idle : Idle piece) :
    disk.walk links place (piece :: rest) = disk.walk links place rest := by
  have skipped : piece = "" ∨ piece = "." := idle
  rw [walk, inside, if_neg (by simp), if_pos skipped]

theorem walk_of_parent (inside : disk.isDirectory place = true) :
    disk.walk links place (".." :: rest) = disk.walk links place.dropLast rest := by
  rw [walk, inside, if_neg (by simp), if_neg (by decide), if_pos rfl]

/-- A piece that names something is looked up. -/
theorem walk_of_name (inside : disk.isDirectory place = true) (moves : ¬Idle piece)
    (forward : piece ≠ "..") (short : ¬nameLimit < piece.utf8ByteSize) :
    disk.walk links place (piece :: rest) =
      match disk.node? (place ++ [piece]) with
      | none => .error .notFound
      | some (.link target) =>
        match links with
        | 0 => .error .linkLoop
        | links + 1 =>
          disk.walk links (if Path.isAbsolute target then [] else place)
            (Path.pieces target ++ rest)
      | some _ => disk.walk links (place ++ [piece]) rest := by
  have named : ¬(piece = "" ∨ piece = ".") := moves
  rw [walk, inside, if_neg (by simp), if_neg named, if_neg forward]
  exact if_neg short

theorem walk_of_link (inside : disk.isDirectory place = true) (moves : ¬Idle piece)
    (forward : piece ≠ "..") (short : ¬nameLimit < piece.utf8ByteSize)
    (found : disk.node? (place ++ [piece]) = some (.link target)) :
    disk.walk (links + 1) place (piece :: rest) =
      disk.walk links (if Path.isAbsolute target then [] else place)
        (Path.pieces target ++ rest) := by
  rw [walk_of_name inside moves forward short, found]

theorem walk_of_node (inside : disk.isDirectory place = true) (moves : ¬Idle piece)
    (forward : piece ≠ "..") (short : ¬nameLimit < piece.utf8ByteSize)
    (found : disk.node? (place ++ [piece]) = some node) (real : ∀ target, node ≠ .link target) :
    disk.walk links place (piece :: rest) = disk.walk links (place ++ [piece]) rest := by
  rw [walk_of_name inside moves forward short, found]
  cases node with
  | link target => exact absurd rfl (real target)
  | file content => rfl
  | directory => rfl

/--
What holds at the end of a walk, and before each step that leads on if it holds after the step,
holds at the start.
-/
theorem walk_induction {motive : Nat → Location → List String → Prop} {todo : List String}
    (done : ∀ links, motive links location [])
    (stay : ∀ links place piece rest, disk.isDirectory place = true → Idle piece →
      motive links place rest → motive links place (piece :: rest))
    (climb : ∀ links place rest, disk.isDirectory place = true →
      motive links place.dropLast rest → motive links place (".." :: rest))
    (follow : ∀ links place piece target rest, disk.isDirectory place = true → ¬Idle piece →
      piece ≠ ".." → ¬nameLimit < piece.utf8ByteSize →
      disk.node? (place ++ [piece]) = some (.link target) →
      disk.walk (links + 1) place (piece :: rest) = .ok location →
      motive links (if Path.isAbsolute target then [] else place) (Path.pieces target ++ rest) →
      motive (links + 1) place (piece :: rest))
    (enter : ∀ links place piece node rest, disk.isDirectory place = true → ¬Idle piece →
      piece ≠ ".." → ¬nameLimit < piece.utf8ByteSize →
      disk.node? (place ++ [piece]) = some node → (∀ target, node ≠ .link target) →
      motive links (place ++ [piece]) rest → motive links place (piece :: rest))
    (walked : disk.walk links place todo = .ok location) : motive links place todo := by
  induction links, place, todo using Disk.walk.induct disk with
  | case1 links place =>
    rw [walk] at walked
    exact Except.ok.inj walked ▸ done links
  | case2 links place piece rest outside =>
    rw [walk, if_pos outside] at walked
    cases walked
  | case3 links place piece rest inside skipped inductionHypothesis =>
    have inner : disk.isDirectory place = true := by simpa using inside
    rw [walk_of_idle inner skipped] at walked
    exact stay links place piece rest inner skipped (inductionHypothesis walked)
  | case4 links place rest inside named inductionHypothesis =>
    have inner : disk.isDirectory place = true := by simpa using inside
    rw [walk_of_parent inner] at walked
    exact climb links place rest inner (inductionHypothesis walked)
  | case5 links place piece rest inside named forward long =>
    rw [walk, if_neg inside, if_neg named, if_neg forward, if_pos long] at walked
    cases walked
  | case6 links place piece rest inside named forward short missing =>
    rw [walk_of_name (by simpa using inside) named forward short, missing] at walked
    cases walked
  | case7 place piece rest inside named forward short target found =>
    rw [walk_of_name (by simpa using inside) named forward short, found] at walked
    cases walked
  | case8 place piece rest inside named forward short target found links inductionHypothesis =>
    have inner : disk.isDirectory place = true := by simpa using inside
    refine follow links place piece target rest inner named forward short found walked ?_
    rw [walk_of_link inner named forward short found] at walked
    exact inductionHypothesis walked
  | case9 links place piece rest inside named forward short node real found inductionHypothesis =>
    have inner : disk.isDirectory place = true := by simpa using inside
    have solid : ∀ target, node ≠ .link target := fun target => real target
    rw [walk_of_node inner named forward short found solid] at walked
    exact enter links place piece node rest inner named forward short found solid
      (inductionHypothesis walked)

end Steps

/-- A walk that ends leads to a canonical location. -/
theorem walk_canonical {todo : List String} (start : disk.Canonical place)
    (slashFree : ∀ piece ∈ todo, SlashFree piece)
    (ends : disk.walk links place todo = .ok location) : disk.Canonical location := by
  refine walk_induction (motive := fun _ place todo => disk.Canonical place →
    (∀ piece ∈ todo, SlashFree piece) → disk.Canonical location)
    (fun _ start _ => start) ?stay ?climb ?follow ?enter ends start slashFree
  case stay =>
    intro _ place piece rest _ _ later start slashFree
    exact later start (List.forall_mem_cons.1 slashFree).2
  case climb =>
    intro _ place rest _ later start slashFree
    exact later start.dropLast (List.forall_mem_cons.1 slashFree).2
  case follow =>
    intro _ place piece target rest _ _ _ _ _ _ later start slashFree
    have clean : ∀ piece ∈ Path.pieces target ++ rest, SlashFree piece :=
      List.forall_mem_append.2
        ⟨fun _ => Path.slashFree_of_mem_pieces, (List.forall_mem_cons.1 slashFree).2⟩
    refine later ?_ clean
    split
    · exact .root
    · exact start
  case enter =>
    intro _ place piece node rest inside moves forward short found real later start slashFree
    obtain ⟨clean, others⟩ := List.forall_mem_cons.1 slashFree
    obtain ⟨filled, named⟩ := not_or.1 moves
    have plain : Plain piece := ⟨clean, filled, named, forward⟩
    exact later (.child start inside plain (not_lt.1 short) found real) others

theorem resolve_eq_ok_iff {path : String} : disk.resolve path = .ok location ↔
    path.isEmpty = false ∧ path.contains '\x00' = false ∧ path.utf8ByteSize < pathLimit ∧
      disk.walk linkLimit [] (Path.pieces path) = .ok location := by
  unfold resolve
  split
  · next empty => simp [empty]
  · next filled =>
    split
    · next marked => simp [marked]
    · next clean =>
      split
      · next long => simp [not_lt.2 long]
      · next short => simp [filled, clean, not_le.1 short]

/-- A path that leads somewhere leads to a canonical location. -/
theorem resolve_canonical {path : String} (ends : disk.resolve path = .ok location) :
    disk.Canonical location :=
  walk_canonical .root (fun _ => Path.slashFree_of_mem_pieces) (resolve_eq_ok_iff.1 ends).2.2.2

theorem walk_cons (rest : List String) {name : String}
    (canonical : disk.Canonical (place ++ [name])) :
    disk.walk links place (name :: rest) = disk.walk links (place ++ [name]) rest := by
  obtain ⟨directory, plain, short, node, found, real⟩ := canonical.last
  have named : ¬(name = "" ∨ name = ".") := not_or.2 ⟨plain.ne_empty, plain.ne_here⟩
  rw [walk, if_neg (by simp [directory]), if_neg named, if_neg plain.ne_parent,
    if_neg (not_lt.2 short), found]
  cases node with
  | link target => exact absurd rfl (real target)
  | file content => rfl
  | directory => rfl

/-- A walk goes straight along a canonical location. -/
theorem walk_append (rest : List String) {names : List String}
    (canonical : disk.Canonical (place ++ names)) :
    disk.walk links place (names ++ rest) = disk.walk links (place ++ names) rest := by
  induction names generalizing place with
  | nil => simp
  | cons name names inductionHypothesis =>
    have split : place ++ name :: names = (place ++ [name]) ++ names := by simp
    have next : disk.Canonical (place ++ [name]) := (split ▸ canonical).of_append
    rw [List.cons_append, walk_cons _ next, inductionHypothesis (split ▸ canonical), split]

/-- The text of a location leads straight along its canonical part. -/
theorem walk_render_append {rest : List String} (canonical : disk.Canonical place)
    (slashFree : ∀ name ∈ rest, SlashFree name) :
    disk.walk links [] (Path.pieces (Path.render (place ++ rest))) =
      disk.walk links place rest := by
  have top : disk.isDirectory [] = true := by simp [isDirectory, node?]
  have clean : ∀ name ∈ place ++ rest, SlashFree name :=
    List.forall_mem_append.2 ⟨fun name present => (canonical.plain name present).slashFree,
      slashFree⟩
  rw [Path.pieces_render clean, walk, top, if_neg (by simp), if_pos (.inl rfl)]
  split
  · next empty =>
    obtain ⟨rfl, rfl⟩ := List.append_eq_nil_iff.1 empty
    rw [walk, walk, top, if_neg (by simp), if_pos (.inl rfl), walk]
  · exact walk_append rest canonical

theorem walk_render (canonical : disk.Canonical location) :
    disk.walk links [] (Path.pieces (Path.render location)) = .ok location := by
  have straight : disk.walk links [] (Path.pieces (Path.render (location ++ []))) =
      disk.walk links location [] := walk_render_append canonical (List.forall_mem_nil _)
  rwa [List.append_nil, walk] at straight

/-- The text of a canonical location leads nowhere else. -/
theorem eq_of_resolve_render {other : Location} (canonical : disk.Canonical location)
    (ends : disk.resolve (Path.render location) = .ok other) : other = location := by
  obtain ⟨-, -, -, walked⟩ := resolve_eq_ok_iff.1 ends
  rw [walk_render canonical] at walked
  exact (Except.ok.inj walked).symm

/-- The text of a canonical location leads to it when it is no longer than a path may be. -/
theorem resolve_render (canonical : disk.Canonical location)
    (clean : (Path.render location).contains '\x00' = false)
    (short : (Path.render location).utf8ByteSize < pathLimit) :
    disk.resolve (Path.render location) = .ok location :=
  resolve_eq_ok_iff.2 ⟨by simp [Path.render], clean, short, walk_render canonical⟩

/-- A path through a name that is missing leads nowhere. -/
theorem isThere_render_of_missing {rest : List String} {name : String}
    (canonical : disk.Canonical place) (directory : disk.isDirectory place = true)
    (plain : Plain name) (missing : disk.node? (place ++ [name]) = none)
    (slashFree : ∀ name ∈ rest, SlashFree name) :
    disk.isThere (Path.render (place ++ name :: rest)) = false := by
  unfold isThere
  split
  · next location resolved =>
    obtain ⟨-, -, -, walked⟩ := resolve_eq_ok_iff.1 resolved
    rw [walk_render_append canonical (List.forall_mem_cons.2 ⟨plain.slashFree, slashFree⟩), walk,
      missing] at walked
    simp only [directory, plain.ne_empty, plain.ne_here, plain.ne_parent, Bool.not_true,
      Bool.false_eq_true, or_self, if_false] at walked
    split at walked <;> cases walked
  · rfl

end Walks

section Files

variable {place location : Location} {name : String} {content : Bytes}

theorem readAt_eq_ok_iff : disk.readAt location = .ok content ↔
    disk.node? location = some (.file content) := by
  unfold readAt
  split <;> simp_all

/-- The last name of a path in a directory is its slot there. -/
theorem slotOf_render (canonical : disk.Canonical place)
    (directory : disk.isDirectory place = true) (plain : Plain name) :
    disk.slotOf (Path.render (place ++ [name])) =
      if (Path.render (place ++ [name])).contains '\x00' then .error .invalidName
      else if pathLimit ≤ (Path.render (place ++ [name])).utf8ByteSize then .error .nameTooLong
      else .ok (place, name) := by
  have names : Path.names (Path.render (place ++ [name])) = place ++ [name] :=
    Path.names_render <| List.forall_mem_append.2
      ⟨canonical.plain, List.forall_mem_singleton.2 plain⟩
  have straight : disk.walk linkLimit [] (place ++ []) = disk.walk linkLimit ([] ++ place) [] :=
    walk_append [] canonical
  have ends : disk.walk linkLimit [] place = .ok place := by
    rw [List.append_nil] at straight
    rw [straight, walk, List.nil_append]
  by_cases marked : (Path.render (place ++ [name])).contains '\x00' = true
  · simp [slotOf, names, marked, bind, Except.bind, throw, throwThe, MonadExceptOf.throw]
  · by_cases long : pathLimit ≤ (Path.render (place ++ [name])).utf8ByteSize
    · simp [slotOf, names, marked, long, bind, Except.bind, throw, throwThe, MonadExceptOf.throw]
    · simp [slotOf, names, marked, long, ends, directory, bind, Except.bind, pure, Except.pure]

/-- The text of a location that is fit for a path names its slot. -/
theorem slotOf_render_of_legible (canonical : disk.Canonical place)
    (directory : disk.isDirectory place = true) (plain : Plain name)
    (clean : (Path.render (place ++ [name])).contains '\x00' = false)
    (fits : (Path.render (place ++ [name])).utf8ByteSize < pathLimit) :
    disk.slotOf (Path.render (place ++ [name])) = .ok (place, name) := by
  rw [slotOf_render canonical directory plain, clean, if_neg Bool.false_ne_true,
    if_neg (not_le.2 fits)]

/-- A file is put in its slot. -/
theorem replace_render {after : Disk} (canonical : disk.Canonical place)
    (directory : disk.isDirectory place = true) (plain : Plain name)
    (replaced : disk.replace (Path.render (place ++ [name])) content = .ok after) :
    after = disk.put (place ++ [name]) (.file content) ∧ name.utf8ByteSize ≤ nameLimit ∧
      disk.isDirectory (place ++ [name]) = false := by
  obtain ⟨⟨parent, last⟩, slot, stored⟩ := bind_eq_ok_iff.1 replaced
  rw [slotOf_render canonical directory plain] at slot
  split at slot
  · cases slot
  · split at slot
    · cases slot
    · obtain ⟨rfl, rfl⟩ := Prod.mk.inj (Except.ok.inj slot)
      simp only [refuse_eq_ok_iff, pure_eq_ok_iff] at stored
      obtain ⟨short, vacant, rfl⟩ := stored
      exact ⟨rfl, not_lt.1 short, by simpa using vacant⟩

/-- Only a text that is fit for a path names a file that is put in its slot. -/
theorem legible_of_replace {after : Disk} (canonical : disk.Canonical place)
    (directory : disk.isDirectory place = true) (plain : Plain name)
    (replaced : disk.replace (Path.render (place ++ [name])) content = .ok after) :
    (Path.render (place ++ [name])).contains '\x00' = false ∧
      (Path.render (place ++ [name])).utf8ByteSize < pathLimit := by
  obtain ⟨slot, found, -⟩ := bind_eq_ok_iff.1 replaced
  rw [slotOf_render canonical directory plain] at found
  split at found
  · cases found
  · next clean =>
    split at found
    · cases found
    · next fits => exact ⟨by simpa using clean, not_le.1 fits⟩

/-- A file whose name is fit is put in its slot, where no directory stands. -/
theorem replace_of_vacant (content : Bytes) (canonical : disk.Canonical place)
    (directory : disk.isDirectory place = true) (plain : Plain name)
    (clean : (Path.render (place ++ [name])).contains '\x00' = false)
    (fits : (Path.render (place ++ [name])).utf8ByteSize < pathLimit)
    (short : name.utf8ByteSize ≤ nameLimit) (vacant : disk.isDirectory (place ++ [name]) = false) :
    disk.replace (Path.render (place ++ [name])) content =
      .ok (disk.put (place ++ [name]) (.file content)) := by
  have slot := slotOf_render_of_legible canonical directory plain clean fits
  refine bind_eq_ok_iff.2 ⟨_, slot, ?_⟩
  simp only [refuse_eq_ok_iff, pure_eq_ok_iff]
  exact ⟨not_lt.2 short, by simp [vacant], trivial⟩

/-- A file that is put in a directory stands there in place of what it replaces. -/
theorem Canonical.put_file (content : Bytes) (canonical : disk.Canonical place)
    (directory : disk.isDirectory place = true) (plain : Plain name)
    (short : name.utf8ByteSize ≤ nameLimit) :
    (disk.put (place ++ [name]) (.file content)).Canonical (place ++ [name]) := by
  have others (other : Location) (above : other <+: place) :
      (disk.put (place ++ [name]) (.file content)).node? other = disk.node? other := by
    refine node?_put_of_ne ?_
    rintro rfl
    exact absurd above.length_le (by simp)
  refine .child (canonical.congr others) ?_ plain short (node?_put_self (by simp)) nofun
  rw [isDirectory, others place (List.prefix_refl place)]
  exact directory

/-- A file that was put in its slot can be read. -/
theorem read_of_replace {after : Disk} (canonical : disk.Canonical place)
    (directory : disk.isDirectory place = true) (plain : Plain name)
    (replaced : disk.replace (Path.render (place ++ [name])) content = .ok after) :
    after.read (Path.render (place ++ [name])) = .ok content := by
  obtain ⟨clean, fits⟩ := legible_of_replace canonical directory plain replaced
  obtain ⟨rfl, short, -⟩ := replace_render canonical directory plain replaced
  have made := canonical.put_file content directory plain short
  have there : (disk.put (place ++ [name]) (.file content)).node? (place ++ [name]) =
      some (.file content) := node?_put_self (by simp)
  rw [read, resolve_render made clean fits]
  exact readAt_eq_ok_iff.2 there

/-- A directory stays when something is put where no directory stands. -/
theorem isDirectory_put {node : Node} (vacant : disk.isDirectory location = false)
    (directory : disk.isDirectory place = true) :
    (disk.put location node).isDirectory place = true := by
  have different : place ≠ location := by
    rintro rfl
    simp [directory] at vacant
  rw [isDirectory, node?_put_of_ne different]
  exact directory

/-- A canonical directory stays when something is put where no directory stands. -/
theorem Canonical.put {node : Node} (canonical : disk.Canonical place)
    (directory : disk.isDirectory place = true) (vacant : disk.isDirectory location = false) :
    (disk.put location node).Canonical place := by
  refine canonical.congr fun other above => node?_put_of_ne ?_
  rintro rfl
  have inner := (canonical.of_prefix above).2
  by_cases same : other = place
  · simp [same, directory] at vacant
  · simp [inner same] at vacant

/-- The directories along a canonical directory are there already. -/
theorem makeDirectoriesFrom_append (rest : List String) {names : List String}
    (canonical : disk.Canonical (place ++ names))
    (directory : disk.isDirectory (place ++ names) = true) :
    disk.makeDirectoriesFrom place (names ++ rest) =
      disk.makeDirectoriesFrom (place ++ names) rest := by
  induction names generalizing place with
  | nil => simp
  | cons name names inductionHypothesis =>
    have split : place ++ name :: names = (place ++ [name]) ++ names := by simp
    rw [split] at canonical directory ⊢
    obtain ⟨next, inner⟩ := canonical.of_prefix (List.prefix_append (place ++ [name]) names)
    have here : disk.isDirectory (place ++ [name]) = true := by
      by_cases same : place ++ [name] = (place ++ [name]) ++ names
      · rwa [← same] at directory
      · exact inner same
    obtain ⟨-, plain, -, node, found, -⟩ := next.last
    have leads : disk.walk linkLimit place [name] = .ok (place ++ [name]) := by
      rw [walk_cons [] next, walk]
    rw [List.cons_append, makeDirectoriesFrom]
    simp only [plain.ne_parent, if_false, found, leads, here, if_true]
    exact inductionHypothesis canonical directory

end Files

end Disk

end StepRunner
