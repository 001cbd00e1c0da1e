import StepRunner.Proofs.Disk.Walks
import StepRunner.Proofs.Text.Digits

/-!
This file shows that a directory that was made can be walked to.
The makers of directories follow a path name by name, and a walk does the same once they are done.
-/

namespace StepRunner

namespace Path

/-- A name that is joined to a path comes after the names of the path. -/
theorem names_join {path name : String} (filled : path.isEmpty = false) (plain : Plain name) :
    names (join path name) = names path ++ [name] := by
  have relative : isAbsolute name = false := by
    rw [isAbsolute, decide_eq_false_iff_not]
    exact fun first => plain.slashFree (List.mem_of_mem_head? first)
  have single : Text.splitAt '/' name.toList = [name.toList] := by
    rw [Text.splitAt_eq_splitOn]
    exact List.splitOn_eq_singleton plain.slashFree
  have kept : [name].filter (fun piece => decide (piece ≠ "" ∧ piece ≠ ".")) = [name] :=
    List.filter_eq_self.2 fun piece present => by
      obtain rfl := List.mem_singleton.1 present
      exact decide_eq_true ⟨plain.ne_empty, plain.ne_here⟩
  unfold join
  split
  · next absolute => simp [relative] at absolute
  · split
    · next closed =>
      have last : path.toList.getLast? = some '/' := by simpa [filled] using closed
      obtain ⟨front, whole⟩ := List.getLast?_eq_some_iff.1 last
      have text : (path ++ name).toList = front ++ '/' :: name.toList := by
        rw [String.toList_append, whole, List.append_assoc, List.singleton_append]
      rw [names, pieces, text, Text.splitAt_append, single, names, pieces, whole,
        Text.splitAt_append, List.map_append, List.map_append, List.filter_append,
        List.filter_append]
      simpa [Text.splitAt] using kept
    · have text : (path ++ "/" ++ name).toList = path.toList ++ '/' :: name.toList := by
        simp
      rw [names, pieces, text, Text.splitAt_append, single, List.map_append, List.filter_append]
      simpa [names, pieces] using kept

end Path

namespace Disk

open StepRunner.Path (Location Plain)

variable {disk before after : Disk} {place middle location other : Location}
  {first second todo : List String} {name : String}

/-- The pieces of a path lead from a directory to a location, through as many links as they need. -/
inductive Leads (disk : Disk) : Location → List String → Location → Prop where
  | done (place : Location) : Leads disk place [] place
  | stay {place location : Location} {piece : String} {rest : List String}
      (inside : disk.isDirectory place = true) (idle : Idle piece)
      (later : Leads disk place rest location) : Leads disk place (piece :: rest) location
  | climb {place location : Location} {rest : List String}
      (inside : disk.isDirectory place = true)
      (later : Leads disk place.dropLast rest location) : Leads disk place (".." :: rest) location
  | follow {place location : Location} {piece target : String} {rest : List String}
      (inside : disk.isDirectory place = true) (moves : ¬Idle piece) (forward : piece ≠ "..")
      (found : disk.node? (place ++ [piece]) = some (.link target))
      (later : Leads disk (if Path.isAbsolute target then [] else place)
        (Path.pieces target ++ rest) location) : Leads disk place (piece :: rest) location
  | enter {place location : Location} {piece : String} {rest : List String} {node : Node}
      (inside : disk.isDirectory place = true) (moves : ¬Idle piece) (forward : piece ≠ "..")
      (found : disk.node? (place ++ [piece]) = some node) (real : ∀ target, node ≠ .link target)
      (later : Leads disk (place ++ [piece]) rest location) :
      Leads disk place (piece :: rest) location

/-- What stood on a disk stands on a later one. -/
def Grows (before after : Disk) : Prop :=
  ∀ location node, before.node? location = some node → after.node? location = some node

section Ways

theorem leads_of_walk {links : Nat} (walked : disk.walk links place todo = .ok location) :
    disk.Leads place todo location := by
  refine walk_induction (motive := fun _ place todo => disk.Leads place todo location)
    (fun _ => .done location) ?stay ?climb ?follow ?enter walked
  case stay => exact fun _ _ _ _ inside idle later => .stay inside idle later
  case climb => exact fun _ _ _ inside later => .climb inside later
  case follow =>
    exact fun _ _ _ _ _ inside moves forward _ found _ later =>
      .follow inside moves forward found later
  case enter =>
    exact fun _ _ _ _ _ inside moves forward _ found real later =>
      .enter inside moves forward found real later

theorem Leads.append (early : disk.Leads place first middle)
    (late : disk.Leads middle second location) : disk.Leads place (first ++ second) location := by
  induction early with
  | done place => exact late
  | stay inside idle _ inductionHypothesis => exact .stay inside idle (inductionHypothesis late)
  | climb inside _ inductionHypothesis => exact .climb inside (inductionHypothesis late)
  | follow inside moves forward found _ inductionHypothesis =>
    refine .follow inside moves forward found ?_
    have rest := inductionHypothesis late
    rwa [List.append_assoc] at rest
  | enter inside moves forward found real _ inductionHypothesis =>
    exact .enter inside moves forward found real (inductionHypothesis late)

/-- A way passes through the end of each of its beginnings. -/
theorem Leads.split (whole : disk.Leads place (first ++ second) location) :
    ∃ middle, disk.Leads place first middle ∧ disk.Leads middle second location := by
  generalize joined : first ++ second = todo at whole
  induction whole generalizing first with
  | done place =>
    obtain ⟨rfl, rfl⟩ := List.append_eq_nil_iff.1 joined
    exact ⟨place, .done place, .done place⟩
  | @stay place location piece rest inside idle later inductionHypothesis =>
    rcases List.append_eq_cons_iff.1 joined with ⟨rfl, rfl⟩ | ⟨tail, rfl, rfl⟩
    · exact ⟨place, .done place, .stay inside idle later⟩
    · obtain ⟨middle, early, late⟩ := inductionHypothesis rfl
      exact ⟨middle, .stay inside idle early, late⟩
  | @climb place location rest inside later inductionHypothesis =>
    rcases List.append_eq_cons_iff.1 joined with ⟨rfl, rfl⟩ | ⟨tail, rfl, rfl⟩
    · exact ⟨place, .done place, .climb inside later⟩
    · obtain ⟨middle, early, late⟩ := inductionHypothesis rfl
      exact ⟨middle, .climb inside early, late⟩
  | @follow place location piece target rest inside moves forward found later
      inductionHypothesis =>
    rcases List.append_eq_cons_iff.1 joined with ⟨rfl, rfl⟩ | ⟨tail, rfl, rfl⟩
    · exact ⟨place, .done place, .follow inside moves forward found later⟩
    · obtain ⟨middle, early, late⟩ := inductionHypothesis (List.append_assoc _ _ _)
      exact ⟨middle, .follow inside moves forward found early, late⟩
  | @enter place location piece rest node inside moves forward found real later
      inductionHypothesis =>
    rcases List.append_eq_cons_iff.1 joined with ⟨rfl, rfl⟩ | ⟨tail, rfl, rfl⟩
    · exact ⟨place, .done place, .enter inside moves forward found real later⟩
    · obtain ⟨middle, early, late⟩ := inductionHypothesis rfl
      exact ⟨middle, .enter inside moves forward found real early, late⟩

/-- A path leads to one place only. -/
theorem Leads.unique (one : disk.Leads place todo location) (two : disk.Leads place todo other) :
    location = other := by
  induction one with
  | done place =>
    cases two
    rfl
  | stay _ idle _ inductionHypothesis =>
    cases two with
    | stay _ _ later => exact inductionHypothesis later
    | climb => exact absurd idle (by decide)
    | follow _ moves => exact absurd idle moves
    | enter _ moves => exact absurd idle moves
  | climb _ _ inductionHypothesis =>
    cases two with
    | stay _ idle => exact absurd idle (by decide)
    | climb _ later => exact inductionHypothesis later
    | follow _ _ forward => exact absurd rfl forward
    | enter _ _ forward => exact absurd rfl forward
  | follow _ moves forward found _ inductionHypothesis =>
    cases two with
    | stay _ idle => exact absurd idle moves
    | climb => exact absurd rfl forward
    | follow _ _ _ again later =>
      obtain rfl := Node.link.inj (Option.some.inj (found.symm.trans again))
      exact inductionHypothesis later
    | enter _ _ _ again real =>
      exact absurd (Option.some.inj (again.symm.trans found)) (real _)
  | enter _ moves forward found real _ inductionHypothesis =>
    cases two with
    | stay _ idle => exact absurd idle moves
    | climb => exact absurd rfl forward
    | follow _ _ _ again => exact absurd (Option.some.inj (found.symm.trans again)) (real _)
    | enter _ _ _ _ _ later => exact inductionHypothesis later

/-- The pieces of a path that lead nowhere else can be left out. -/
theorem Leads.filter (leads : disk.Leads place todo location) :
    disk.Leads place (todo.filter fun piece => piece ≠ "" ∧ piece ≠ ".") location := by
  induction todo generalizing place with
  | nil => exact leads
  | cons piece rest inductionHypothesis =>
    have whole : disk.Leads place ([piece] ++ rest) location := leads
    obtain ⟨middle, early, late⟩ := whole.split
    by_cases idle : Idle piece
    · have same : place = middle := by
        cases early with
        | stay _ _ later =>
          cases later
          rfl
        | climb => exact absurd idle (by decide)
        | follow _ moves => exact absurd idle moves
        | enter _ moves => exact absurd idle moves
      rw [List.filter_cons_of_neg (by simpa [Idle, or_iff_not_imp_left] using idle)]
      exact inductionHypothesis (same ▸ late)
    · obtain ⟨filled, moves⟩ := not_or.1 idle
      rw [List.filter_cons_of_pos (by simp [filled, moves])]
      exact early.append (inductionHypothesis late)

theorem Grows.isDirectory (grows : before.Grows after)
    (directory : before.isDirectory place = true) : after.isDirectory place = true := by
  rw [Disk.isDirectory, decide_eq_true_eq] at directory ⊢
  exact grows place _ directory

theorem Leads.grows (leads : before.Leads place todo location) (grows : before.Grows after) :
    after.Leads place todo location := by
  induction leads with
  | done place => exact .done place
  | stay inside idle _ inductionHypothesis =>
    exact .stay (grows.isDirectory inside) idle inductionHypothesis
  | climb inside _ inductionHypothesis =>
    exact .climb (grows.isDirectory inside) inductionHypothesis
  | follow inside moves forward found _ inductionHypothesis =>
    exact .follow (grows.isDirectory inside) moves forward (grows _ _ found) inductionHypothesis
  | enter inside moves forward found real _ inductionHypothesis =>
    exact .enter (grows.isDirectory inside) moves forward (grows _ _ found) real inductionHypothesis

end Ways

section Makers

theorem Grows.refl (disk : Disk) : disk.Grows disk := fun _ _ found => found

theorem Grows.trans {between : Disk} (early : before.Grows between) (late : between.Grows after) :
    before.Grows after :=
  fun location node found => late location node (early location node found)

theorem grows_put {node : Node} (vacant : disk.node? location = none) :
    disk.Grows (disk.put location node) := by
  intro other kept found
  rw [node?_put_of_ne fun same => by simp [same, vacant] at found]
  exact found

/-- The directories of a path are made without a change to what stands. -/
theorem grows_makeDirectoriesFrom
    (made : before.makeDirectoriesFrom place todo = .ok after) : before.Grows after := by
  induction todo generalizing before place with
  | nil => exact Except.ok.inj made ▸ .refl before
  | cons name rest inductionHypothesis =>
    rw [makeDirectoriesFrom] at made
    split at made
    · exact inductionHypothesis made
    · split at made
      · next vacant =>
        split at made
        · cases made
        · exact (grows_put vacant).trans (inductionHypothesis made)
      · split at made
        · cases made
        · split at made
          · exact inductionHypothesis made
          · split at made <;> cases made

theorem Canonical.isDirectory_dropLast (canonical : disk.Canonical place)
    (inside : disk.isDirectory place = true) : disk.isDirectory place.dropLast = true := by
  cases canonical with
  | root => exact inside
  | child _ directory => simpa using directory

/-- A directory that is made can be walked to, piece by piece. -/
theorem leads_makeDirectoriesFrom (canonical : before.Canonical place)
    (inside : before.isDirectory place = true)
    (named : ∀ name ∈ todo, ¬Idle name ∧ Path.SlashFree name)
    (made : before.makeDirectoriesFrom place todo = .ok after) :
    ∃ location, after.Leads place todo location ∧ after.isDirectory location = true := by
  induction todo generalizing before place with
  | nil =>
    obtain rfl := Except.ok.inj made
    exact ⟨place, .done place, inside⟩
  | cons name rest inductionHypothesis =>
    obtain ⟨⟨moves, slashFree⟩, others⟩ := List.forall_mem_cons.1 named
    have stays := (grows_makeDirectoriesFrom made).isDirectory inside
    rw [makeDirectoriesFrom] at made
    split at made
    · next climbs =>
      subst climbs
      obtain ⟨location, leads, directory⟩ := inductionHypothesis canonical.dropLast
        (canonical.isDirectory_dropLast inside) others made
      exact ⟨location, .climb stays leads, directory⟩
    · next forward =>
      split at made
      · next vacant =>
        split at made
        · cases made
        · next short =>
          have plain : Plain name :=
            ⟨slashFree, fun same => moves (.inl same), fun same => moves (.inr same), forward⟩
          have empty : before.isDirectory (place ++ [name]) = false := by
            simp [Disk.isDirectory, vacant]
          have found : (before.put (place ++ [name]) .directory).node? (place ++ [name]) =
              some .directory := node?_put_self (by simp)
          have child : (before.put (place ++ [name]) .directory).Canonical (place ++ [name]) :=
            .child (canonical.put inside empty) (isDirectory_put empty inside) plain
              (not_lt.1 short) found fun _ linked => by cases linked
          have directory : (before.put (place ++ [name]) .directory).isDirectory
              (place ++ [name]) = true := by simp [Disk.isDirectory, found]
          obtain ⟨location, leads, ends⟩ := inductionHypothesis child directory others made
          have kept := grows_makeDirectoriesFrom made _ _ found
          exact ⟨location,
            .enter stays moves forward kept (fun _ linked => by cases linked) leads, ends⟩
      · split at made
        · cases made
        · next middle walked =>
          split at made
          · next directory =>
            have reached := walk_canonical canonical (List.forall_mem_singleton.2 slashFree) walked
            obtain ⟨location, leads, ends⟩ := inductionHypothesis reached directory others made
            have first := (leads_of_walk walked).grows (grows_makeDirectoriesFrom made)
            exact ⟨location, first.append leads, ends⟩
          · split at made <;> cases made

theorem named_of_mem_names {path name : String} (present : name ∈ Path.names path) :
    ¬Idle name ∧ Path.SlashFree name := by
  obtain ⟨among, named⟩ := List.mem_filter.1 present
  refine ⟨?_, Path.slashFree_of_mem_pieces among⟩
  simpa [Idle] using named

/-- The path of a directory that is made leads to a directory. -/
theorem leads_makeDirectories {path : String} (made : before.makeDirectories path = .ok after) :
    ∃ location, after.Leads [] (Path.names path) location ∧ after.isDirectory location = true :=
  leads_makeDirectoriesFrom .root (by simp [Disk.isDirectory, node?])
    (fun _ => named_of_mem_names) made

/-- A directory that is made in a place stands there, unless a link does. -/
theorem isDirectory_makeDirectories_join {path : String}
    (made : before.makeDirectories (Path.join path name) = .ok after) (grows : after.Grows disk)
    (resolved : disk.resolve path = .ok place) (plain : Plain name)
    (real : ∀ target, disk.node? (place ++ [name]) ≠ some (.link target)) :
    disk.isDirectory place = true ∧ disk.isDirectory (place ++ [name]) = true := by
  obtain ⟨filled, -, -, walked⟩ := resolve_eq_ok_iff.1 resolved
  obtain ⟨location, leads, directory⟩ := leads_makeDirectories made
  rw [Path.names_join filled plain] at leads
  obtain ⟨middle, early, late⟩ := (leads.grows grows).split
  obtain rfl := early.unique (leads_of_walk walked).filter
  cases late with
  | stay _ idle => exact absurd idle (not_or.2 ⟨plain.ne_empty, plain.ne_here⟩)
  | climb => exact absurd rfl plain.ne_parent
  | follow _ _ _ found => exact absurd found (real _)
  | enter inside _ _ _ _ ends =>
    cases ends
    exact ⟨inside, grows.isDirectory directory⟩

end Makers

end Disk

end StepRunner
