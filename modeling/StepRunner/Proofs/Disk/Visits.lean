import StepRunner.Proofs.Disk.Growth

/-!
This file shows which places of a disk a walk looks at.
A walk goes the same way on each disk where the same stands at these places.
-/

namespace StepRunner.Disk

open StepRunner.Path (Location SlashFree)

/-- The pieces of a path look at a place on their way from a directory. -/
inductive Looks (disk : Disk) : Nat → Location → List String → Location → Prop where
  | here (links : Nat) (place : Location) (piece : String) (rest : List String) :
      Looks disk links place (piece :: rest) place
  | ahead {links : Nat} {place : Location} {piece : String} {rest : List String}
      (inside : disk.isDirectory place = true) (moves : ¬Idle piece) (forward : piece ≠ "..") :
      Looks disk links place (piece :: rest) (place ++ [piece])
  | stay {links : Nat} {place seen : Location} {piece : String} {rest : List String}
      (inside : disk.isDirectory place = true) (idle : Idle piece)
      (later : Looks disk links place rest seen) : Looks disk links place (piece :: rest) seen
  | climb {links : Nat} {place seen : Location} {rest : List String}
      (inside : disk.isDirectory place = true)
      (later : Looks disk links place.dropLast rest seen) :
      Looks disk links place (".." :: rest) seen
  | follow {links : Nat} {place seen : Location} {piece target : String} {rest : List String}
      (inside : disk.isDirectory place = true) (moves : ¬Idle piece) (forward : piece ≠ "..")
      (found : disk.node? (place ++ [piece]) = some (.link target))
      (later : Looks disk links (if Path.isAbsolute target then [] else place)
        (Path.pieces target ++ rest) seen) : Looks disk (links + 1) place (piece :: rest) seen
  | enter {links : Nat} {place seen : Location} {piece : String} {rest : List String} {node : Node}
      (inside : disk.isDirectory place = true) (moves : ¬Idle piece) (forward : piece ≠ "..")
      (found : disk.node? (place ++ [piece]) = some node) (real : ∀ target, node ≠ .link target)
      (later : Looks disk links (place ++ [piece]) rest seen) :
      Looks disk links place (piece :: rest) seen

variable {disk before after : Disk} {links : Nat} {place root seen location : Location}
  {piece : String} {names rest todo : List String}

/-- A walk depends only on what stands at the places that it looks at. -/
theorem walk_congr
    (same : ∀ seen, before.Looks links place todo seen → after.node? seen = before.node? seen) :
    after.walk links place todo = before.walk links place todo := by
  have directory {links : Nat} {place : Location} {piece : String} {rest : List String}
      (same : ∀ seen, before.Looks links place (piece :: rest) seen →
        after.node? seen = before.node? seen) :
      after.isDirectory place = before.isDirectory place := by
    rw [isDirectory, isDirectory, same place (.here links place piece rest)]
  induction links, place, todo using Disk.walk.induct before with
  | case1 links place => rw [walk, walk]
  | case2 links place piece rest outside =>
    rw [walk, walk, directory same, if_pos outside, if_pos outside]
  | case3 links place piece rest inside idle inductionHypothesis =>
    have inner : before.isDirectory place = true := by simpa using inside
    rw [walk_of_idle ((directory same).trans inner) idle, walk_of_idle inner idle]
    exact inductionHypothesis fun seen later => same seen (.stay inner idle later)
  | case4 links place rest inside named inductionHypothesis =>
    have inner : before.isDirectory place = true := by simpa using inside
    rw [walk_of_parent ((directory same).trans inner), walk_of_parent inner]
    exact inductionHypothesis fun seen later => same seen (.climb inner later)
  | case5 links place piece rest inside named forward long =>
    rw [walk, walk, directory same, if_neg inside, if_neg inside, if_neg named, if_neg named,
      if_neg forward, if_neg forward, if_pos long, if_pos long]
  | case6 links place piece rest inside named forward short missing =>
    have inner : before.isDirectory place = true := by simpa using inside
    rw [walk_of_name ((directory same).trans inner) named forward short,
      walk_of_name inner named forward short, same _ (.ahead inner named forward), missing]
  | case7 place piece rest inside named forward short target found =>
    have inner : before.isDirectory place = true := by simpa using inside
    rw [walk_of_name ((directory same).trans inner) named forward short,
      walk_of_name inner named forward short, same _ (.ahead inner named forward), found]
  | case8 place piece rest inside named forward short target found links inductionHypothesis =>
    have inner : before.isDirectory place = true := by simpa using inside
    have again := (same _ (.ahead inner named forward)).trans found
    rw [walk_of_link ((directory same).trans inner) named forward short again,
      walk_of_link inner named forward short found]
    exact inductionHypothesis fun seen later => same seen (.follow inner named forward found later)
  | case9 links place piece rest inside named forward short node real found inductionHypothesis =>
    have inner : before.isDirectory place = true := by simpa using inside
    have solid : ∀ target, node ≠ .link target := fun target => real target
    have again := (same _ (.ahead inner named forward)).trans found
    rw [walk_of_node ((directory same).trans inner) named forward short again solid,
      walk_of_node inner named forward short found solid]
    exact inductionHypothesis fun seen later =>
      same seen (.enter inner named forward found solid later)

/-- A piece that leads nowhere else only looks at where the walk stands. -/
theorem Looks.of_idle (looks : disk.Looks links place (piece :: rest) seen) (idle : Idle piece) :
    seen = place ∨ disk.Looks links place rest seen := by
  cases looks with
  | here => exact .inl rfl
  | ahead _ moves => exact absurd idle moves
  | stay _ _ later => exact .inr later
  | climb => exact absurd idle (by decide)
  | follow _ moves => exact absurd idle moves
  | enter _ moves => exact absurd idle moves

theorem Leads.of_idle (leads : disk.Leads place (piece :: rest) location) (idle : Idle piece) :
    disk.Leads place rest location := by
  cases leads with
  | stay _ _ later => exact later
  | climb => exact absurd idle (by decide)
  | follow _ moves => exact absurd idle moves
  | enter _ moves => exact absurd idle moves

/-- A name that is missing leads nowhere. -/
theorem not_leads_of_missing (moves : ¬Idle piece) (forward : piece ≠ "..")
    (missing : disk.node? (place ++ [piece]) = none) :
    ¬disk.Leads place (piece :: rest) location := by
  intro leads
  cases leads with
  | stay _ idle => exact moves idle
  | climb => exact forward rfl
  | follow _ _ _ found => simp [missing] at found
  | enter _ _ _ found => simp [missing] at found

/-- A walk along a canonical location looks at what it passes through. -/
theorem Looks.goes_along (looks : disk.Looks links place (names ++ rest) seen)
    (canonical : disk.Canonical (place ++ names)) :
    seen <+: place ++ names ∨ disk.Looks links (place ++ names) rest seen := by
  induction names generalizing place with
  | nil =>
    rw [List.append_nil]
    exact .inr looks
  | cons name names inductionHypothesis =>
    have split : place ++ name :: names = (place ++ [name]) ++ names := by simp
    rw [split] at canonical ⊢
    obtain ⟨-, plain, -, node, found, real⟩ := canonical.of_append.last
    have first : place <+: place ++ [name] ++ names := by
      rw [List.append_assoc]
      exact List.prefix_append _ _
    cases looks with
    | here => exact .inl first
    | ahead => exact .inl (List.prefix_append _ _)
    | stay _ idle => exact absurd idle (not_or.2 ⟨plain.ne_empty, plain.ne_here⟩)
    | climb => exact absurd rfl plain.ne_parent
    | follow _ _ _ linked => exact absurd (Option.some.inj (found.symm.trans linked)) (real _)
    | enter _ _ _ _ _ later => exact inductionHypothesis later canonical

/-- A walk that never climbs stays below a directory without links. -/
theorem Looks.stays_inside (looks : disk.Looks links place todo seen) (inside : root <+: place)
    (level : ".." ∉ todo)
    (solid : ∀ location target, root <+: location → disk.node? location ≠ some (.link target)) :
    root <+: seen := by
  induction looks with
  | here => exact inside
  | ahead => exact inside.trans (List.prefix_append _ _)
  | stay _ _ _ inductionHypothesis =>
    exact inductionHypothesis inside fun climbs => level (List.mem_cons_of_mem _ climbs)
  | climb => exact absurd List.mem_cons_self level
  | follow _ _ _ found =>
    exact absurd found (solid _ _ (inside.trans (List.prefix_append _ _)))
  | enter _ _ _ _ _ _ inductionHypothesis =>
    exact inductionHypothesis (inside.trans (List.prefix_append _ _))
      fun climbs => level (List.mem_cons_of_mem _ climbs)

/-- As many steps up as a canonical directory has names lead back to the top. -/
theorem walk_parents (rest : List String) (canonical : disk.Canonical place)
    (directory : disk.isDirectory place = true) :
    disk.walk links place (List.replicate place.length ".." ++ rest) =
      disk.walk links [] rest := by
  induction canonical with
  | root => rfl
  | @child place name _ parent inside _ _ _ _ inductionHypothesis =>
    rw [List.length_append, List.length_singleton, List.replicate_succ, List.cons_append,
      walk_of_parent directory, List.dropLast_concat]
    exact inductionHypothesis inside

end StepRunner.Disk
