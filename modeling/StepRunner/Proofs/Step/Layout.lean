import Mathlib.Logic.Relation
import StepRunner.Console.Perform
import StepRunner.Proofs.Engine.Authoring
import StepRunner.Proofs.Text.Digits
import StepRunner.Proofs.Text.Encoding
import StepRunner.Rehearsal.Machine

/-!
This file shows that only the lines that count make up a script.
Blank lines, comments, the ending of the last line and the form of the line endings do not matter,
and a test case can be made of the lines of any file.
-/

namespace StepRunner

namespace Text

/-- A text is made up of lines. -/
inductive Ruled : List Char → List (List Char) → Prop where
  | empty : Ruled [] []
  /-- The text after the last line feed is a line. -/
  | last {line : List Char} (filled : line ≠ []) (single : '\n' ∉ line) : Ruled line [line]
  /-- A line ends at a line feed. -/
  | feed {line rest : List Char} {rows : List (List Char)} (single : '\n' ∉ line)
      (bare : line.getLast? ≠ some '\r') (later : Ruled rest rows) :
      Ruled (line ++ '\n' :: rest) (line :: rows)
  /-- A carriage return before the line feed belongs to the ending. -/
  | returned {line rest : List Char} {rows : List (List Char)} (single : '\n' ∉ line)
      (later : Ruled rest rows) : Ruled (line ++ '\r' :: '\n' :: rest) (line :: rows)

/-- A line starts behind a text. -/
def StartsLine (front : List Char) : Prop := ∀ char ∈ front.getLast?, char = '\n'

/-- A text with a carriage return before every line feed. -/
def withReturns (text : List Char) : List Char :=
  text.flatMap fun char => if char = '\n' then ['\r', '\n'] else [char]

section Lines

variable {text front back line rest : List Char} {rows : List (List Char)}

/-- A text is its last line, or a line comes before the rest of it. -/
theorem line_induction {motive : List Char → Prop}
    (last : ∀ line, '\n' ∉ line → motive line)
    (feed : ∀ line rest, '\n' ∉ line → motive rest → motive (line ++ '\n' :: rest))
    (text : List Char) : motive text := by
  induction length : text.length using Nat.strong_induction_on generalizing text with
  | _ length inductionHypothesis =>
    by_cases ends : '\n' ∈ text
    · obtain ⟨line, rest, rfl, single⟩ := List.eq_append_cons_of_mem ends
      rw [List.length_append, List.length_cons] at length
      exact feed line rest single (inductionHypothesis rest.length (by omega) rest rfl)
    · exact last text ends

/-- A text ends like what comes after one of its line feeds. -/
theorem getLast?_feed {char : Char} (final : rest.getLast? = some char) :
    (line ++ '\n' :: rest).getLast? = some char := by
  have filled : rest ≠ [] := by
    rintro rfl
    cases final
  rw [List.getLast?_append_of_ne_nil _ (List.cons_ne_nil _ _),
    List.getLast?_cons_of_ne_nil filled]
  exact final

theorem dropReturn_of_bare (bare : line.getLast? ≠ some '\r') : dropReturn line = line :=
  if_neg bare

theorem dropReturn_concat (line : List Char) : dropReturn (line ++ ['\r']) = line := by
  simp [dropReturn]

theorem lines_of_single (single : '\n' ∉ line) :
    lines line = if line = [] then [] else [line] := by
  cases line with
  | nil => rfl
  | cons char line => simp [lines, splitAt_of_not_mem single]

/-- The first line feed ends the first line. -/
theorem lines_feed (single : '\n' ∉ line) (rest : List Char) :
    lines (line ++ '\n' :: rest) = dropReturn line :: lines rest := by
  have pieces := splitAt_append '\n' line rest
  have filled := splitAt_ne_nil '\n' rest
  rw [splitAt_of_not_mem single, List.singleton_append] at pieces
  simp only [lines, pieces, List.dropLast_cons_of_ne_nil filled, List.map_cons,
    List.getLast?_cons_of_ne_nil filled]
  split <;> rfl

theorem lines_returned (single : '\n' ∉ line) (rest : List Char) :
    lines (line ++ '\r' :: '\n' :: rest) = line :: lines rest := by
  have free : '\n' ∉ line ++ ['\r'] := by simpa using single
  have whole := lines_feed free rest
  rwa [dropReturn_concat, List.append_assoc, List.singleton_append] at whole

theorem Ruled.lines_eq (ruled : Ruled text rows) : lines text = rows := by
  induction ruled with
  | empty => rfl
  | last filled single => rw [lines_of_single single, if_neg filled]
  | feed single bare _ inductionHypothesis =>
    rw [lines_feed single, dropReturn_of_bare bare, inductionHypothesis]
  | returned single _ inductionHypothesis => rw [lines_returned single, inductionHypothesis]

theorem ruled_lines (text : List Char) : Ruled text (lines text) := by
  induction text using line_induction with
  | last line single =>
    rw [lines_of_single single]
    split
    · next empty => exact empty ▸ .empty
    · next filled => exact .last filled single
  | feed line rest single later =>
    rw [lines_feed single]
    by_cases bare : line.getLast? = some '\r'
    · obtain ⟨line, rfl⟩ := List.getLast?_eq_some_iff.1 bare
      rw [dropReturn_concat, List.append_assoc, List.singleton_append]
      exact .returned (fun present => single (List.mem_append_left _ present)) later
    · rw [dropReturn_of_bare bare]
      exact .feed single bare later

/-- A text is made up of its lines and of no others. -/
theorem ruled_iff : Ruled text rows ↔ lines text = rows :=
  ⟨Ruled.lines_eq, fun same => same ▸ ruled_lines text⟩

/-- Where a line starts, the lines before and the lines after are apart. -/
theorem lines_append (starts : StartsLine front) (back : List Char) :
    lines (front ++ back) = lines front ++ lines back := by
  induction front using line_induction with
  | last line single =>
    -- A text without line feeds starts a line behind it only when it is empty.
    cases ending : line.getLast? with
    | none => simp [List.getLast?_eq_none_iff.1 ending, lines_of_single]
    | some char =>
      have feed : char = '\n' := starts char ending
      exact absurd (List.mem_of_getLast? ending) (feed ▸ single)
  | feed line rest single inductionHypothesis =>
    have later : StartsLine rest := fun char final => starts char (getLast?_feed final)
    rw [List.append_assoc, List.cons_append, lines_feed single, lines_feed single,
      inductionHypothesis later, List.cons_append]

/-- A carriage return that is put before a line feed is no part of a line. -/
theorem lines_return (bare : front.getLast? ≠ some '\r') (back : List Char) :
    lines (front ++ '\r' :: '\n' :: back) = lines (front ++ '\n' :: back) := by
  induction front using line_induction with
  | last line single =>
    rw [lines_returned single, lines_feed single, dropReturn_of_bare bare]
  | feed line rest single inductionHypothesis =>
    have later : rest.getLast? ≠ some '\r' := fun final => bare (getLast?_feed final)
    rw [List.append_assoc, List.cons_append, lines_feed single, inductionHypothesis later,
      List.append_assoc, List.cons_append, lines_feed single]

end Lines

end Text

namespace Script

open Text

/-- Nothing but blanks comes before the sign that makes a line a comment. -/
def IsComment (line : List Char) : Prop :=
  ∃ before rest, line = before ++ '#' :: rest ∧ ∀ char ∈ before, isBlank char = true

/-- A line counts unless it is blank or a comment. -/
def Counts (line : List Char) : Prop :=
  ¬(∀ char ∈ line, isBlank char = true) ∧ ¬IsComment line

/-- The lines of a text that are kept. -/
def keptLines (text : List Char) : List (List Char) :=
  (lines text).filter isKept

/-- A change of the layout of a script. -/
inductive Relaid : List Char → List Char → Prop where
  /-- A line that does not count is put between two lines. -/
  | inserted {front line : List Char} (back : List Char) (starts : StartsLine front)
      (single : '\n' ∉ line) (idle : ¬Counts line) :
      Relaid (front ++ back) (front ++ (line ++ '\n' :: back))
  /-- A line that does not count is put at the end. -/
  | trailed {front line : List Char} (starts : StartsLine front) (single : '\n' ∉ line)
      (idle : ¬Counts line) : Relaid front (front ++ line)
  /-- A line feed is put at the end. -/
  | ended {text : List Char} (bare : text.getLast? ≠ some '\r') : Relaid text (text ++ ['\n'])
  /-- A carriage return is put before a line feed. -/
  | returned {front : List Char} (back : List Char) (bare : front.getLast? ≠ some '\r') :
      Relaid (front ++ '\n' :: back) (front ++ '\r' :: '\n' :: back)

/-- Two scripts differ in nothing but their layouts. -/
def SameBarLayout : List Char → List Char → Prop := Relation.EqvGen Relaid

section Kept

variable {line rest text other : List Char}

theorem isComment_iff : IsComment line ↔ (line.dropWhile isBlank).head? = some '#' := by
  constructor
  · rintro ⟨before, rest, rfl, blank⟩
    rw [List.dropWhile_append_of_pos blank, List.dropWhile_cons_of_neg (by decide), List.head?_cons]
  · intro first
    obtain ⟨rest, shape⟩ := List.head?_eq_some_iff.1 first
    refine ⟨line.takeWhile isBlank, rest, ?_, fun char present => List.mem_takeWhile_imp present⟩
    rw [← shape, List.takeWhile_append_dropWhile]

theorem isKept_iff : isKept line = true ↔ Counts line := by
  rw [Counts, isComment_iff, ← List.dropWhile_eq_nil_iff, isKept]
  cases line.dropWhile isBlank with
  | nil => simp
  | cons first rest => simp

instance (line : List Char) : Decidable (Counts line) :=
  decidable_of_iff _ isKept_iff

/-- A carriage return at the end of a line does not make it count. -/
theorem isKept_dropReturn (line : List Char) : isKept (dropReturn line) = isKept line := by
  by_cases bare : line.getLast? = some '\r'
  · obtain ⟨line, rfl⟩ := List.getLast?_eq_some_iff.1 bare
    rw [dropReturn_concat, isKept, isKept, List.dropWhile_append]
    cases line.dropWhile isBlank <;> rfl
  · rw [dropReturn_of_bare bare]

theorem filter_of_idle (idle : ¬Counts line) : [line].filter isKept = [] := by
  simpa using mt isKept_iff.1 idle

theorem keptLines_feed (single : '\n' ∉ line) (rest : List Char) :
    keptLines (line ++ '\n' :: rest) = [dropReturn line].filter isKept ++ keptLines rest := by
  rw [keptLines, lines_feed single, ← List.singleton_append, List.filter_append, keptLines]

theorem keptLines_append {front : List Char} (starts : StartsLine front) (back : List Char) :
    keptLines (front ++ back) = keptLines front ++ keptLines back := by
  rw [keptLines, lines_append starts, List.filter_append, keptLines, keptLines]

theorem keptLines_ended (bare : text.getLast? ≠ some '\r') :
    keptLines (text ++ ['\n']) = keptLines text := by
  induction text using line_induction with
  | last line single =>
    rw [keptLines_feed single, dropReturn_of_bare bare, keptLines, keptLines,
      lines_of_single single]
    split
    · next empty => rw [empty]; rfl
    · exact List.append_nil _
  | feed line rest single inductionHypothesis =>
    have later : rest.getLast? ≠ some '\r' := fun final => bare (getLast?_feed final)
    rw [List.append_assoc, List.cons_append, keptLines_feed single, keptLines_feed single,
      inductionHypothesis later]

/-- No change of the layout changes which lines are kept. -/
theorem Relaid.keptLines_eq (relaid : Relaid text other) : keptLines other = keptLines text := by
  cases relaid with
  | @inserted _ line back starts single idle =>
    have dropped : ¬Counts (dropReturn line) := by
      rwa [← isKept_iff, isKept_dropReturn, isKept_iff]
    rw [keptLines_append starts, keptLines_append starts, keptLines_feed single,
      filter_of_idle dropped, List.nil_append]
  | @trailed _ line starts single idle =>
    have nothing : keptLines line = [] := by
      rw [keptLines, lines_of_single single]
      split
      · rfl
      · exact filter_of_idle idle
    rw [keptLines_append starts, nothing, List.append_nil]
  | ended bare => exact keptLines_ended bare
  | returned back bare => rw [keptLines, lines_return bare, keptLines]

theorem SameBarLayout.keptLines_eq (same : SameBarLayout text other) :
    keptLines other = keptLines text := by
  induction same with
  | rel _ _ relaid => exact relaid.keptLines_eq
  | refl => rfl
  | symm _ _ _ inductionHypothesis => exact inductionHypothesis.symm
  | trans _ _ _ _ _ first second => exact second.trans first

theorem SameBarLayout.trans {last : List Char} (first : SameBarLayout text other)
    (second : SameBarLayout other last) : SameBarLayout text last :=
  Relation.EqvGen.trans _ _ _ first second

/-- Line feeds become pairs with carriage returns one after the other. -/
theorem sameBarLayout_withReturns {front : List Char} (bare : front.getLast? ≠ some '\r')
    (free : '\r' ∉ text) : SameBarLayout (front ++ text) (front ++ withReturns text) := by
  induction text generalizing front with
  | nil => exact .refl _
  | cons char text inductionHypothesis =>
    obtain ⟨other, others⟩ := not_or.1 (mt List.mem_cons.2 free)
    by_cases feed : char = '\n'
    · subst feed
      have step : SameBarLayout (front ++ '\n' :: text) (front ++ '\r' :: '\n' :: text) :=
        .rel _ _ (.returned text bare)
      have later := @inductionHypothesis (front ++ ['\r', '\n']) (by simp) others
      rw [List.append_assoc, List.append_assoc] at later
      simpa [withReturns] using step.trans later
    · have later := @inductionHypothesis (front ++ [char]) (by simpa using Ne.symm other) others
      simpa [withReturns, feed] using later

end Kept

/-- A test case is made of the lines of a script, whatever the title and the project are. -/
structure Authors (engine : Engine) (lines : List String) : Prop where
  /-- No line of the script is refused. -/
  solid : ∀ now projectId title number,
    (engine.createTestCase now projectId title lines).1 ≠ .error (.validation (.blankLine number))
  /-- What is created are the lines without the blanks around them. -/
  enacted : ∀ now projectId title testCase steps,
    (engine.createTestCase now projectId title lines).1 = .ok (testCase, steps) →
      Enacts lines testCase.id steps ∧
        (engine.createTestCase now projectId title lines).2.store.tables.listSteps testCase.id =
          steps
  stored : ∀ now projectId title, engine.refusals.headD false = false → ¬Blank title →
    projectId ∈ engine.store.tables.projects.map Project.id →
    engine.Stores now projectId title lines

/-- What the steps given as words and the content of a script file amount to. -/
structure Collects (steps : List String) (content : String) : Prop where
  /-- The lines that count follow the given steps in their order. -/
  rows : ∃ rows, (∀ others, Ruled content.toList others ↔ others = rows) ∧
    collect steps (some content) =
      steps ++ (rows.filter fun row => Counts row).map String.ofList
  /-- The layout of the file does not matter. -/
  laid : ∀ other : String, SameBarLayout content.toList other.toList →
    collect steps (some other) = collect steps (some content)
  returned : '\r' ∉ content.toList → ∀ other : String,
    other.toList = withReturns content.toList →
      collect steps (some other) = collect steps (some content)
  /-- The file is read as it is. -/
  read : ∀ (machine : Rehearsal.Machine) (path : String),
    machine.read path = .ok (Utf8.encode content) →
      machine.carryOut (Console.scriptLines steps (some path)) =
        (.ok (collect steps (some content)), machine)
  authors : ∀ engine : Engine, engine.store.Sound →
    Authors engine (collect [] (some content))

section Results

variable {engine : Engine} {content : String}

theorem collect_some (steps : List String) (content : String) :
    collect steps (some content) = steps ++ (keptLines content.toList).map String.ofList := rfl

/-- A line that is kept is not blank. -/
theorem solid_of_mem_collect {line : String} (present : line ∈ collect [] (some content)) :
    ¬Blank line := by
  obtain ⟨row, kept, rfl⟩ := List.mem_map.1 present
  have counts : Counts row := isKept_iff.1 (List.mem_filter.1 kept).2
  rw [Blank, String.toList_ofList]
  exact counts.1

theorem stores_or_fails {lines : List String} (sound : engine.store.Sound)
    (solid : ∀ line ∈ lines, ¬Blank line) (now : Int) (projectId title : String) :
    engine.Stores now projectId title lines ∨
      ∃ error, (∀ number, error ≠ .validation (.blankLine number)) ∧
        engine.Fails (engine.createTestCase now projectId title lines) error := by
  have fate := Engine.creates sound now projectId title lines
  cases faulty : engine.refusals.headD false with
  | true => exact .inr ⟨_, by simp, fate.refused solid faulty⟩
  | false =>
    by_cases untitled : Blank title
    · exact .inr ⟨_, by simp, fate.untitled solid faulty untitled⟩
    · by_cases home : projectId ∈ engine.store.tables.projects.map Project.id
      · exact .inl (fate.created solid faulty untitled home)
      · exact .inr ⟨_, by simp, fate.homeless solid faulty untitled home⟩

/-- Lines that are not blank are never refused. -/
theorem authors_of_solid {lines : List String} (sound : engine.store.Sound)
    (solid : ∀ line ∈ lines, ¬Blank line) : Authors engine lines where
  solid := by
    intro now projectId title number
    rcases stores_or_fails sound solid now projectId title with stores | ⟨error, other, failed, -⟩
    · obtain ⟨testCase, steps, minted, refusals, outcome, -⟩ := stores
      simp [outcome]
    · simpa [failed] using other number
  enacted := by
    intro now projectId title testCase steps created
    rcases stores_or_fails sound solid now projectId title with stores | ⟨error, other, failed, -⟩
    · obtain ⟨made, script, minted, refusals, outcome, -, -, enacts, listed⟩ := stores
      obtain ⟨rfl, rfl⟩ : made = testCase ∧ script = steps := by simpa [outcome] using created
      exact ⟨enacts, listed⟩
    · exact absurd (failed.symm.trans created) nofun
  stored := fun now _ _ => Engine.stores_of_solid sound now solid

/-- A script file stands for the same steps in every layout, and they make up a test case. -/
theorem collected (steps : List String) (content : String) : Collects steps content where
  rows := by
    refine ⟨lines content.toList, fun others => ruled_iff.trans eq_comm, ?_⟩
    rw [collect_some, keptLines]
    congr 2
    refine List.filter_congr fun row _ => ?_
    exact Bool.eq_iff_iff.2 (isKept_iff.trans decide_eq_true_iff.symm)
  laid := by
    intro other same
    rw [collect_some, collect_some, same.keptLines_eq]
  returned := by
    intro free other returned
    have same : SameBarLayout ([] ++ content.toList) ([] ++ withReturns content.toList) :=
      sameBarLayout_withReturns (by simp) free
    rw [collect_some, collect_some, returned]
    exact congrArg (fun kept => steps ++ kept.map String.ofList) same.keptLines_eq
  read := by
    intro machine path found
    simp only [Console.scriptLines, Rehearsal.Machine.carryOut, found, Utf8.decode?_encode]
  authors := fun _ sound => authors_of_solid sound fun _ => solid_of_mem_collect

end Results

end Script

end StepRunner
