import StepRunner.Proofs.Text.Trimming
import StepRunner.Step.Reader

/-!
This file states the grammar of step lines and shows that lines are read exactly by this grammar.
-/

namespace StepRunner.StepReading

section Seconds

/-- The ways to write a number of seconds: digits of any script, with an optional fraction. -/
inductive SpellsSeconds : List Char → WrittenSeconds → Prop where
  | whole {whole : List Char} (filled : whole ≠ [])
      (digits : ∀ char ∈ whole, Text.isDecimalDigit char = true) :
      SpellsSeconds whole ⟨whole, none⟩
  | fractional {whole fraction : List Char} (filled : whole ≠ []) (fine : fraction ≠ [])
      (digits : ∀ char ∈ whole, Text.isDecimalDigit char = true)
      (parts : ∀ char ∈ fraction, Text.isDecimalDigit char = true) :
      SpellsSeconds (whole ++ '.' :: fraction) ⟨whole, some fraction⟩

/-- A text ends with a keyword and a number of seconds behind a lead. -/
def Timed (keyword text lead : List Char) (written : WrittenSeconds) : Prop :=
  ∃ number, SpellsSeconds number written ∧ text = lead ++ keyword ++ number ++ ['s']

/-- The characters of a written number of seconds. -/
def isSecondsChar (char : Char) : Bool :=
  Text.isDecimalDigit char || char == '.'

variable {number text lead keyword : List Char} {written : WrittenSeconds}

theorem SpellsSeconds.chars (spells : SpellsSeconds number written) :
    ∀ char ∈ number, isSecondsChar char = true := by
  cases spells with
  | whole filled digits =>
    intro char present
    simp [isSecondsChar, digits char present]
  | fractional filled fine digits parts =>
    intro char present
    rcases List.mem_append.1 present with early | late
    · simp [isSecondsChar, digits char early]
    · rcases List.mem_cons.1 late with rfl | later
      · simp [isSecondsChar]
      · simp [isSecondsChar, parts char later]

theorem ofChars?_eq_some_iff :
    WrittenSeconds.ofChars? number = some written ↔ SpellsSeconds number written := by
  constructor
  · intro read
    have split := Text.spanWhile_append Text.isDecimalDigit number
    have digits : ∀ char ∈ (Text.spanWhile Text.isDecimalDigit number).1,
        Text.isDecimalDigit char = true := fun char present => List.mem_takeWhile_imp present
    unfold WrittenSeconds.ofChars? at read
    generalize Text.spanWhile Text.isDecimalDigit number = halves at read split digits
    obtain ⟨whole, rest⟩ := halves
    subst split
    cases whole with
    | nil => simp at read
    | cons first others =>
      simp only [List.isEmpty_cons, Bool.false_eq_true, if_false] at read
      split at read
      · obtain rfl := Option.some.inj read
        rw [List.append_nil]
        exact .whole (by simp) digits
      · next fraction =>
        split at read
        · next fits =>
          obtain rfl := Option.some.inj read
          simp only [Bool.and_eq_true, Bool.not_eq_true', List.isEmpty_eq_false_iff,
            List.all_eq_true] at fits
          exact .fractional (by simp) fits.1 digits fits.2
        · cases read
      · cases read
  · intro spells
    cases spells with
    | whole filled digits =>
      have all := List.takeWhile_eq_self_iff.2 digits
      have none := List.dropWhile_eq_nil_iff.2 digits
      simp [WrittenSeconds.ofChars?, Text.spanWhile, all, none, filled]
    | @fractional whole fraction filled fine digits parts =>
      have point : Text.isDecimalDigit '.' = false := by decide
      simpa [WrittenSeconds.ofChars?, Text.spanWhile, List.takeWhile_append_of_pos digits,
        List.dropWhile_append_of_pos digits, point, filled, fine] using parts

/-- A keyword that ends with a blank is told apart from the number after it. -/
theorem splitWait?_eq_some_iff (begun : List Char) :
    splitWait? (begun ++ [' ']) text = some (lead, written) ↔
      Timed (begun ++ [' ']) text lead written := by
  constructor
  · intro found
    simp only [splitWait?, bind, Option.bind_eq_some_iff, pure, Option.some.injEq,
      Prod.mk.injEq] at found
    obtain ⟨timed, cut, written, read, lead, left, rfl, rfl⟩ := found
    refine ⟨_, ofChars?_eq_some_iff.1 read, ?_⟩
    rw [Text.dropSuffix?_eq_some_iff.1 cut, List.append_assoc lead,
      ← Text.dropSuffix?_eq_some_iff.1 left]
  · rintro ⟨number, spells, rfl⟩
    have cut : Text.dropSuffix? ['s'] (lead ++ (begun ++ [' ']) ++ number ++ ['s']) =
        some (lead ++ (begun ++ [' ']) ++ number) := Text.dropSuffix?_eq_some_iff.2 rfl
    have last : ((lead ++ (begun ++ [' ']) ++ number).reverse.takeWhile fun char =>
        Text.isDecimalDigit char || char == '.').reverse = number := by
      have blank : Text.isDecimalDigit ' ' = false := by decide
      have chars : ∀ char ∈ number.reverse, (Text.isDecimalDigit char || char == '.') = true :=
        fun char present => spells.chars char (List.mem_reverse.1 present)
      simp [List.takeWhile_append_of_pos chars, blank]
    have left : Text.dropSuffix? (begun ++ [' '] ++ number)
        (lead ++ (begun ++ [' ']) ++ number) = some lead :=
      Text.dropSuffix?_eq_some_iff.2 (List.append_assoc lead _ _)
    simp only [splitWait?, cut, bind, Option.bind_some, last, ofChars?_eq_some_iff.2 spells, left]
    rfl

end Seconds

section Shapes

/-- The text in quotes at the start of a text, and what comes after it. -/
theorem quoted?_eq_some_iff {text inside rest : List Char} :
    quoted? text = some (inside, rest) ↔ '"' ∉ inside ∧ text = inside ++ '"' :: rest := by
  constructor
  · intro found
    have split := List.takeWhile_append_dropWhile (p := (· != '"')) (l := text)
    unfold quoted? at found
    split at found
    · next rest closes =>
      obtain ⟨rfl, rfl⟩ := Prod.mk.inj (Option.some.inj found)
      refine ⟨fun quote => ?_, ?_⟩
      · have differs := List.mem_takeWhile_imp quote
        simp at differs
      · rw [← closes, split]
    · cases found
  · rintro ⟨bare, rfl⟩
    have differ : ∀ char ∈ inside, (char != '"') = true := by
      rintro char present
      rw [bne_iff_ne]
      rintro rfl
      exact bare present
    simp [quoted?, List.dropWhile_append_of_pos differ, List.takeWhile_append_of_pos differ]

/--
The strict shapes of a line, each with the action that it stands for.
Keywords are written as they are, and operands in quotes hold no quote.
-/
inductive Shapes (line : List Char) : Action → Prop where
  | enter {value target : List Char} (free : '"' ∉ value) (named : target ≠ [])
      (bare : '"' ∉ target)
      (spelled : line = "Enter \"".toList ++ value ++ "\" in \"".toList ++ target ++
        "\" field".toList) :
      Shapes line (.enter (String.ofList target) (String.ofList value))
  | click {target : List Char} (named : target ≠ []) (bare : '"' ∉ target)
      (spelled : line = "Click \"".toList ++ target ++ "\"".toList) :
      Shapes line (.click (String.ofList target) none)
  | clickAfter {target number : List Char} {written : WrittenSeconds} {wait : Duration}
      (named : target ≠ []) (bare : '"' ∉ target)
      (spelled : line = "Click \"".toList ++ target ++ "\" after ".toList ++ number ++
        "s".toList)
      (spells : SpellsSeconds number written) (usable : written.wait? = some wait) :
      Shapes line (.click (String.ofList target) (some wait))
  | goto {path : List Char} (named : path ≠ []) (bare : '"' ∉ path)
      (spelled : line = "Go to \"".toList ++ path ++ "\"".toList) :
      Shapes line (.goto (String.ofList path))
  | expect {rest : List Char} (single : '\n' ∉ line) (spelled : line = "Expect ".toList ++ rest)
      (filled : rest ≠ [])
      (untimed : ∀ lead written, lead ≠ [] → ¬Timed " within ".toList rest lead written) :
      Shapes line (.expect (String.ofList (Text.trim rest)) none)
  | expectWithin {rest lead : List Char} {written : WrittenSeconds} {wait : Duration}
      (single : '\n' ∉ line) (spelled : line = "Expect ".toList ++ rest)
      (timed : Timed " within ".toList rest lead written) (led : lead ≠ [])
      (solid : Text.trim lead ≠ []) (usable : written.wait? = some wait) :
      Shapes line (.expect (String.ofList (Text.trim lead)) (some wait))

variable {line : List Char} {action : Action}

theorem Shapes.of_enter? (read : enter? line = some action) : Shapes line action := by
  simp only [enter?, bind, Option.bind_eq_some_iff, Prod.exists] at read
  obtain ⟨afterKeyword, begins, value, afterValue, inside, afterIn, middle, target, last, closes,
    ends⟩ := read
  obtain ⟨free, rfl⟩ := quoted?_eq_some_iff.1 inside
  obtain ⟨bare, rfl⟩ := quoted?_eq_some_iff.1 closes
  obtain rfl := Text.dropPrefix?_eq_some_iff.1 begins
  obtain rfl := Text.dropPrefix?_eq_some_iff.1 middle
  split at ends
  · cases ends
  · next fits =>
    simp only [Bool.or_eq_true, List.isEmpty_iff, bne_iff_ne, not_or, not_not] at fits
    obtain ⟨named, rfl⟩ := fits
    obtain rfl := Option.some.inj ends
    exact .enter free named bare (by simp)

theorem Shapes.of_click? (read : click? line = some action) : Shapes line action := by
  simp only [click?, bind, Option.bind_eq_some_iff, Prod.exists] at read
  obtain ⟨afterKeyword, begins, target, rest, inside, ends⟩ := read
  obtain ⟨bare, rfl⟩ := quoted?_eq_some_iff.1 inside
  obtain rfl := Text.dropPrefix?_eq_some_iff.1 begins
  split at ends
  · cases ends
  · next named =>
    have named : target ≠ [] := by simpa using named
    split at ends
    · next nothing =>
      obtain rfl := List.isEmpty_iff.1 nothing
      obtain rfl := Option.some.inj ends
      exact .click named bare (by simp)
    · simp only [Option.bind_eq_some_iff, Prod.exists] at ends
      obtain ⟨lead, written, found, wait, usable, ends⟩ := ends
      obtain ⟨number, spells, rfl⟩ := (splitWait?_eq_some_iff " after".toList).1 found
      split at ends
      · next nothing =>
        obtain rfl := List.isEmpty_iff.1 nothing
        obtain rfl := Option.some.inj ends
        exact .clickAfter named bare (by simp) spells usable
      · cases ends

theorem Shapes.of_goto? (read : goto? line = some action) : Shapes line action := by
  simp only [goto?, bind, Option.bind_eq_some_iff, Prod.exists] at read
  obtain ⟨afterKeyword, begins, path, rest, inside, ends⟩ := read
  obtain ⟨bare, rfl⟩ := quoted?_eq_some_iff.1 inside
  obtain rfl := Text.dropPrefix?_eq_some_iff.1 begins
  split at ends
  · cases ends
  · next fits =>
    simp only [Bool.or_eq_true, List.isEmpty_iff, Bool.not_eq_true', not_or,
      Bool.not_eq_false] at fits
    obtain ⟨named, rfl⟩ := fits
    obtain rfl := Option.some.inj ends
    exact .goto named bare (by simp)

theorem expectation?_eq_some_iff {assertion : List Char} {within : Option Duration} :
    expectation? assertion within = some action ↔
      Text.trim assertion ≠ [] ∧ action = .expect (String.ofList (Text.trim assertion)) within := by
  simp only [expectation?]
  split
  · next nothing => simp [List.isEmpty_iff.1 nothing]
  · next solid =>
    have solid : Text.trim assertion ≠ [] := by simpa using solid
    simp [solid, eq_comm]

theorem Shapes.of_expect? (read : expect? line = some action) : Shapes line action := by
  simp only [expect?, bind, Option.bind_eq_some_iff] at read
  obtain ⟨rest, begins, ends⟩ := read
  obtain rfl := Text.dropPrefix?_eq_some_iff.1 begins
  split at ends
  · cases ends
  · next fits =>
    simp only [Bool.or_eq_true, List.isEmpty_iff, List.contains_iff_mem, not_or] at fits
    obtain ⟨filled, oneLine⟩ := fits
    have single : '\n' ∉ "Expect ".toList ++ rest := by simpa using oneLine
    split at ends
    · next lead written found =>
      have timed := (splitWait?_eq_some_iff " within".toList).1 found
      split at ends
      · next nothing =>
        obtain ⟨-, rfl⟩ := expectation?_eq_some_iff.1 ends
        refine .expect single rfl filled fun other number led again => led ?_
        have same := (splitWait?_eq_some_iff " within".toList).2 again
        have equal := Option.some.inj (same.symm.trans found)
        rw [(Prod.mk.inj equal).1, List.isEmpty_iff.1 nothing]
      · next led =>
        simp only [Option.bind_eq_some_iff] at ends
        obtain ⟨wait, usable, ends⟩ := ends
        obtain ⟨solid, rfl⟩ := expectation?_eq_some_iff.1 ends
        exact .expectWithin single rfl timed (by simpa using led) solid usable
    · next missing =>
      obtain ⟨-, rfl⟩ := expectation?_eq_some_iff.1 ends
      refine .expect single rfl filled fun lead written led timed => ?_
      have found : splitWait? " within ".toList rest = some (lead, written) :=
        (splitWait?_eq_some_iff " within".toList).2 timed
      rw [found] at missing
      cases missing

theorem Shapes.of_strict? (read : strict? line = some action) : Shapes line action := by
  simp only [strict?, Option.orElse_eq_orElse, Option.orElse_eq_or, Option.or_eq_some_iff] at read
  rcases read with enters | ⟨-, clicks | ⟨-, goes | ⟨-, expects⟩⟩⟩
  · exact .of_enter? enters
  · exact .of_click? clicks
  · exact .of_goto? goes
  · exact .of_expect? expects

/-- What follows the keyword of an expectation is not blank, since the line ends with no blank. -/
theorem trim_rest_ne_nil {rest : List Char} (filled : rest ≠ [])
    (last : ∀ char ∈ ("Expect ".toList ++ rest).getLast?, Text.isBlank char = false) :
    Text.trim rest ≠ [] := by
  intro empty
  have blank := Text.trim_eq_nil_iff.1 empty _ (List.getLast_mem filled)
  have ends : ("Expect ".toList ++ rest).getLast? = some (rest.getLast filled) := by
    rw [List.getLast?_append, List.getLast?_eq_some_getLast filled]
    rfl
  rw [last _ ends] at blank
  cases blank

theorem strict?_of_enter? (reads : enter? line = some action) : strict? line = some action := by
  simp [strict?, reads]

/-- A line that starts with the keyword of a click is read as a click or as nothing. -/
theorem strict?_click (rest : List Char) :
    strict? ("Click \"".toList ++ rest) = click? ("Click \"".toList ++ rest) := by
  have notEnter : enter? ("Click \"".toList ++ rest) = none := rfl
  have notGoto : goto? ("Click \"".toList ++ rest) = none := rfl
  have notExpect : expect? ("Click \"".toList ++ rest) = none := rfl
  simp only [strict?, notEnter, notGoto, notExpect]
  simp

/-- A line that starts with the keyword of a visit is read as a visit or as nothing. -/
theorem strict?_goto (rest : List Char) :
    strict? ("Go to \"".toList ++ rest) = goto? ("Go to \"".toList ++ rest) := by
  have notEnter : enter? ("Go to \"".toList ++ rest) = none := rfl
  have notClick : click? ("Go to \"".toList ++ rest) = none := rfl
  have notExpect : expect? ("Go to \"".toList ++ rest) = none := rfl
  simp only [strict?, notEnter, notClick, notExpect]
  simp

/-- A line that starts with the keyword of an expectation is read as one or as nothing. -/
theorem strict?_expect (rest : List Char) :
    strict? ("Expect ".toList ++ rest) = expect? ("Expect ".toList ++ rest) := by
  have notEnter : enter? ("Expect ".toList ++ rest) = none := rfl
  have notClick : click? ("Expect ".toList ++ rest) = none := rfl
  have notGoto : goto? ("Expect ".toList ++ rest) = none := rfl
  simp only [strict?, notEnter, notClick, notGoto]
  simp

/-- A line of a strict shape that ends with no blank is read as the action of the shape. -/
theorem Shapes.strict?_eq (shapes : Shapes line action)
    (last : ∀ char ∈ line.getLast?, Text.isBlank char = false) : strict? line = some action := by
  cases shapes with
  | @enter value target free named bare spelled =>
    have begins : Text.dropPrefix? "Enter \"".toList line =
        some (value ++ '"' :: (" in \"".toList ++ (target ++ '"' :: " field".toList))) :=
      Text.dropPrefix?_eq_some_iff.2 (by simp [spelled])
    apply strict?_of_enter?
    simp only [enter?, begins, bind, Option.bind_some, quoted?_eq_some_iff.2 ⟨free, rfl⟩,
      Text.dropPrefix?_eq_some_iff.2 rfl, quoted?_eq_some_iff.2 ⟨bare, rfl⟩]
    simp [named]
  | @click target named bare spelled =>
    have begun : line = "Click \"".toList ++ (target ++ ['"']) := by simp [spelled]
    rw [begun, strict?_click]
    simp only [click?, Text.dropPrefix?_eq_some_iff.2 rfl, bind, Option.bind_some,
      quoted?_eq_some_iff.2 ⟨bare, rfl⟩]
    simp [named]
  | @clickAfter target number written wait named bare spelled spells usable =>
    have begun : line = "Click \"".toList ++
        (target ++ '"' :: ([] ++ " after ".toList ++ number ++ ['s'])) := by simp [spelled]
    have timed : splitWait? " after ".toList ([] ++ " after ".toList ++ number ++ ['s']) =
        some ([], written) := (splitWait?_eq_some_iff " after".toList).2 ⟨number, spells, rfl⟩
    rw [begun, strict?_click]
    simp only [click?, Text.dropPrefix?_eq_some_iff.2 rfl, bind, Option.bind_some,
      quoted?_eq_some_iff.2 ⟨bare, rfl⟩, timed, usable]
    simp [named]
  | @goto path named bare spelled =>
    have begun : line = "Go to \"".toList ++ (path ++ ['"']) := by simp [spelled]
    rw [begun, strict?_goto]
    simp only [goto?, Text.dropPrefix?_eq_some_iff.2 rfl, bind, Option.bind_some,
      quoted?_eq_some_iff.2 ⟨bare, rfl⟩]
    simp [named]
  | @expect rest single spelled filled untimed =>
    subst spelled
    have oneLine : '\n' ∉ rest := fun broken => single (List.mem_append_right _ broken)
    have solid := trim_rest_ne_nil filled last
    have whole : expectation? rest none =
        some (.expect (String.ofList (Text.trim rest)) none) :=
      expectation?_eq_some_iff.2 ⟨solid, rfl⟩
    rw [strict?_expect]
    simp only [expect?, Text.dropPrefix?_eq_some_iff.2 rfl, bind, Option.bind_some,
      List.isEmpty_eq_false_iff.2 filled, List.contains_eq_mem, oneLine, decide_false,
      Bool.or_false, Bool.false_eq_true, if_false]
    split
    · next lead written found =>
      have timed := (splitWait?_eq_some_iff " within".toList).1 found
      have empty : lead = [] := by
        by_contra led
        exact untimed lead written led timed
      simp [empty, whole]
    · exact whole
  | @expectWithin rest lead written wait single spelled timed led solid usable =>
    subst spelled
    have oneLine : '\n' ∉ rest := fun broken => single (List.mem_append_right _ broken)
    have filled : rest ≠ [] := by
      obtain ⟨number, -, rfl⟩ := timed
      simp
    have found : splitWait? " within ".toList rest = some (lead, written) :=
      (splitWait?_eq_some_iff " within".toList).2 timed
    rw [strict?_expect]
    simp only [expect?, Text.dropPrefix?_eq_some_iff.2 rfl, bind, Option.bind_some,
      List.isEmpty_eq_false_iff.2 filled, List.contains_eq_mem, oneLine, decide_false,
      Bool.or_false, Bool.false_eq_true, if_false, found, List.isEmpty_eq_false_iff.2 led, usable]
    exact expectation?_eq_some_iff.2 ⟨solid, rfl⟩

/-- A line that ends with no blank is read strictly exactly by the strict shapes. -/
theorem strict?_eq_some_iff (last : ∀ char ∈ line.getLast?, Text.isBlank char = false) :
    strict? line = some action ↔ Shapes line action :=
  ⟨.of_strict?, fun shapes => shapes.strict?_eq last⟩

end Shapes

section Readings

variable {line : List Char}

/-- The part before a keyword and the number after it are told by the text. -/
theorem Timed.unique (begun : List Char) {rest lead other : List Char}
    {written number : WrittenSeconds}
    (timed : Timed (begun ++ [' ']) rest lead written)
    (again : Timed (begun ++ [' ']) rest other number) : lead = other ∧ written = number := by
  have left := (splitWait?_eq_some_iff begun).2 timed
  have right := (splitWait?_eq_some_iff begun).2 again
  exact Prod.mk.inj (Option.some.inj (left.symm.trans right))

/-- A text is read by the grammar of step lines, where the line is the text without the blanks. -/
structure ReadsBy (text : String) (line : List Char) : Prop where
  trimmed : Text.Trims text.toList line
  blank_iff : ofLine? text = none ↔ line = []
  strict_iff : ∀ action, ofLine? text = some ⟨action, .strict⟩ ↔ Shapes line action
  fallback_iff : ∀ action, ofLine? text = some ⟨action, .fallback⟩ ↔
    line ≠ [] ∧ (∀ strict, ¬Shapes line strict) ∧ action = .expect (String.ofList line) none
  unique : ∀ keyword ∈ [" after ".toList, " within ".toList], ∀ rest lead written other number,
    Timed keyword rest lead written → Timed keyword rest other number →
      lead = other ∧ written = number

/-- No strict shape is empty. -/
theorem Shapes.ne_nil {action : Action} (shapes : Shapes line action) : line ≠ [] := by
  rintro rfl
  have read : strict? [] = some action := shapes.strict?_eq (by simp)
  cases read

theorem ofLine?_of_strict {text : String} {action : Action} (filled : Text.trim text.toList ≠ [])
    (strict : strict? (Text.trim text.toList) = some action) :
    ofLine? text = some ⟨action, .strict⟩ := by
  simp [ofLine?, ofChars?, filled, strict]

theorem ofLine?_of_shapeless {text : String} (filled : Text.trim text.toList ≠ [])
    (strict : strict? (Text.trim text.toList) = none) :
    ofLine? text = some ⟨.expect (String.ofList (Text.trim text.toList)) none, .fallback⟩ := by
  simp [ofLine?, ofChars?, filled, strict]

/-- A wait that is too long makes the whole line an expectation. -/
example : ofLine? "Click \"Save\" after 3601s" =
    some ⟨.expect "Click \"Save\" after 3601s" none, .fallback⟩ := by
  decide +kernel

end Readings

end StepRunner.StepReading
