/-!
This file trims white space from step text and cuts a script into lines.
-/

namespace StepRunner.Text

/-- A character is blank when Unicode gives it the property White_Space. -/
def isBlank (char : Char) : Bool :=
  let code := char.toNat
  (9 ≤ code && code ≤ 13) || code == 0x20 || code == 0x85 || code == 0xA0 || code == 0x1680 ||
    (0x2000 ≤ code && code ≤ 0x200A) || code == 0x2028 || code == 0x2029 || code == 0x202F ||
    code == 0x205F || code == 0x3000

theorem isBlank_of_isWhitespace (char : Char) (white : char.isWhitespace) : isBlank char := by
  simp only [Char.isWhitespace, Bool.or_eq_true, decide_eq_true_eq] at white
  rcases white with ((rfl | rfl) | rfl) | rfl <;> decide

/-- Drops the trailing characters that satisfy a test. -/
def dropRight (test : Char → Bool) (text : List Char) : List Char :=
  (text.reverse.dropWhile test).reverse

/-- Drops the leading and the trailing characters that satisfy a test. -/
def dropBoth (test : Char → Bool) (text : List Char) : List Char :=
  dropRight test (text.dropWhile test)

/-- The text without the blanks on either side. -/
def trim (text : List Char) : List Char :=
  dropBoth isBlank text

/-- The string without the blanks on either side. -/
def trimmed (text : String) : String :=
  String.ofList (trim text.toList)

/-- Splits a text at every occurrence of one character. -/
def splitAt (separator : Char) : List Char → List (List Char)
  | [] => [[]]
  | char :: rest =>
    if char = separator then
      [] :: splitAt separator rest
    else
      match splitAt separator rest with
      | [] => [[char]]
      | first :: others => (char :: first) :: others

/-- A line that ends in a carriage return and a line feed loses both. -/
def dropReturn (line : List Char) : List Char :=
  if line.getLast? = some '\r' then line.dropLast else line

/--
The lines of a text.
A line feed ends a line, a carriage return just before it belongs to the ending,
and the text after the last line feed is a line only when it is not empty.
-/
def lines (text : List Char) : List (List Char) :=
  let pieces := splitAt '\n' text
  let ended := pieces.dropLast.map dropReturn
  match pieces.getLast? with
  | some [] | none => ended
  | some last => ended ++ [last]

/-- The text put in front of another text, when the other text starts with it. -/
def dropPrefix? : List Char → List Char → Option (List Char)
  | [], text => some text
  | _ :: _, [] => none
  | expected :: others, char :: rest =>
    if expected = char then dropPrefix? others rest else none

theorem dropPrefix?_eq_some_iff {lead text rest : List Char} :
    dropPrefix? lead text = some rest ↔ text = lead ++ rest := by
  induction lead generalizing text with
  | nil => simp [dropPrefix?, eq_comm]
  | cons expected others inductionHypothesis =>
    cases text with
    | nil => simp [dropPrefix?]
    | cons char tail =>
      by_cases same : expected = char
      · simp [dropPrefix?, same, inductionHypothesis]
      · simp [dropPrefix?, same, eq_comm]

/-- A text occurs within another text. -/
def contains (part : List Char) : List Char → Bool
  | [] => part.isEmpty
  | char :: rest => (dropPrefix? part (char :: rest)).isSome || contains part rest

/-- The text before an ending, when the text ends with it. -/
def dropSuffix? (ending text : List Char) : Option (List Char) :=
  (dropPrefix? ending.reverse text.reverse).map List.reverse

theorem dropSuffix?_eq_some_iff {ending text rest : List Char} :
    dropSuffix? ending text = some rest ↔ text = rest ++ ending := by
  simp only [dropSuffix?, Option.map_eq_some_iff, dropPrefix?_eq_some_iff]
  constructor
  · rintro ⟨middle, reversed, rfl⟩
    have restored := congrArg List.reverse reversed
    simpa using restored
  · rintro rfl
    exact ⟨rest.reverse, by simp, by simp⟩

end StepRunner.Text
