import StepRunner.Text.Digit

/-!
This file defines JSON values and writes them as text.
-/

namespace StepRunner

/--
A JSON value.
A number without fraction and exponent that fits 64 bits is whole; every other number is real
and stands for `mantissa * 10 ^ exponent`.
An object keeps its members in the order of the text.
-/
inductive Json where
  | null
  | bool (value : Bool)
  | whole (value : Int)
  | real (mantissa : Int) (exponent : Int)
  | str (value : String)
  | arr (items : List Json)
  | obj (members : List (String × Json))
  deriving Inhabited, Repr

namespace Json

/-- The digit of a number below sixteen. -/
def hexDigit (value : Nat) : Char :=
  if value < 10 then Char.ofNat (48 + value) else Char.ofNat (87 + value)

/-- Characters below the space and the two marks of the format are escaped. -/
def escape (char : Char) : List Char :=
  if char = '"' then ['\\', '"']
  else if char = '\\' then ['\\', '\\']
  else if char = '\x08' then ['\\', 'b']
  else if char = '\x0c' then ['\\', 'f']
  else if char = '\n' then ['\\', 'n']
  else if char = '\r' then ['\\', 'r']
  else if char = '\t' then ['\\', 't']
  else if char.toNat < 0x20 then
    ['\\', 'u', '0', '0', hexDigit (char.toNat / 16), hexDigit (char.toNat % 16)]
  else [char]

/-- Writes a string between quotes. -/
def quote (text : String) : List Char :=
  '"' :: text.toList.flatMap escape ++ ['"']

/-- Writes an integer in base ten. -/
def writeInt (value : Int) : List Char :=
  if value < 0 then '-' :: Text.decimalDigits value.natAbs else Text.decimalDigits value.natAbs

mutual

/-- Writes a value without any space. -/
def compact : Json → List Char
  | null => ['n', 'u', 'l', 'l']
  | bool true => ['t', 'r', 'u', 'e']
  | bool false => ['f', 'a', 'l', 's', 'e']
  | whole value => writeInt value
  | real mantissa exponent => writeInt mantissa ++ 'e' :: writeInt exponent
  | str value => quote value
  | arr [] => ['[', ']']
  | arr (item :: items) => '[' :: compact item ++ compactItems items
  | obj [] => ['\x7b', '\x7d']
  | obj ((name, value) :: members) =>
    '\x7b' :: quote name ++ ':' :: compact value ++ compactMembers members

/-- Writes the items after the first and closes the array. -/
def compactItems : List Json → List Char
  | [] => [']']
  | item :: items => ',' :: compact item ++ compactItems items

/-- Writes the members after the first and closes the object. -/
def compactMembers : List (String × Json) → List Char
  | [] => ['\x7d']
  | (name, value) :: members => ',' :: quote name ++ ':' :: compact value ++ compactMembers members

end

/-- A line break followed by two spaces for each level of nesting. -/
def lineBreak (level : Nat) : List Char :=
  '\n' :: List.replicate (2 * level) ' '

mutual

/-- Writes a value over several lines, two spaces deeper at each level. -/
def pretty (level : Nat) : Json → List Char
  | arr (item :: items) =>
    '[' :: lineBreak (level + 1) ++ pretty (level + 1) item ++ prettyItems level items
  | obj ((name, value) :: members) =>
    '\x7b' :: lineBreak (level + 1) ++ quote name ++ ':' :: ' ' :: pretty (level + 1) value ++
      prettyMembers level members
  | null => compact null
  | bool value => compact (bool value)
  | whole value => compact (whole value)
  | real mantissa exponent => compact (real mantissa exponent)
  | str value => compact (str value)
  | arr [] => compact (arr [])
  | obj [] => compact (obj [])

/-- Writes the items after the first on lines of their own and closes the array. -/
def prettyItems (level : Nat) : List Json → List Char
  | [] => lineBreak level ++ [']']
  | item :: items =>
    ',' :: lineBreak (level + 1) ++ pretty (level + 1) item ++ prettyItems level items

/-- Writes the members after the first on lines of their own and closes the object. -/
def prettyMembers (level : Nat) : List (String × Json) → List Char
  | [] => lineBreak level ++ ['\x7d']
  | (name, value) :: members =>
    ',' :: lineBreak (level + 1) ++ quote name ++ ':' :: ' ' :: pretty (level + 1) value ++
      prettyMembers level members

end

mutual

/-- Changes every string and every whole number in a value; names of members stay. -/
def mapStrings (rule : String → String) (number : Int → Json) : Json → Json
  | str value => str (rule value)
  | whole value => number value
  | arr items => arr (mapItems rule number items)
  | obj members => obj (mapMembers rule number members)
  | null => null
  | bool value => bool value
  | real mantissa exponent => real mantissa exponent

/-- Changes every string and every whole number in the items of an array. -/
def mapItems (rule : String → String) (number : Int → Json) : List Json → List Json
  | [] => []
  | item :: items => mapStrings rule number item :: mapItems rule number items

/-- Changes every string and every whole number in the members of an object. -/
def mapMembers (rule : String → String) (number : Int → Json) :
    List (String × Json) → List (String × Json)
  | [] => []
  | (name, value) :: members =>
    (name, mapStrings rule number value) :: mapMembers rule number members

end

/-- The text of a value on one line. -/
def text (value : Json) : String :=
  String.ofList value.compact

/-- The text of a value over several lines. -/
def prettyText (value : Json) : String :=
  String.ofList (value.pretty 0)

/-- A string, or null when there is none. -/
def ofOption (value : Option String) : Json :=
  match value with
  | some text => str text
  | none => null

/-- An integer, or null when there is none. -/
def ofOptionInt (value : Option Int) : Json :=
  match value with
  | some number => whole number
  | none => null

end Json

end StepRunner
