import StepRunner.Toml.Basic
import StepRunner.Toml.Text
import StepRunner.Text.Blank

/-!
This file reads the numbers, truth values, dates and times of TOML.
Such a value is a run of letters, digits, signs, points and colons, which is judged as a whole.
-/

namespace StepRunner.Toml

/-- A character that can stand in a value without quotes or brackets. -/
def isScalarChar (char : Char) : Bool :=
  char.isAlphanum || char == '+' || char == '-' || char == '_' || char == '.' || char == ':'

/-- The digits of a group, in which single underscores may stand between digits. -/
def digits? (test : Char → Bool) (text : List Char) : Option (List Char) :=
  let groups := Text.splitAt '_' text
  if groups.all fun group => !group.isEmpty && group.all test then some groups.flatten else none

/-- Splits an optional sign from a text; the flag tells whether it is a minus. -/
def splitSign : List Char → Bool × List Char
  | '-' :: rest => (true, rest)
  | '+' :: rest => (false, rest)
  | rest => (false, rest)

/-- The digits of a decimal number, which starts with zero only when it is zero. -/
def decimal? (text : List Char) : Option (List Char) := do
  let digits ← digits? Char.isDigit text
  if digits.head? = some '0' ∧ digits ≠ ['0'] then none else return digits

/-- A whole number that fits 64 bits with sign. -/
def inRange? (negative : Bool) (value : Nat) : Option Int :=
  if negative then if value ≤ Nat.pow 2 63 then some (-(value : Int)) else none
  else if value < Nat.pow 2 63 then some value else none

/-- The number that digits write in a base. -/
def valueIn (base : Nat) (digits : List Char) : Nat :=
  digits.foldl (fun value digit => base * value + (Json.hexValue? digit).getD 0) 0

/-- A digit of a base. -/
def isDigitOf (base : Nat) (char : Char) : Bool :=
  match Json.hexValue? char with
  | some value => value < base
  | none => false

/-- Reads a whole number in a base other than ten, after its prefix. -/
def based? (base : Nat) (text : List Char) : Option Int := do
  let digits ← digits? (isDigitOf base) text
  inRange? false (valueIn base digits)

/-- Reads a whole number. -/
def integer? : List Char → Option Int
  | '0' :: 'x' :: rest => based? 16 rest
  | '0' :: 'o' :: rest => based? 8 rest
  | '0' :: 'b' :: rest => based? 2 rest
  | text => do
    let (negative, rest) := splitSign text
    let digits ← decimal? rest
    inRange? negative (Text.decimalValue digits)

/-- The exponent after its letter. -/
def exponent? (text : List Char) : Option Int := do
  let (negative, rest) := splitSign text
  let digits ← digits? Char.isDigit rest
  let value : Int := Text.decimalValue digits
  return if negative then -value else value

/-- Splits a text at the first character that satisfies a test, which goes to neither part. -/
def splitFirst? (test : Char → Bool) (text : List Char) : Option (List Char × List Char) :=
  match text.dropWhile fun char => !test char with
  | [] => none
  | _ :: rest => some (text.takeWhile fun char => !test char, rest)

/--
A text is a real number when it has a fraction or an exponent.
A positive number that is too large for binary64 is refused.
-/
def isFloat (text : List Char) : Bool :=
  let (negative, rest) := splitSign text
  if rest = "inf".toList ∨ rest = "nan".toList then true
  else
    let (mantissa, exponent) :=
      match splitFirst? (fun char => char == 'e' || char == 'E') rest with
      | some (mantissa, exponent) => (mantissa, some exponent)
      | none => (rest, none)
    let (whole, fraction) :=
      match splitFirst? (· == '.') mantissa with
      | some (whole, fraction) => (whole, some fraction)
      | none => (mantissa, none)
    let value? : Option Bool := do
      if exponent.isNone && fraction.isNone then none
      else
        let whole ← decimal? whole
        let places ← match fraction with
          | some fraction => digits? Char.isDigit fraction
          | none => some []
        let shift ← match exponent with
          | some exponent => exponent? exponent
          | none => some 0
        let digits := whole ++ places
        return negative ||
          Json.realInRange (Text.decimalValue digits) digits.length (shift - places.length)
    value?.getD false

/-- The number that exactly so many digits write. -/
def fixed? (count : Nat) (text : List Char) : Option Nat :=
  if text.length = count ∧ text.all Char.isDigit then some (Text.decimalValue text) else none

/-- The number of days of a month. -/
def daysOf (year month : Nat) : Nat :=
  if month = 2 then
    if year % 4 = 0 ∧ (year % 100 ≠ 0 ∨ year % 400 = 0) then 29 else 28
  else if month = 4 ∨ month = 6 ∨ month = 9 ∨ month = 11 then 30
  else 31

/-- A date is a year, a month and a day of that month. -/
def isDate (text : List Char) : Bool :=
  match Text.splitAt '-' text with
  | [year, month, day] =>
    match fixed? 4 year, fixed? 2 month, fixed? 2 day with
    | some year, some month, some day =>
      1 ≤ month && month ≤ 12 && 1 ≤ day && day ≤ daysOf year month
    | _, _, _ => false
  | _ => false

/-- Two digits below a limit. -/
def isBelow (limit : Nat) (text : List Char) : Bool :=
  match fixed? 2 text with
  | some value => value < limit
  | none => false

/-- A time of day has hours, minutes and seconds; a fraction of a second may follow. -/
def isTime (text : List Char) : Bool :=
  let (clock, fraction) :=
    match splitFirst? (· == '.') text with
    | some (clock, fraction) => (clock, some fraction)
    | none => (text, none)
  let whole :=
    match Text.splitAt ':' clock with
    | [hour, minute, second] => isBelow 24 hour && isBelow 60 minute && isBelow 61 second
    | _ => false
  let places :=
    match fraction with
    | some digits => !digits.isEmpty && digits.all Char.isDigit
    | none => true
  whole && places

/-- The distance of a time from universal time: a letter, or hours and minutes with a sign. -/
def isOffset : List Char → Bool
  | ['Z'] => true
  | ['z'] => true
  | sign :: rest =>
    (sign == '+' || sign == '-') &&
      match Text.splitAt ':' rest with
      | [hour, minute] => isBelow 24 hour && isBelow 60 minute
      | _ => false
  | [] => false

/-- A time of day with an optional offset. -/
def isZonedTime (text : List Char) : Bool :=
  let (time, offset) := Text.spanWhile (fun char => char.isDigit || char == ':' || char == '.') text
  isTime time && (offset.isEmpty || isOffset offset)

/-- A date, a time, or a date followed by a separator and a time. -/
def isMoment (text : List Char) : Bool :=
  isDate text || isTime text ||
    match text.drop 10 with
    | separator :: time =>
      isDate (text.take 10) && (separator == 'T' || separator == 't' || separator == ' ') &&
        isZonedTime time
    | [] => false

/-- Judges a run of characters as a value. -/
def scalar? (text : List Char) : Option Toml :=
  if text = "true".toList then some (.boolean true)
  else if text = "false".toList then some (.boolean false)
  else if isMoment text then some (.moment (String.ofList text))
  else if isFloat text then some (.float (String.ofList text))
  else (integer? text).map .integer

/-- Reads a value without quotes or brackets; a date and a time may have one space between them. -/
def readScalar? (text : List Char) : Option (Toml × List Char) :=
  let (first, rest) := Text.spanWhile isScalarChar text
  let (run, rest) :=
    match rest with
    | ' ' :: digit :: others =>
      if isDate first ∧ digit.isDigit then
        let (time, rest) := Text.spanWhile isScalarChar (digit :: others)
        (first ++ ' ' :: time, rest)
      else (first, rest)
    | _ => (first, rest)
  (scalar? run).map fun value => (value, rest)

end StepRunner.Toml
