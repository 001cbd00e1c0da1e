import StepRunner.Json.Basic

/-!
This file reads JSON text.
`readPrefix?` reads one value at the start of a text, and `read?` reads a text that holds nothing
besides one value and white space.
A value that is only skipped may hold what no value can: a half of a surrogate pair, a number out
of range, or arrays and objects that nest too deep.
-/

namespace StepRunner.Json

/-- White space between the tokens of JSON. -/
def isSpace (char : Char) : Bool :=
  char == ' ' || char == '\t' || char == '\n' || char == '\r'

/-- The value of a hexadecimal digit. -/
def hexValue? (char : Char) : Option Nat :=
  if '0' ≤ char ∧ char ≤ '9' then some (char.toNat - 48)
  else if 'a' ≤ char ∧ char ≤ 'f' then some (char.toNat - 87)
  else if 'A' ≤ char ∧ char ≤ 'F' then some (char.toNat - 55)
  else none

/-- The number of four hexadecimal digits. -/
def hexUnit? (first second third fourth : Char) : Option Nat := do
  let first ← hexValue? first
  let second ← hexValue? second
  let third ← hexValue? third
  let fourth ← hexValue? fourth
  return ((first * 16 + second) * 16 + third) * 16 + fourth

/-- The character of an escape with one letter. -/
def shortEscape? (char : Char) : Option Char :=
  match char with
  | '"' => some '"'
  | '\\' => some '\\'
  | '/' => some '/'
  | 'b' => some '\x08'
  | 'f' => some '\x0c'
  | 'n' => some '\n'
  | 'r' => some '\r'
  | 't' => some '\t'
  | _ => none

/-- A unit in the first half of the surrogates starts a pair. -/
def isHighUnit (unit : Nat) : Bool := 0xD800 ≤ unit && unit < 0xDC00

/-- A unit in the second half of the surrogates ends a pair. -/
def isLowUnit (unit : Nat) : Bool := 0xDC00 ≤ unit && unit < 0xE000

/-- The character of a surrogate pair. -/
def pairChar (high low : Nat) : Char :=
  Char.ofNat (0x10000 + (high - 0xD800) * 0x400 + (low - 0xDC00))

/-- Puts a character in front of the characters read so far. -/
def readChar (char : Char) (read : Option (List Char × List Char)) :
    Option (List Char × List Char) :=
  read.map fun (chars, rest) => (char :: chars, rest)

/--
Reads the characters of a string after its opening quote, up to the closing quote.
Control characters are refused, and so is a surrogate without its partner in a kept string.
-/
def readString? (kept : Bool) : List Char → Option (List Char × List Char)
  | [] => none
  | '"' :: rest => some ([], rest)
  | '\\' :: 'u' :: a :: b :: c :: d :: rest =>
    match hexUnit? a b c d with
    | none => none
    | some unit =>
      if kept && isHighUnit unit then
        match rest with
        | '\\' :: 'u' :: e :: f :: g :: h :: rest =>
          match hexUnit? e f g h with
          | none => none
          | some low =>
            if isLowUnit low then readChar (pairChar unit low) (readString? kept rest) else none
        | _ => none
      else if kept && isLowUnit unit then none
      else readChar (Char.ofNat unit) (readString? kept rest)
  | '\\' :: letter :: rest =>
    match shortEscape? letter with
    | none => none
    | some char => readChar char (readString? kept rest)
  | char :: rest => if char.toNat < 0x20 then none else readChar char (readString? kept rest)

/-- The optional exponent of a number; a sign or a digit has to follow the letter. -/
def readExponent? (text : List Char) : Option (Option Int × List Char) :=
  match text with
  | letter :: rest =>
    if letter = 'e' ∨ letter = 'E' then
      let (negative, rest) :=
        match rest with
        | '-' :: rest => (true, rest)
        | '+' :: rest => (false, rest)
        | rest => (false, rest)
      let (digits, rest) := Text.spanWhile Char.isDigit rest
      if digits.isEmpty then none
      else
        let value : Int := Text.decimalValue digits
        some (some (if negative then -value else value), rest)
    else some (none, text)
  | [] => some (none, [])

/-- The optional fraction of a number; a digit has to follow the point. -/
def readFraction? (text : List Char) : Option (Option (List Char) × List Char) :=
  match text with
  | '.' :: rest =>
    let (digits, rest) := Text.spanWhile Char.isDigit rest
    if digits.isEmpty then none else some (some digits, rest)
  | rest => some (none, rest)

/-- A real number is refused when it is too large for binary64. -/
def realInRange (digits : Nat) (count : Nat) (exponent : Int) : Bool :=
  if digits = 0 then true
  else if exponent < 0 then true
  else if 400 < exponent + count then false
  else decide (digits * Nat.pow 10 exponent.toNat < Nat.pow 2 1024 - Nat.pow 2 970)

/-- A number from its parts, whole only without fraction and exponent and within 64 bits. -/
def number? (kept negative : Bool) (digits : List Char) (fraction : Option (List Char))
    (exponent : Option Int) : Option Json :=
  let value := Text.decimalValue digits
  match fraction, exponent with
  | none, none =>
    if negative then
      if value = 0 then some (real 0 0)
      else if value ≤ Nat.pow 2 63 then some (whole (-(value : Int)))
      else if !kept || realInRange value digits.length 0 then some (real (-(value : Int)) 0)
      else none
    else if value < Nat.pow 2 64 then some (whole value)
    else if !kept || realInRange value digits.length 0 then some (real value 0)
    else none
  | fraction, exponent =>
    let places := fraction.getD []
    let mantissa := Text.decimalValue (digits ++ places)
    let shift : Int := exponent.getD 0 - places.length
    if !kept || realInRange mantissa (digits ++ places).length shift then
      some (real (if negative then -(mantissa : Int) else mantissa) shift)
    else none

/-- Reads a number; its first digit is zero only when it is the only digit before the point. -/
def readNumber? (kept : Bool) (text : List Char) : Option (Json × List Char) :=
  let (negative, unsigned) :=
    match text with
    | '-' :: rest => (true, rest)
    | rest => (false, rest)
  let (digits, rest) :=
    match unsigned with
    | '0' :: rest => (['0'], rest)
    | rest => Text.spanWhile Char.isDigit rest
  if digits.isEmpty then none
  else
    match unsigned, rest with
    | '0' :: _, next :: _ => if next.isDigit then none else tail negative digits rest
    | _, _ => tail negative digits rest
where
  /-- Reads the fraction and the exponent after the first digits. -/
  tail (negative : Bool) (digits rest : List Char) : Option (Json × List Char) := do
    let (fraction, rest) ← readFraction? rest
    let (exponent, rest) ← readExponent? rest
    let value ← number? kept negative digits fraction exponent
    return (value, rest)

mutual

/-- Reads one value; arrays and objects nest at most as deep as `depth` allows. -/
def readValue? (kept : Bool) (depth : Nat) : Nat → List Char → Option (Json × List Char)
  | 0, _ => none
  | fuel + 1, text =>
    match text.dropWhile isSpace with
    | 'n' :: 'u' :: 'l' :: 'l' :: rest => some (null, rest)
    | 't' :: 'r' :: 'u' :: 'e' :: rest => some (bool true, rest)
    | 'f' :: 'a' :: 'l' :: 's' :: 'e' :: rest => some (bool false, rest)
    | '"' :: rest =>
      (readString? kept rest).map fun (chars, rest) => (str (String.ofList chars), rest)
    | '[' :: rest =>
      if depth ≤ 1 then none
      else
        match rest.dropWhile isSpace with
        | ']' :: rest => some (arr [], rest)
        | rest =>
          (readItems? kept (depth - 1) fuel rest).map fun (items, rest) => (arr items, rest)
    | '\x7b' :: rest =>
      if depth ≤ 1 then none
      else
        match rest.dropWhile isSpace with
        | '\x7d' :: rest => some (obj [], rest)
        | rest =>
          (readMembers? kept (depth - 1) fuel rest).map fun (members, rest) => (obj members, rest)
    | rest => readNumber? kept rest

/-- Reads the items of an array and its closing bracket. -/
def readItems? (kept : Bool) (depth : Nat) : Nat → List Char → Option (List Json × List Char)
  | 0, _ => none
  | fuel + 1, text =>
    match readValue? kept depth fuel text with
    | none => none
    | some (item, rest) =>
      match rest.dropWhile isSpace with
      | ',' :: rest =>
        (readItems? kept depth fuel rest).map fun (items, rest) => (item :: items, rest)
      | ']' :: rest => some ([item], rest)
      | _ => none

/-- Reads the members of an object and its closing brace. -/
def readMembers? (kept : Bool) (depth : Nat) :
    Nat → List Char → Option (List (String × Json) × List Char)
  | 0, _ => none
  | fuel + 1, text =>
    match text.dropWhile isSpace with
    | '"' :: rest =>
      match readString? kept rest with
      | none => none
      | some (name, rest) =>
        match rest.dropWhile isSpace with
        | ':' :: rest =>
          match readValue? kept depth fuel rest with
          | none => none
          | some (value, rest) =>
            let member := (String.ofList name, value)
            match rest.dropWhile isSpace with
            | ',' :: rest =>
              (readMembers? kept depth fuel rest).map fun (members, rest) =>
                (member :: members, rest)
            | '\x7d' :: rest => some ([member], rest)
            | _ => none
        | _ => none
    | _ => none

end

/-- How deep arrays and objects may nest. -/
def depthLimit : Nat := 128

/-- Reads one value at the start of a text and gives the rest of the text. -/
def readPrefix? (text : List Char) : Option (Json × List Char) :=
  readValue? true depthLimit (2 * text.length + 2) text

/-- Skips one value at the start of a text. -/
def skip? (text : List Char) : Option (List Char) :=
  (readValue? false (text.length + 2) (2 * text.length + 2) text).map Prod.snd

/-- Reads a text that holds one value and white space around it. -/
def readChars? (text : List Char) : Option Json :=
  match readPrefix? text with
  | some (value, rest) => if rest.all isSpace then some value else none
  | none => none

/-- Reads a string that holds one value and white space around it. -/
def read? (text : String) : Option Json :=
  readChars? text.toList

end StepRunner.Json
