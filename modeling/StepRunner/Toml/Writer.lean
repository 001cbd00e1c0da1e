import StepRunner.Toml.Text

/-!
This file writes strings for TOML.
A plain string stands between double quotes, a string with double quotes or backslashes between
single quotes, and a string of several lines between three quotes.
-/

namespace StepRunner.Toml

/-- What decides about the quotes of a string. -/
structure Traits where
  /-- The length of the longest run of single quotes. -/
  singles : Nat
  /-- The length of the longest run of double quotes. -/
  doubles : Nat
  hasControl : Bool
  hasBackslash : Bool
  hasNewline : Bool
  deriving DecidableEq, Repr

/-- The length of the longest run of a character, counting a run that is already open. -/
def longestRun (char : Char) (opened : Nat) : List Char → Nat
  | [] => opened
  | first :: rest =>
    if first = char then longestRun char (opened + 1) rest
    else max opened (longestRun char 0 rest)

/-- The traits of a text. -/
def Traits.of (text : List Char) : Traits :=
  { singles := longestRun '\'' 0 text
    doubles := longestRun '"' 0 text
    hasControl := text.any fun char => isControl char && char != '\n'
    hasBackslash := text.contains '\\'
    hasNewline := text.contains '\n' }

/-- The four ways to quote a string. -/
inductive Quoting where
  | basic
  | literal
  | basicLines
  | literalLines
  deriving DecidableEq, Repr

/-- The first way to quote a text that needs no escapes, or else a way with escapes. -/
def Quoting.choose (traits : Traits) : Quoting :=
  let plain := !traits.hasControl && !traits.hasBackslash
  if plain && traits.doubles = 0 && !traits.hasNewline then basic
  else if !traits.hasControl && traits.singles = 0 && !traits.hasNewline then literal
  else if plain && traits.doubles ≤ 2 then basicLines
  else if !traits.hasControl && traits.singles ≤ 2 then literalLines
  else if traits.hasNewline then basicLines
  else basic

/-- The capital digit of a number below sixteen. -/
def capitalDigit (value : Nat) : Char := (Json.hexDigit value).toUpper

/-- A character as it stands in a string with escapes, besides a double quote. -/
def escapeChar (severalLines : Bool) (char : Char) : List Char :=
  if char = '\x08' then ['\\', 'b']
  else if char = '\t' then ['\\', 't']
  else if char = '\n' then if severalLines then ['\n'] else ['\\', 'n']
  else if char = '\x0c' then ['\\', 'f']
  else if char = '\r' then ['\\', 'r']
  else if char = '\\' then ['\\', '\\']
  else if isControl char then
    ['\\', 'u', '0', '0', capitalDigit (char.toNat / 16), capitalDigit (char.toNat % 16)]
  else [char]

/--
Escapes a text.
Of a run of double quotes at most two stay as they are, and only in a string of several lines.
-/
def escapeText (severalLines : Bool) (opened : Nat) : List Char → List Char
  | [] => []
  | '"' :: rest =>
    if severalLines ∧ opened < 2 then '"' :: escapeText severalLines (opened + 1) rest
    else '\\' :: '"' :: escapeText severalLines 0 rest
  | char :: rest => escapeChar severalLines char ++ escapeText severalLines 0 rest

/-- Writes a string with its quotes. -/
def writeString (text : String) : List Char :=
  let chars := text.toList
  let traits := Traits.of chars
  let opening := if traits.hasNewline then ['\n'] else []
  match Quoting.choose traits with
  | .basic => '"' :: escapeText false 0 chars ++ ['"']
  | .literal => '\'' :: chars ++ ['\'']
  | .basicLines =>
    ['"', '"', '"'] ++ opening ++ escapeText true 0 chars ++ ['"', '"', '"']
  | .literalLines => ['\'', '\'', '\''] ++ opening ++ chars ++ ['\'', '\'', '\'']

end StepRunner.Toml
