import StepRunner.Text.Digit

/-!
This file reads the address at which the service listens: a host by number, and a port.
Every reader takes what it needs from the start of a text and gives the rest.
-/

namespace StepRunner.Service

/-- The number of a machine in a network. -/
inductive Host where
  /-- Four bytes. -/
  | four (bytes : List Nat)
  /-- Eight groups of two bytes, and a zone. -/
  | six (groups : List Nat) (zone : Nat)
  deriving DecidableEq, Repr

/-- Where the service listens. -/
structure Endpoint where
  host : Host
  port : Nat
  deriving DecidableEq, Repr

namespace Endpoint

/-- The value of a digit in a base of at most sixteen. -/
def digit? (base : Nat) (char : Char) : Option Nat :=
  let value? :=
    if char.isDigit then some (Text.digitValue char)
    else if 'a' ≤ char ∧ char ≤ 'f' then some (char.toNat - 'a'.toNat + 10)
    else if 'A' ≤ char ∧ char ≤ 'F' then some (char.toNat - 'A'.toNat + 10)
    else none
  value?.filter (· < base)

/-- How a number is written in an address. -/
structure Numeral where
  base : Nat
  /-- The most digits, if there is such a bound. -/
  most : Option Nat
  /-- A number of several digits may start with a zero. -/
  padded : Bool
  /-- All numbers are smaller. -/
  bound : Nat

/-- A byte of a host. -/
def byte : Numeral := ⟨10, some 3, false, Nat.pow 2 8⟩

/-- A group of two bytes of a host. -/
def group : Numeral := ⟨16, some 4, true, Nat.pow 2 16⟩

/-- A port. -/
def portNumber : Numeral := ⟨10, none, true, Nat.pow 2 16⟩

/-- A zone. -/
def zoneNumber : Numeral := ⟨10, none, true, Nat.pow 2 32⟩

/-- Digits are a number when there are neither too few nor too many of them. -/
def Numeral.allows (numeral : Numeral) (digits : List Char) : Bool :=
  !digits.isEmpty && numeral.most.all (digits.length ≤ ·) &&
    (numeral.padded || digits.length = 1 || digits.head? ≠ some '0')

/-- The value of digits. -/
def Numeral.value (numeral : Numeral) (digits : List Char) : Nat :=
  digits.foldl (fun value char => numeral.base * value + (digit? numeral.base char).getD 0) 0

/-- Reads a number. -/
def Numeral.read? (numeral : Numeral) (text : List Char) : Option (Nat × List Char) :=
  let (digits, rest) := Text.spanWhile (fun char => (digit? numeral.base char).isSome) text
  if numeral.allows digits && numeral.value digits < numeral.bound then
    some (numeral.value digits, rest)
  else none

/-- Reads one character. -/
def skip? (char : Char) (text : List Char) : Option (List Char) :=
  match text with
  | first :: rest => if first = char then some rest else none
  | [] => none

/-- Reads four bytes with points between them. -/
def readBytes? (text : List Char) : Option (List Nat × List Char) := do
  let (first, text) ← byte.read? text
  let (second, text) ← byte.read? (← skip? '.' text)
  let (third, text) ← byte.read? (← skip? '.' text)
  let (fourth, text) ← byte.read? (← skip? '.' text)
  return ([first, second, third, fourth], text)

/-- Reads a colon, unless this is the first group. -/
def readColon? (isFirst : Bool) (text : List Char) : Option (List Char) :=
  if isFirst then some text else skip? ':' text

/-- Two groups that are written as four bytes. -/
def readPairOfGroups? (isFirst : Bool) (text : List Char) : Option (List Nat × List Char) := do
  match ← readBytes? (← readColon? isFirst text) with
  | ([first, second, third, fourth], rest) =>
    return ([first * 256 + second, third * 256 + fourth], rest)
  | _ => none

/--
Reads groups with colons between them, up to a number of groups.
Four bytes may stand for the last two groups; the answer tells whether they do.
-/
def readGroups (isFirst : Bool) : Nat → List Char → List Nat × Bool × List Char
  | 0, text => ([], false, text)
  | room + 1, text =>
    match (if room = 0 then none else readPairOfGroups? isFirst text) with
    | some (pair, rest) => (pair, true, rest)
    | none =>
      match (readColon? isFirst text).bind group.read? with
      | none => ([], false, text)
      | some (value, rest) =>
        let (values, mixed, rest) := readGroups false room rest
        (value :: values, mixed, rest)

/-- Reads eight groups, some of which may be left out as zeros at a double colon. -/
def readEightGroups? (text : List Char) : Option (List Nat × List Char) :=
  let (front, mixed, rest) := readGroups true 8 text
  if front.length = 8 then some (front, rest)
  else if mixed then none
  else do
    let rest ← skip? ':' (← skip? ':' rest)
    let (back, _, rest) := readGroups true (7 - front.length) rest
    return (front ++ List.replicate (8 - front.length - back.length) 0 ++ back, rest)

/-- Reads a zone after a percent sign. -/
def readZone? (text : List Char) : Option (Nat × List Char) :=
  match text with
  | '%' :: rest => zoneNumber.read? rest
  | text => some (0, text)

/-- Reads a port after a colon, which ends the text. -/
def readPort? (text : List Char) : Option Nat := do
  match ← portNumber.read? (← skip? ':' text) with
  | (port, []) => return port
  | _ => none

/-- Reads an address with four bytes. -/
def ofFour? (text : List Char) : Option Endpoint := do
  let (bytes, rest) ← readBytes? text
  return ⟨.four bytes, ← readPort? rest⟩

/-- Reads an address with eight groups, which stand between brackets. -/
def ofSix? (text : List Char) : Option Endpoint := do
  let (groups, rest) ← readEightGroups? (← skip? '[' text)
  let (zone, rest) ← readZone? rest
  return ⟨.six groups zone, ← readPort? (← skip? ']' rest)⟩

/-- Reads an address. -/
def ofText? (text : String) : Option Endpoint :=
  ofFour? text.toList <|> ofSix? text.toList

/-- What is wrong with a text that is no address. -/
def faultMessage : String := "invalid socket address syntax"

end Endpoint

end StepRunner.Service
