/-!
This file writes bytes in base64 with padding and reads them back.
-/

namespace StepRunner.Base64

/-- The characters for the numbers below sixty-four. -/
def alphabet : List Char :=
  "ABCDEFGHIJKLMNOPQRSTUVWXYZabcdefghijklmnopqrstuvwxyz0123456789+/".toList

/-- The character for a number below sixty-four. -/
def digit (value : Nat) : Char :=
  alphabet.getD value 'A'

/-- The number of a character. -/
def value? (char : Char) : Option Nat :=
  alphabet.findIdx? (· = char)

/-- Writes three bytes as four characters, and a shorter rest with padding. -/
def encode : List UInt8 → List Char
  | [] => []
  | [a] =>
    let word := a.toNat * 16
    [digit (word / 64), digit (word % 64), '=', '=']
  | [a, b] =>
    let word := (a.toNat * 256 + b.toNat) * 4
    [digit (word / 4096), digit (word / 64 % 64), digit (word % 64), '=']
  | a :: b :: c :: rest =>
    let word := (a.toNat * 256 + b.toNat) * 256 + c.toNat
    digit (word / 262144) :: digit (word / 4096 % 64) :: digit (word / 64 % 64) ::
      digit (word % 64) :: encode rest

/--
Reads groups of four characters.
Only the last group may have padding, and the bits that padding leaves over must be zero.
-/
def decode? : List Char → Option (List UInt8)
  | [] => some []
  | [a, b, '=', '='] => do
    let a ← value? a
    let b ← value? b
    if b % 16 ≠ 0 then none else return [UInt8.ofNat (a * 4 + b / 16)]
  | [a, b, c, '='] => do
    let a ← value? a
    let b ← value? b
    let c ← value? c
    if c % 4 ≠ 0 then none
    else return [UInt8.ofNat (a * 4 + b / 16), UInt8.ofNat (b % 16 * 16 + c / 4)]
  | a :: b :: c :: d :: rest => do
    let a ← value? a
    let b ← value? b
    let c ← value? c
    let d ← value? d
    let others ← decode? rest
    return UInt8.ofNat (a * 4 + b / 16) :: UInt8.ofNat (b % 16 * 16 + c / 4) ::
      UInt8.ofNat (c % 4 * 64 + d) :: others
  | _ => none

/-- Why a text is not base64. -/
inductive Fault where
  | strayByte (offset byte : Nat)
  | length
  | lastSymbol (offset byte : Nat)
  | padding
  deriving DecidableEq, Repr

/-- The message about a text that is not base64. -/
def Fault.message : Fault → String
  | strayByte offset byte =>
    "Invalid byte " ++ toString byte ++ ", offset " ++ toString offset ++ "."
  | length => "Encoded text cannot have a 6-bit remainder."
  | lastSymbol offset byte =>
    "Invalid last symbol " ++ toString byte ++ ", offset " ++ toString offset ++ "."
  | padding => "Invalid padding"

/-- The byte of the padding. -/
def paddingByte : UInt8 := 61

/-- The number that a byte stands for. -/
def byteValue? (byte : UInt8) : Option Nat :=
  if byte < 0x80 then value? (Char.ofNat byte.toNat) else none

/-- The first byte that may not stand where it stands; padding may only stand at the end. -/
def strayByte? (offset : Nat) (padded : Option Nat) : List UInt8 → Option Fault
  | [] => none
  | byte :: rest =>
    if byte = paddingByte then
      if offset % 4 < 2 then some (.strayByte (padded.getD offset) byte.toNat)
      else strayByte? (offset + 1) (some (padded.getD offset)) rest
    else
      match padded with
      | some first => some (.strayByte first paddingByte.toNat)
      | none =>
        if (byteValue? byte).isNone then some (.strayByte offset byte.toNat)
        else strayByte? (offset + 1) none rest

/-- The last symbol before the padding, when it has bits that no byte takes. -/
def lastSymbol? (bytes : List UInt8) : Option Fault :=
  let symbols := bytes.takeWhile (· != paddingByte)
  let unused := match bytes.length - symbols.length with
    | 1 => 4
    | 2 => 16
    | _ => 1
  match symbols.getLast? with
  | none => none
  | some last =>
    if (byteValue? last).getD 0 % unused = 0 then none
    else some (.lastSymbol (symbols.length - 1) last.toNat)

/-- What is wrong with the bytes of a text. -/
def fault? (bytes : List UInt8) : Option Fault :=
  if bytes.length % 4 = 1 then
    match bytes.getLast? with
    | some last =>
      if last ≠ paddingByte ∧ (byteValue? last).isNone then
        some (.strayByte (bytes.length - 1) last.toNat)
      else some .length
    | none => none
  else
    match strayByte? 0 none bytes with
    | some fault => some fault
    | none => if bytes.length % 4 ≠ 0 then some .padding else lastSymbol? bytes

/-- The base64 text of bytes. -/
def text (bytes : List UInt8) : String :=
  String.ofList (encode bytes)

/-- The bytes of a base64 text. -/
def bytes? (text : String) : Option (List UInt8) :=
  decode? text.toList

end StepRunner.Base64
