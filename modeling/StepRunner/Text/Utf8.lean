/-!
This file decodes UTF-8.
Bytes that are no character are taken in pieces: a piece is the longest start of a character that
the bytes still allow, or one byte.
-/

namespace StepRunner.Utf8

/-- What the first byte of a character of several bytes fixes. -/
structure Lead where
  /-- The bits of the character that the first byte holds. -/
  bits : Nat
  /-- How many bytes follow. -/
  following : Nat
  /-- The least second byte. -/
  least : UInt8 := 0x80
  /-- The greatest second byte. -/
  greatest : UInt8 := 0xBF

/-- Reads the first byte of a character of several bytes. -/
def Lead.ofByte? (byte : UInt8) : Option Lead :=
  let value := byte.toNat
  if 0xC2 ≤ value ∧ value ≤ 0xDF then some ⟨value - 0xC0, 1, 0x80, 0xBF⟩
  else if value = 0xE0 then some ⟨0, 2, 0xA0, 0xBF⟩
  else if value = 0xED then some ⟨0xD, 2, 0x80, 0x9F⟩
  else if 0xE1 ≤ value ∧ value ≤ 0xEF then some ⟨value - 0xE0, 2, 0x80, 0xBF⟩
  else if value = 0xF0 then some ⟨0, 3, 0x90, 0xBF⟩
  else if 0xF1 ≤ value ∧ value ≤ 0xF3 then some ⟨value - 0xF0, 3, 0x80, 0xBF⟩
  else if value = 0xF4 then some ⟨4, 3, 0x80, 0x8F⟩
  else none

/-- Reads the bytes after the first; without all of them there is no character. -/
def follow (bits : Nat) (least greatest : UInt8) : Nat → List UInt8 → Option Char × List UInt8
  | 0, bytes => (some (Char.ofNat bits), bytes)
  | _ + 1, [] => (none, [])
  | count + 1, byte :: rest =>
    if least ≤ byte ∧ byte ≤ greatest then
      follow (bits * 64 + byte.toNat % 64) 0x80 0xBF count rest
    else (none, byte :: rest)

theorem length_follow_le (bits : Nat) (least greatest : UInt8) (count : Nat) (bytes : List UInt8) :
    (follow bits least greatest count bytes).2.length ≤ bytes.length := by
  induction count generalizing bits least greatest bytes with
  | zero => simp [follow]
  | succ count inductionHypothesis =>
    cases bytes with
    | nil => simp [follow]
    | cons byte rest =>
      simp only [follow]
      split
      · exact Nat.le_succ_of_le (inductionHypothesis _ _ _ rest)
      · exact Nat.le_refl _

/-- Reads one character, or one piece that is no character. -/
def next (byte : UInt8) (rest : List UInt8) : Option Char × List UInt8 :=
  if byte < 0x80 then (some (Char.ofNat byte.toNat), rest)
  else
    match Lead.ofByte? byte with
    | none => (none, rest)
    | some lead => follow lead.bits lead.least lead.greatest lead.following rest

theorem length_next_le (byte : UInt8) (rest : List UInt8) :
    (next byte rest).2.length ≤ rest.length := by
  unfold next
  split
  · exact Nat.le_refl _
  · split
    · exact Nat.le_refl _
    · exact length_follow_le _ _ _ _ _

/-- The characters of bytes, with nothing for each piece that is no character. -/
def pieces : List UInt8 → List (Option Char)
  | [] => []
  | byte :: rest => (next byte rest).1 :: pieces (next byte rest).2
termination_by bytes => bytes.length
decreasing_by exact Nat.lt_succ_of_le (length_next_le byte rest)

/-- The text of bytes that are all characters. -/
def decode? (bytes : List UInt8) : Option String :=
  ((pieces bytes).mapM id).map String.ofList

/-- The text of bytes, with a replacement character for each piece that is no character. -/
def decodeLossy (bytes : List UInt8) : String :=
  String.ofList ((pieces bytes).map fun piece => piece.getD '\uFFFD')

/-- The bytes of a text. -/
def encode (text : String) : List UInt8 :=
  text.toUTF8.toList

end StepRunner.Utf8
