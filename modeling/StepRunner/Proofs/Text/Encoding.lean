import Mathlib.Tactic.IntervalCases
import Mathlib.Tactic.SplitIfs
import StepRunner.Text.Utf8

/-!
This file shows that a text is decoded from its own bytes.
-/

namespace StepRunner.Utf8

section Bytes

theorem toList_loop (bytes : ByteArray) (index : Nat) (done : List UInt8) :
    ByteArray.toList.loop bytes index done = done.reverse ++ bytes.data.toList.drop index := by
  induction left : bytes.size - index generalizing index done with
  | zero =>
    have ended : ¬index < bytes.size := by omega
    rw [ByteArray.toList.loop, if_neg ended, List.drop_eq_nil_of_le, List.append_nil]
    exact Nat.not_lt.1 ended
  | succ left inductionHypothesis =>
    have inside : index < bytes.size := by omega
    have listed : index < bytes.data.toList.length := inside
    have byte : bytes.get! index = bytes.data.toList[index] :=
      getElem!_pos bytes.data index inside
    rw [ByteArray.toList.loop, if_pos inside, inductionHypothesis _ _ (by omega),
      List.drop_eq_getElem_cons listed, byte, List.reverse_cons, List.append_assoc,
      List.singleton_append]

/-- The bytes of a text are those of its characters. -/
theorem encode_eq_flatMap (text : String) :
    encode text = text.toList.flatMap String.utf8EncodeChar := by
  have bytes : text.toUTF8 = (text.toList.flatMap String.utf8EncodeChar).toByteArray := by
    rw [String.toUTF8_eq_toByteArray, ← String.utf8Encode_toList]
    rfl
  rw [encode, ByteArray.toList, toList_loop, bytes, List.toList_data_toByteArray]
  rfl

end Bytes

section Characters

variable {bits count number : Nat} {least greatest : UInt8} {rest : List UInt8}

/-- A byte that goes on with a character adds six bits to it. -/
theorem follow_tail (small : number < 64) (low : least.toNat ≤ number + 0x80)
    (high : number + 0x80 ≤ greatest.toNat) :
    follow bits least greatest (count + 1) (UInt8.ofNat (number + 0x80) :: rest) =
      follow (bits * 64 + number) 0x80 0xBF count rest := by
  have value : (UInt8.ofNat (number + 0x80)).toNat = number + 0x80 :=
    UInt8.toNat_ofNat_of_lt' (show number + 0x80 < 256 by omega)
  have within : least ≤ UInt8.ofNat (number + 0x80) ∧ UInt8.ofNat (number + 0x80) ≤ greatest := by
    rw [UInt8.le_iff_toNat_le, UInt8.le_iff_toNat_le, value]
    exact ⟨low, high⟩
  have bits : (number + 0x80) % 64 = number := by omega
  rw [follow, if_pos within, value, bits]

/-- After the second byte any byte that goes on with a character does so. -/
theorem follow_later (small : number < 64) :
    follow bits 0x80 0xBF (count + 1) (UInt8.ofNat (number + 0x80) :: rest) =
      follow (bits * 64 + number) 0x80 0xBF count rest :=
  follow_tail small (Nat.le_add_left 128 number) (show number + 128 ≤ 191 by omega)

/-- The first of two bytes fixes the highest five bits. -/
theorem ofByte?_two (low : 2 ≤ number) (high : number < 32) :
    Lead.ofByte? (UInt8.ofNat (number + 0xC0)) = some ⟨number, 1, 0x80, 0xBF⟩ := by
  interval_cases number <;> rfl

/-- The first of three bytes fixes the highest four bits, and bounds the second byte. -/
theorem ofByte?_three (high : number < 16) :
    Lead.ofByte? (UInt8.ofNat (number + 0xE0)) =
      some ⟨number, 2, if number = 0 then 0xA0 else 0x80, if number = 13 then 0x9F else 0xBF⟩ := by
  interval_cases number <;> rfl

/-- The first of four bytes fixes the highest three bits, and bounds the second byte. -/
theorem ofByte?_four (high : number < 5) :
    Lead.ofByte? (UInt8.ofNat (number + 0xF0)) =
      some ⟨number, 3, if number = 0 then 0x90 else 0x80, if number = 4 then 0x8F else 0xBF⟩ := by
  interval_cases number <;> rfl

/-- A first byte of several is none of a single one. -/
theorem next_lead {lead : Lead} {byte : UInt8} (read : Lead.ofByte? byte = some lead) :
    next byte rest = follow lead.bits lead.least lead.greatest lead.following rest := by
  have several : ¬byte < 0x80 := by
    intro single
    have small : byte.toNat < 0x80 := UInt8.lt_iff_toNat_lt.1 single
    simp +zetaDelta only [Lead.ofByte?] at read
    split_ifs at read <;> omega
  rw [next, if_neg several, read]

/-- A character is read from its bytes. -/
theorem next_utf8EncodeChar (char : Char) : ∃ byte others,
    String.utf8EncodeChar char = byte :: others ∧
      ∀ rest, next byte (others ++ rest) = (some char, rest) := by
  have value : Char.ofNat char.toNat = char := Char.ofNat_toNat char
  have valid : char.toNat < 0xD800 ∨ 0xDFFF < char.toNat ∧ char.toNat < 0x110000 := char.valid
  have code : char.val.toNat = char.toNat := rfl
  unfold String.utf8EncodeChar
  simp only [code]
  generalize char.toNat = number at value valid
  split_ifs with one two three
  · refine ⟨_, _, rfl, fun rest => ?_⟩
    have byte : (UInt8.ofNat number).toNat = number :=
      UInt8.toNat_ofNat_of_lt' (show number < 256 by omega)
    have single : UInt8.ofNat number < 0x80 :=
      UInt8.lt_iff_toNat_lt.2 (by rw [byte]; exact show number < 128 by omega)
    rw [next, if_pos single, byte, value, List.nil_append]
  · refine ⟨_, _, rfl, fun rest => ?_⟩
    have high : number / 64 % 32 = number / 64 := by omega
    have whole : number / 64 * 64 + number % 64 = number := by omega
    rw [high, next_lead (ofByte?_two (by omega) (by omega)), List.singleton_append,
      follow_later (by omega), follow, whole, value]
  · refine ⟨_, _, rfl, fun rest => ?_⟩
    have high : number / 4096 % 16 = number / 4096 := by omega
    have whole : (number / 4096 * 64 + number / 64 % 64) * 64 + number % 64 = number := by omega
    rw [high, next_lead (ofByte?_three (by omega)), List.cons_append, List.cons_append]
    rw [follow_tail (by omega) ?low ?high, follow_later (by omega), List.nil_append, follow, whole,
      value]
    case low =>
      dsimp only
      split
      · exact show 160 ≤ number / 64 % 64 + 128 by omega
      · exact Nat.le_add_left 128 _
    case high =>
      dsimp only
      split
      · exact show number / 64 % 64 + 128 ≤ 159 by omega
      · exact show number / 64 % 64 + 128 ≤ 191 by omega
  · refine ⟨_, _, rfl, fun rest => ?_⟩
    have high : number / 262144 % 8 = number / 262144 := by omega
    have whole : ((number / 262144 * 64 + number / 4096 % 64) * 64 + number / 64 % 64) * 64 +
        number % 64 = number := by omega
    rw [high, next_lead (ofByte?_four (by omega)), List.cons_append, List.cons_append,
      List.cons_append]
    rw [follow_tail (by omega) ?low ?high, follow_later (by omega), follow_later (by omega),
      List.nil_append, follow, whole, value]
    case low =>
      dsimp only
      split
      · exact show 144 ≤ number / 4096 % 64 + 128 by omega
      · exact Nat.le_add_left 128 _
    case high =>
      dsimp only
      split
      · exact show number / 4096 % 64 + 128 ≤ 143 by omega
      · exact show number / 4096 % 64 + 128 ≤ 191 by omega

end Characters

section Texts

theorem pieces_flatMap (chars : List Char) :
    pieces (chars.flatMap String.utf8EncodeChar) = chars.map some := by
  induction chars with
  | nil => rw [List.flatMap_nil, pieces, List.map_nil]
  | cons char chars inductionHypothesis =>
    obtain ⟨byte, others, bytes, next⟩ := next_utf8EncodeChar char
    rw [List.flatMap_cons, bytes, List.cons_append, pieces, next, inductionHypothesis,
      List.map_cons]

theorem mapM_some (chars : List Char) : (chars.map some).mapM id = some chars := by
  induction chars with
  | nil => rfl
  | cons char chars inductionHypothesis =>
    rw [List.map_cons, List.mapM_cons, inductionHypothesis]
    rfl

/-- A text is decoded from its bytes. -/
theorem decode?_encode (text : String) : decode? (encode text) = some text := by
  rw [decode?, encode_eq_flatMap, pieces_flatMap, mapM_some, Option.map_some, String.ofList_toList]

end Texts

end StepRunner.Utf8
