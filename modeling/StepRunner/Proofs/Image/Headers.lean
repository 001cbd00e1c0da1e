import Mathlib.Tactic.NormNum
import StepRunner.Image.Png.Reader
import StepRunner.Image.Png.Writer

/-!
This file reads the size of a picture back from its encoding.
The header is the first chunk, and it gives each side as a word of four bytes.
-/

namespace StepRunner.Png

section Words

@[simp] theorem length_wordBytes (value : Nat) : (wordBytes value).length = 4 := rfl

theorem numberOf_wordBytes {value : Nat} (word : value < 2 ^ 32) :
    numberOf (wordBytes value) = value := by
  simp only [wordBytes, numberOf, List.map_cons, List.map_nil, List.foldl_cons, List.foldl_nil,
    UInt8.toNat_ofNat', Nat.pow_eq]
  omega

end Words

section Chunks

variable {kind : String} {content rest : List UInt8}

/-- A chunk is read back as it was written, with what comes after it. -/
theorem readChunk?_writeChunk (letters : kind.toUTF8.toList.length = 4)
    (named : kindOf kind.toUTF8.toList = kind) (short : content.length < 2 ^ 32) :
    readChunk? (writeChunk kind content ++ rest) = some (⟨kind, content, true⟩, rest) := by
  have size : numberOf (wordBytes content.length) = content.length := numberOf_wordBytes short
  generalize shape : kind.toUTF8.toList = letterBytes at *
  have sum : numberOf (wordBytes (checksum (letterBytes ++ content)).toNat) =
      (checksum (letterBytes ++ content)).toNat := numberOf_wordBytes (UInt32.toNat_lt _)
  have layout : writeChunk kind content ++ rest = wordBytes content.length ++
      (letterBytes ++
        (content ++ (wordBytes (checksum (letterBytes ++ content)).toNat ++ rest))) := by
    simp only [writeChunk, shape, List.append_assoc]
  have marked : (letterBytes ++ (content ++
      (wordBytes (checksum (letterBytes ++ content)).toNat ++ rest))).take (4 + content.length) =
        letterBytes ++ content := by
    rw [← List.append_assoc]
    exact List.take_left' (by rw [List.length_append, letters])
  have after : (letterBytes ++ (content ++
      (wordBytes (checksum (letterBytes ++ content)).toNat ++ rest))).drop (4 + content.length) =
        wordBytes (checksum (letterBytes ++ content)).toNat ++ rest := by
    rw [← List.append_assoc]
    exact List.drop_left' (by rw [List.length_append, letters])
  unfold readChunk?
  rw [layout, List.take_left' (length_wordBytes _), List.drop_left' (length_wordBytes _), size]
  simp only
  rw [if_neg, marked, after, List.take_left' letters, List.drop_left' letters,
    List.take_left' (length_wordBytes _), List.drop_left' (length_wordBytes _), sum, named,
    decide_eq_true rfl]
  simp only [List.length_append, letters, length_wordBytes]
  omega

end Chunks

section Sizes

variable {raster : Raster} {bytes : List UInt8}

/-- The content of the header of an encoded picture. -/
def headerBytes (raster : Raster) : List UInt8 :=
  wordBytes raster.width ++ wordBytes raster.height ++ [8, 6, 0, 0, 0]

theorem size?_eq (start : bytes.take 8 = signature) {first : Chunk} {rest : List UInt8}
    (read : readChunk? (bytes.drop 8) = some (first, rest)) :
    size? bytes = (Header.ofChunk? first).map fun header => (header.width, header.height) := by
  unfold size?
  rw [read]
  simp only [start, ne_eq, not_true_eq_false, if_false, Option.bind_eq_bind, Option.bind_some]
  cases Header.ofChunk? first <;> rfl

/-- A header has checked its sides. -/
theorem sides_of_ofChunk? {chunk : Chunk} {header : Header}
    (read : Header.ofChunk? chunk = some header) :
    (0 < header.width ∧ header.width ≤ largestSide) ∧
      0 < header.height ∧ header.height ≤ largestSide := by
  unfold Header.ofChunk? at read
  simp only [Option.pure_def, Option.bind_eq_bind, Option.bind_none, Option.ite_none_left_eq_some,
    Option.bind_eq_some_iff, Option.some.injEq, not_or, Nat.not_lt] at read
  obtain ⟨-, kind, -, ⟨someWidth, someHeight, widthFits, heightFits⟩, -, rfl⟩ := read
  exact ⟨⟨Nat.pos_of_ne_zero someWidth, widthFits⟩, Nat.pos_of_ne_zero someHeight, heightFits⟩

/-- The chunks after the header leave it as it is. -/
theorem header_of_collect? {fuel : Nat} {content after : Content}
    (collected : collect? fuel bytes content = some after) : after.header = content.header := by
  fun_induction collect? fuel bytes content with
  | case2 =>
    obtain ⟨data, -, rfl⟩ := Option.map_eq_some_iff.1 collected
    rfl
  | case5 _ _ _ _ _ _ _ _ _ _ inductionHypothesis => exact inductionHypothesis collected
  | case7 _ _ _ _ _ _ _ _ _ _ inductionHypothesis => exact inductionHypothesis collected
  | case8 _ _ _ _ _ _ _ _ _ _ _ inductionHypothesis => exact inductionHypothesis collected
  | case9 _ _ _ _ _ _ _ _ _ _ _ inductionHypothesis => exact inductionHypothesis collected
  | _ => cases collected

/-- The header of an encoded picture gives its size. -/
theorem size?_encode (widthPos : 0 < raster.width) (widthFits : raster.width ≤ largestSide)
    (heightPos : 0 < raster.height) (heightFits : raster.height ≤ largestSide) :
    size? (encode raster) = some (raster.width, raster.height) := by
  have limit : largestSide < 2 ^ 32 := by decide
  have wide := numberOf_wordBytes (Nat.lt_of_le_of_lt widthFits limit)
  have high := numberOf_wordBytes (Nat.lt_of_le_of_lt heightFits limit)
  have read (rest : List UInt8) : readChunk? (writeChunk "IHDR" (headerBytes raster) ++ rest) =
      some (⟨"IHDR", headerBytes raster, true⟩, rest) :=
    readChunk?_writeChunk (by decide +kernel) (by decide +kernel) (by simp [headerBytes])
  have header : Header.ofChunk? ⟨"IHDR", headerBytes raster, true⟩ =
      some ⟨raster.width, raster.height, 8, .colourAlpha, false⟩ := by
    have widthBytes : (headerBytes raster).take 4 = wordBytes raster.width := rfl
    have heightBytes : ((headerBytes raster).drop 4).take 4 = wordBytes raster.height := rfl
    have length : (headerBytes raster).length = 13 := rfl
    have kind : ColourKind.ofNumber? ((headerBytes raster).getD 9 0).toNat =
        some .colourAlpha := rfl
    have proper : ¬(raster.width = 0 ∨ raster.height = 0 ∨ largestSide < raster.width ∨
        largestSide < raster.height) := by
      omega
    unfold Header.ofChunk?
    simp only [widthBytes, heightBytes, wide, high, length, kind, proper, Option.bind_eq_bind,
      Option.bind_some, if_false]
    rfl
  have layout : encode raster = signature ++ (writeChunk "IHDR" (headerBytes raster) ++
      (writeChunk "IDAT" (zlib (rows raster)) ++ writeChunk "IEND" [])) := by
    simp only [encode, headerBytes, List.append_assoc]
  have first : readChunk? ((encode raster).drop 8) = some (⟨"IHDR", headerBytes raster, true⟩,
      writeChunk "IDAT" (zlib (rows raster)) ++ writeChunk "IEND" []) := by
    rw [layout]
    exact read _
  rw [size?_eq (by rw [layout]; rfl) first, header]
  rfl

/-- The sides of a picture that can be decoded are those of its header, which has checked them. -/
theorem sides_of_decode? (decoded : decode? bytes = some raster) :
    (0 < raster.width ∧ raster.width ≤ largestSide) ∧
      0 < raster.height ∧ raster.height ≤ largestSide := by
  simp only [decode?, Option.bind_eq_bind, Option.bind_eq_some_iff] at decoded
  obtain ⟨content, contents, raw, -, passes, -, same⟩ := decoded
  obtain rfl := Option.some.inj same
  unfold content? at contents
  simp only [Option.pure_def, Option.bind_eq_bind, Option.bind_none, Option.ite_none_left_eq_some,
    Option.bind_eq_some_iff, Option.some.injEq] at contents
  obtain ⟨-, chunks, -, header, checked, other, collected, -, rfl⟩ := contents
  have kept : other.header = header := header_of_collect? collected
  have sides := sides_of_ofChunk? checked
  rwa [← kept] at sides

end Sizes

end StepRunner.Png
