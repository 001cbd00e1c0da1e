import StepRunner.Image.Png.Chunk
import StepRunner.Image.Raster

/-!
This file encodes pictures as PNG, with eight bits a sample and without compression.
-/

namespace StepRunner.Png

/-- The checksum at the end of zlib data. -/
def adler (bytes : List UInt8) : Nat :=
  let (low, high) := bytes.foldl (fun (low, high) byte =>
    let low := (low + byte.toNat) % 65521
    (low, (high + low) % 65521)) (1, 0)
  high * 65536 + low

/-- A number as two bytes, the low one first. -/
def pairBytes (value : Nat) : List UInt8 :=
  [UInt8.ofNat value, UInt8.ofNat (value / 256)]

/-- The most bytes of a block that is not compressed. -/
def blockLimit : Nat := 65535

/-- Writes bytes as blocks that are not compressed. -/
def storedBlocks (bytes : List UInt8) : List UInt8 :=
  if bytes.length ≤ blockLimit then
    1 :: pairBytes bytes.length ++ pairBytes (blockLimit - bytes.length) ++ bytes
  else
    0 :: pairBytes blockLimit ++ pairBytes 0 ++ bytes.take blockLimit ++
      storedBlocks (bytes.drop blockLimit)
termination_by bytes.length
decreasing_by
  simp only [blockLimit, Nat.not_le] at *
  simp only [List.length_drop]
  omega

/-- Wraps bytes as zlib data. -/
def zlib (bytes : List UInt8) : List UInt8 :=
  0x78 :: 0x01 :: storedBlocks bytes ++ wordBytes (adler bytes)

/-- The bytes of a colour. -/
def colourBytes (colour : Rgba) : List UInt8 :=
  [colour.red, colour.green, colour.blue, colour.alpha].map UInt8.ofNat

/-- The rows of a picture, each after a filter that changes nothing. -/
def rows (raster : Raster) : List UInt8 :=
  (List.range raster.height).flatMap fun y =>
    0 :: (List.range raster.width).flatMap fun x => colourBytes (raster.colour x y)

/-- Encodes a picture. -/
def encode (raster : Raster) : List UInt8 :=
  signature ++
    writeChunk "IHDR" (wordBytes raster.width ++ wordBytes raster.height ++ [8, 6, 0, 0, 0]) ++
    writeChunk "IDAT" (zlib (rows raster)) ++ writeChunk "IEND" []

end StepRunner.Png
