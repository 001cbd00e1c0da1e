/-!
This file takes PNG data apart into chunks and puts chunks together.
-/

namespace StepRunner.Png

/-- The bytes at the start of every PNG. -/
def signature : List UInt8 := [0x89, 0x50, 0x4E, 0x47, 0x0D, 0x0A, 0x1A, 0x0A]

/-- One step of the cyclic checksum for a bit. -/
def checksumBit (value : UInt32) : UInt32 :=
  if value &&& 1 = 1 then (value >>> 1) ^^^ 0xEDB88320 else value >>> 1

/-- One step of the cyclic checksum for a byte. -/
def checksumByte (value : UInt32) (byte : UInt8) : UInt32 :=
  (List.range 8).foldl (fun value _ => checksumBit value) (value ^^^ byte.toUInt32)

/-- The cyclic checksum of bytes. -/
def checksum (bytes : List UInt8) : UInt32 :=
  bytes.foldl checksumByte 0xFFFFFFFF ^^^ 0xFFFFFFFF

/-- The big-endian number of some bytes. -/
def numberOf (bytes : List UInt8) : Nat :=
  bytes.foldl (fun value byte => value * 256 + byte.toNat) 0

/-- A number as four big-endian bytes. -/
def wordBytes (value : Nat) : List UInt8 :=
  [value / Nat.pow 2 24, value / Nat.pow 2 16, value / Nat.pow 2 8, value].map UInt8.ofNat

/-- A chunk has a kind of four letters. -/
structure Chunk where
  kind : String
  content : List UInt8
  /-- The checksum of the chunk is right. -/
  intact : Bool
  deriving DecidableEq, Repr

/-- The text of four letters. -/
def kindOf (bytes : List UInt8) : String :=
  String.ofList (bytes.map fun byte => Char.ofNat byte.toNat)

/-- A chunk that decoders may pass over starts with a small letter. -/
def Chunk.isOptional (chunk : Chunk) : Bool :=
  match chunk.kind.toList with
  | first :: _ => first.isLower
  | [] => false

/-- Reads a chunk and gives the bytes after it. -/
def readChunk? (bytes : List UInt8) : Option (Chunk × List UInt8) :=
  let size := numberOf (bytes.take 4)
  let body := bytes.drop 4
  if body.length < size + 8 then none
  else
    let marked := body.take (4 + size)
    let rest := body.drop (4 + size)
    some (⟨kindOf (body.take 4), marked.drop 4, numberOf (rest.take 4) = (checksum marked).toNat⟩,
      rest.drop 4)

/-- A chunk takes at least twelve bytes. -/
theorem readChunk?_shorter {bytes rest : List UInt8} {chunk : Chunk}
    (read : readChunk? bytes = some (chunk, rest)) : rest.length < bytes.length := by
  simp only [readChunk?] at read
  split at read
  · simp at read
  · simp only [Option.some.injEq, Prod.mk.injEq] at read
    rw [← read.2]
    simp only [List.length_drop] at *
    omega

/-- Writes a chunk. -/
def writeChunk (kind : String) (content : List UInt8) : List UInt8 :=
  let marked := kind.toUTF8.toList ++ content
  wordBytes content.length ++ marked ++ wordBytes (checksum marked).toNat

end StepRunner.Png
