/-!
This file expands deflate data inside a zlib wrapper.
The compressed data is a list of bits, the lowest bit of each byte first.
-/

namespace StepRunner.Inflate

/-- The bits of a byte, the lowest first. -/
def bitsOf (byte : UInt8) : List Bool :=
  (List.range 8).map byte.toNat.testBit

/-- Reads a number of a given width, its lowest bit first. -/
def takeNumber? : Nat → List Bool → Option (Nat × List Bool)
  | 0, bits => some (0, bits)
  | _ + 1, [] => none
  | width + 1, bit :: bits =>
    (takeNumber? width bits).map fun (value, rest) => (2 * value + bit.toNat, rest)

/-- A prefix code: how many codes each length from one has, and the symbols in code order. -/
structure Code where
  counts : List Nat
  symbols : Array Nat

/-- The longest code word. -/
def longestWord : Nat := 15

/-- The symbols whose code words have a given length. -/
def symbolsOf (lengths : List Nat) (length : Nat) : List Nat :=
  (lengths.zipIdx.filter fun entry => entry.1 = length).map Prod.snd

/-- The code words that are left over when each length takes its share, or none when some lack. -/
def leftOver? (counts : List Nat) : Option Nat :=
  counts.foldlM (fun left count => if count ≤ 2 * left then some (2 * left - count) else none) 1

/-- The canonical code with the given word lengths; a length of zero leaves a symbol out. -/
def codeOf (lengths : List Nat) : Code :=
  let words := (List.range longestWord).map fun index => symbolsOf lengths (index + 1)
  ⟨words.map List.length, words.flatten.toArray⟩

/-- A code in which every bit string starts with a code word. -/
def Code.isComplete (code : Code) : Bool :=
  leftOver? code.counts = some 0

/-- A code with at most one word, which has one bit. -/
def Code.isSingle (code : Code) : Bool :=
  code.symbols.isEmpty || (code.symbols.size == 1 && code.counts.head? == some 1)

/-- Finds the place of the next code word among the symbols. -/
def findWord? : List Nat → Nat → Nat → Nat → List Bool → Option (Nat × List Bool)
  | count :: counts, word, first, index, bit :: bits =>
    let word := word + bit.toNat
    if word < first + count then some (index + (word - first), bits)
    else findWord? counts (2 * word) (2 * (first + count)) (index + count) bits
  | _, _, _, _, _ => none

/-- Reads the next symbol. -/
def Code.next? (code : Code) (bits : List Bool) : Option (Nat × List Bool) := do
  let (index, rest) ← findWord? code.counts 0 0 0 bits
  let symbol ← code.symbols[index]?
  return (symbol, rest)

/-- The base and the extra bits of the copy lengths. -/
def lengthTable : Array (Nat × Nat) :=
  #[(3, 0), (4, 0), (5, 0), (6, 0), (7, 0), (8, 0), (9, 0), (10, 0), (11, 1), (13, 1), (15, 1),
    (17, 1), (19, 2), (23, 2), (27, 2), (31, 2), (35, 3), (43, 3), (51, 3), (59, 3), (67, 4),
    (83, 4), (99, 4), (115, 4), (131, 5), (163, 5), (195, 5), (227, 5), (258, 0)]

/-- The base and the extra bits of the copy distances. -/
def distanceTable : Array (Nat × Nat) :=
  #[(1, 0), (2, 0), (3, 0), (4, 0), (5, 1), (7, 1), (9, 2), (13, 2), (17, 3), (25, 3), (33, 4),
    (49, 4), (65, 5), (97, 5), (129, 6), (193, 6), (257, 7), (385, 7), (513, 8), (769, 8),
    (1025, 9), (1537, 9), (2049, 10), (3073, 10), (4097, 11), (6145, 11), (8193, 12),
    (12289, 12), (16385, 13), (24577, 13)]

/-- Copies bytes from a distance behind the end to the end. -/
def copy (output : Array UInt8) (distance : Nat) : Nat → Array UInt8
  | 0 => output
  | count + 1 => copy (output.push (output.getD (output.size - distance) 0)) distance count

/-- Reads a number from a table of bases and extra bits. -/
def tableNumber? (table : Array (Nat × Nat)) (symbol : Nat) (bits : List Bool) :
    Option (Nat × List Bool) := do
  let (base, extra) ← table[symbol]?
  let (offset, rest) ← takeNumber? extra bits
  return (base + offset, rest)

/-- Expands the symbols of a block up to its end. -/
def expand? (literals distances : Code) :
    Nat → List Bool → Array UInt8 → Option (List Bool × Array UInt8)
  | 0, _, _ => none
  | fuel + 1, bits, output => do
    let (symbol, bits) ← literals.next? bits
    if symbol < 256 then expand? literals distances fuel bits (output.push (UInt8.ofNat symbol))
    else if symbol = 256 then return (bits, output)
    else
      let (length, bits) ← tableNumber? lengthTable (symbol - 257) bits
      let (symbol, bits) ← distances.next? bits
      let (distance, bits) ← tableNumber? distanceTable symbol bits
      if output.size < distance then none
      else expand? literals distances fuel bits (copy output distance length)

/-- The order in which the lengths of the length code are written. -/
def lengthOrder : List Nat := [16, 17, 18, 0, 8, 7, 9, 6, 10, 5, 11, 4, 12, 3, 13, 2, 14, 1, 15]

/-- Reads the lengths of the length code. -/
def readLengthCode? : List Nat → Nat → List Bool → Option (List (Nat × Nat) × List Bool)
  | place :: places, count + 1, bits => do
    let (length, bits) ← takeNumber? 3 bits
    let (rest, bits) ← readLengthCode? places count bits
    return ((place, length) :: rest, bits)
  | _, _, bits => some ([], bits)

/-- Reads word lengths until there are enough, newest first; some symbols repeat a length. -/
def readLengths? (code : Code) (wanted : Nat) :
    Nat → List Bool → List Nat → Option (List Nat × List Bool)
  | 0, _, _ => none
  | fuel + 1, bits, lengths =>
    if lengths.length = wanted then some (lengths, bits)
    else if wanted < lengths.length then none
    else do
      let (symbol, bits) ← code.next? bits
      if symbol < 16 then readLengths? code wanted fuel bits (symbol :: lengths)
      else if symbol = 16 then
        let last ← lengths.head?
        let (extra, bits) ← takeNumber? 2 bits
        readLengths? code wanted fuel bits (List.replicate (3 + extra) last ++ lengths)
      else if symbol = 17 then
        let (extra, bits) ← takeNumber? 3 bits
        readLengths? code wanted fuel bits (List.replicate (3 + extra) 0 ++ lengths)
      else
        let (extra, bits) ← takeNumber? 7 bits
        readLengths? code wanted fuel bits (List.replicate (11 + extra) 0 ++ lengths)

/-- Reads the two codes of a block that brings its own. -/
def readCodes? (bits : List Bool) : Option (Code × Code × List Bool) := do
  let (literalCount, bits) ← takeNumber? 5 bits
  let (distanceCount, bits) ← takeNumber? 5 bits
  let (lengthCount, bits) ← takeNumber? 4 bits
  if 29 < literalCount ∨ 29 < distanceCount then none
  let (pairs, bits) ← readLengthCode? lengthOrder (lengthCount + 4) bits
  let lengthCode := codeOf ((List.range 19).map fun place =>
    ((pairs.find? fun pair => pair.1 = place).map Prod.snd).getD 0)
  if !lengthCode.isComplete then none
  let literals := literalCount + 257
  let wanted := literals + distanceCount + 1
  let (reversed, bits) ← readLengths? lengthCode wanted (wanted + 1) bits []
  let lengths := reversed.reverse
  let literalCode := codeOf (lengths.take literals)
  let distanceCode := codeOf (lengths.drop literals)
  if lengths.getD 256 0 = 0 then none
  if !literalCode.isComplete ∧ !literalCode.isSingle then none
  if !distanceCode.isComplete ∧ !distanceCode.isSingle then none
  return (literalCode, distanceCode, bits)

/-- The literal code of a block without codes of its own. -/
def fixedLiterals : Code :=
  codeOf (List.replicate 144 8 ++ List.replicate 112 9 ++ List.replicate 24 7 ++
    List.replicate 8 8)

/-- The distance code of a block without codes of its own. -/
def fixedDistances : Code :=
  codeOf (List.replicate 30 5)

/-- Reads whole bytes. -/
def takeBytes? : Nat → List Bool → Array UInt8 → Option (List Bool × Array UInt8)
  | 0, bits, output => some (bits, output)
  | count + 1, bits, output => do
    let (byte, bits) ← takeNumber? 8 bits
    takeBytes? count bits (output.push (UInt8.ofNat byte))

/-- Reads a block of bytes that are not compressed. -/
def readStored? (bits : List Bool) (output : Array UInt8) : Option (List Bool × Array UInt8) := do
  let bits := bits.drop (bits.length % 8)
  let (length, bits) ← takeNumber? 16 bits
  let (complement, bits) ← takeNumber? 16 bits
  if length + complement ≠ 65535 then none
  takeBytes? length bits output

/-- Reads blocks up to the last one. -/
def readBlocks? : Nat → List Bool → Array UInt8 → Option (List Bool × Array UInt8)
  | 0, _, _ => none
  | fuel + 1, bits, output => do
    let (last, bits) ← takeNumber? 1 bits
    let (kind, bits) ← takeNumber? 2 bits
    let (bits, output) ←
      match kind with
      | 0 => readStored? bits output
      | 1 => expand? fixedLiterals fixedDistances (bits.length + 1) bits output
      | 2 => do
        let (literals, distances, bits) ← readCodes? bits
        expand? literals distances (bits.length + 1) bits output
      | _ => none
    if last = 1 then return (bits, output) else readBlocks? fuel bits output

/-- Expands zlib data; the checksum at its end has to be there but is not compared. -/
def zlib? : List UInt8 → Option (Array UInt8)
  | method :: flags :: data => do
    if method.toNat % 16 ≠ 8 ∨ 7 < method.toNat / 16 then none
    if (method.toNat * 256 + flags.toNat) % 31 ≠ 0 ∨ flags.toNat.testBit 5 then none
    let bits := data.flatMap bitsOf
    let (rest, output) ← readBlocks? (bits.length + 1) bits #[]
    if rest.length / 8 < 4 then none
    return output
  | _ => none

end StepRunner.Inflate
