import StepRunner.Image.Inflate
import StepRunner.Image.Png.Chunk
import StepRunner.Image.Raster

/-!
This file decodes PNG pictures.
-/

namespace StepRunner.Png

/-- How the colour of a place is stored. -/
inductive ColourKind where
  | grey
  | colour
  | palette
  | greyAlpha
  | colourAlpha
  deriving DecidableEq, Repr

namespace ColourKind

/-- The colour kind of a number in the header. -/
def ofNumber? : Nat → Option ColourKind
  | 0 => some grey
  | 2 => some colour
  | 3 => some palette
  | 4 => some greyAlpha
  | 6 => some colourAlpha
  | _ => none

/-- The samples of a place. -/
def channels : ColourKind → Nat
  | grey => 1
  | colour => 3
  | palette => 1
  | greyAlpha => 2
  | colourAlpha => 4

/-- The numbers of bits that a sample may have. -/
def depths : ColourKind → List Nat
  | grey => [1, 2, 4, 8, 16]
  | palette => [1, 2, 4, 8]
  | colour | greyAlpha | colourAlpha => [8, 16]

end ColourKind

/-- The header of a picture. -/
structure Header where
  width : Nat
  height : Nat
  depth : Nat
  kind : ColourKind
  interlaced : Bool
  deriving DecidableEq, Repr

/-- The largest side of a picture. -/
def largestSide : Nat := Nat.pow 2 31 - 1

/-- Reads the header chunk. -/
def Header.ofChunk? (chunk : Chunk) : Option Header := do
  if chunk.kind ≠ "IHDR" ∨ !chunk.intact ∨ chunk.content.length ≠ 13 then none
  let width := numberOf (chunk.content.take 4)
  let height := numberOf ((chunk.content.drop 4).take 4)
  let depth := (chunk.content.getD 8 0).toNat
  let kind ← ColourKind.ofNumber? (chunk.content.getD 9 0).toNat
  let method := (chunk.content.getD 10 0).toNat
  let filter := (chunk.content.getD 11 0).toNat
  let interlace := (chunk.content.getD 12 0).toNat
  if width = 0 ∨ height = 0 ∨ largestSide < width ∨ largestSide < height then none
  if !kind.depths.contains depth ∨ method ≠ 0 ∨ filter ≠ 0 ∨ 1 < interlace then none
  return ⟨width, height, depth, kind, interlace = 1⟩

/-- The bits of a place. -/
def Header.placeBits (header : Header) : Nat := header.kind.channels * header.depth

/-- The bytes of a row without its filter. -/
def Header.rowBytes (header : Header) (width : Nat) : Nat := (width * header.placeBits + 7) / 8

/-- A pass holds every so many columns and rows of the picture, from a first one on. -/
structure Pass where
  firstColumn : Nat
  firstRow : Nat
  columnStep : Nat
  rowStep : Nat
  deriving DecidableEq, Repr

/-- The passes of a picture; an interlaced picture has seven. -/
def Header.passes (header : Header) : List Pass :=
  if header.interlaced then
    [⟨0, 0, 8, 8⟩, ⟨4, 0, 8, 8⟩, ⟨0, 4, 4, 8⟩, ⟨2, 0, 4, 4⟩, ⟨0, 2, 2, 4⟩, ⟨1, 0, 2, 2⟩,
      ⟨0, 1, 1, 2⟩]
  else [⟨0, 0, 1, 1⟩]

/-- The columns of a pass. -/
def Pass.width (pass : Pass) (header : Header) : Nat :=
  (header.width + pass.columnStep - 1 - pass.firstColumn) / pass.columnStep

/-- The rows of a pass. -/
def Pass.height (pass : Pass) (header : Header) : Nat :=
  (header.height + pass.rowStep - 1 - pass.firstRow) / pass.rowStep

/-- The chunks that matter for the picture. -/
structure Content where
  header : Header
  palette : List UInt8 := []
  opacity : List UInt8 := []
  data : List UInt8 := []

/-- Collects the data chunks; the start of another chunk has to follow them. -/
def collectData? : Nat → List UInt8 → List UInt8 → Option (List UInt8)
  | 0, _, _ => none
  | fuel + 1, bytes, data =>
    if bytes.length < 8 then none
    else if kindOf ((bytes.drop 4).take 4) ≠ "IDAT" then some data
    else
      match readChunk? bytes with
      | none => none
      | some (chunk, rest) =>
        if chunk.intact then collectData? fuel rest (data ++ chunk.content) else none

/-- Reads the chunks before the data, and then the data. -/
def collect? : Nat → List UInt8 → Content → Option Content
  | 0, _, _ => none
  | fuel + 1, bytes, content =>
    if kindOf ((bytes.drop 4).take 4) = "IDAT" then
      (collectData? (bytes.length + 1) bytes []).map fun data => { content with data }
    else
      match readChunk? bytes with
      | none => none
      | some (chunk, rest) =>
        if chunk.kind = "IEND" then none
        else if !chunk.intact then
          if chunk.isOptional then collect? fuel rest content else none
        else if chunk.kind = "PLTE" then
          collect? fuel rest { content with palette := chunk.content }
        else if chunk.kind = "tRNS" then
          collect? fuel rest { content with opacity := chunk.content }
        else collect? fuel rest content

/-- The neighbour that predicts a byte best from the left, above and above left. -/
def predict (left above corner : Nat) : Nat :=
  let estimate : Int := (left : Int) + above - corner
  let fromLeft := (estimate - left).natAbs
  let fromAbove := (estimate - above).natAbs
  let fromCorner := (estimate - corner).natAbs
  if fromLeft ≤ fromAbove ∧ fromLeft ≤ fromCorner then left
  else if fromAbove ≤ fromCorner then above
  else corner

/-- What a filter adds to a byte. -/
def filterTerm? (filter left above corner : Nat) : Option Nat :=
  match filter with
  | 0 => some 0
  | 1 => some left
  | 2 => some above
  | 3 => some ((left + above) / 2)
  | 4 => some (predict left above corner)
  | _ => none

/-- Undoes the filter of a row, with the row above it. -/
def unfilter? (filter stride : Nat) (above : Array UInt8) (row : List UInt8) :
    Option (Array UInt8) :=
  row.foldlM (fun (done : Array UInt8) byte =>
    let place := done.size
    let left := if place < stride then 0 else (done.getD (place - stride) 0).toNat
    let corner := if place < stride then 0 else (above.getD (place - stride) 0).toNat
    (filterTerm? filter left (above.getD place 0).toNat corner).map fun term =>
      done.push (UInt8.ofNat (byte.toNat + term))) #[]

/-- Reads the rows of a pass, newest first, and gives the data after them. -/
def readRows? (bytes stride : Nat) :
    Nat → List UInt8 → List (Array UInt8) → Option (List (Array UInt8) × List UInt8)
  | 0, data, rows => some (rows, data)
  | count + 1, data, rows =>
    match data with
    | [] => none
    | filter :: data => do
      let row := data.take bytes
      if row.length < bytes then none
      let row ← unfilter? filter.toNat stride (rows.headD #[]) row
      readRows? bytes stride count (data.drop bytes) (row :: rows)

/-- Reads the rows of each pass. -/
def readPasses? (header : Header) :
    List Pass → List UInt8 → Option (List (Pass × Array (Array UInt8)))
  | [], _ => some []
  | pass :: passes, data =>
    if pass.width header = 0 then
      (readPasses? header passes data).map fun rest => (pass, #[]) :: rest
    else do
      let stride := max 1 (header.placeBits / 8)
      let (rows, data) ←
        readRows? (header.rowBytes (pass.width header)) stride (pass.height header) data []
      let rest ← readPasses? header passes data
      return (pass, rows.reverse.toArray) :: rest

/-- A sample of a row, in its own number of bits. -/
def sample (depth : Nat) (row : Array UInt8) (index : Nat) : Nat :=
  if depth = 16 then (row.getD (2 * index) 0).toNat * 256 + (row.getD (2 * index + 1) 0).toNat
  else if depth = 8 then (row.getD index 0).toNat
  else
    let perByte := 8 / depth
    let shift := 8 - depth * (index % perByte + 1)
    (row.getD (index / perByte) 0).toNat / Nat.pow 2 shift % Nat.pow 2 depth

/-- A sample in eight bits. -/
def shade (depth value : Nat) : Nat :=
  if depth = 16 then value / 256 else value * 255 / (Nat.pow 2 depth - 1)

/-- The colour of a place of a row. -/
def Content.colourAt (content : Content) (row : Array UInt8) (column : Nat) : Rgba :=
  let header := content.header
  let raw := fun channel => sample header.depth row (column * header.kind.channels + channel)
  let eight := fun channel => shade header.depth (raw channel)
  match header.kind with
  | .grey => ⟨eight 0, eight 0, eight 0, 255⟩
  | .greyAlpha => ⟨eight 0, eight 0, eight 0, eight 1⟩
  | .colour => ⟨eight 0, eight 1, eight 2, 255⟩
  | .colourAlpha => ⟨eight 0, eight 1, eight 2, eight 3⟩
  | .palette =>
    let entry := fun place => (content.palette.getD (3 * raw 0 + place) 0).toNat
    ⟨entry 0, entry 1, entry 2, (content.opacity.getD (raw 0) 255).toNat⟩

/-- The colour of a place, from the pass that holds it. -/
def Content.colour (content : Content) (passes : List (Pass × Array (Array UInt8)))
    (x y : Nat) : Rgba :=
  match passes.find? fun (pass, _) =>
    pass.firstColumn ≤ x && pass.firstRow ≤ y && (x - pass.firstColumn) % pass.columnStep == 0 &&
      (y - pass.firstRow) % pass.rowStep == 0 with
  | some (pass, rows) =>
    content.colourAt (rows.getD ((y - pass.firstRow) / pass.rowStep) #[])
      ((x - pass.firstColumn) / pass.columnStep)
  | none => ⟨0, 0, 0, 0⟩

/-- The chunks of PNG data. -/
def content? (bytes : List UInt8) : Option Content := do
  if bytes.take 8 ≠ signature then none
  let (first, rest) ← readChunk? (bytes.drop 8)
  let header ← Header.ofChunk? first
  let content ← collect? (rest.length + 1) rest { header }
  if header.kind = .palette ∧ content.palette = [] then none
  return content

/-- Decodes a picture. -/
def decode? (bytes : List UInt8) : Option Raster := do
  let content ← content? bytes
  let raw ← Inflate.zlib? content.data
  let passes ← readPasses? content.header content.header.passes raw.toList
  return ⟨content.header.width, content.header.height, content.colour passes⟩

/-- The size that the header of PNG data gives. -/
def size? (bytes : List UInt8) : Option (Nat × Nat) := do
  if bytes.take 8 ≠ signature then none
  let (first, _) ← readChunk? (bytes.drop 8)
  let header ← Header.ofChunk? first
  return (header.width, header.height)

end StepRunner.Png
