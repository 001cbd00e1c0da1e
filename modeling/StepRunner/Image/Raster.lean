import StepRunner.Number.Binary64

/-!
This file defines pictures and scales them down.
-/

namespace StepRunner

/-- A colour with its opacity, in 8 bits each. -/
structure Rgba where
  red : Nat
  green : Nat
  blue : Nat
  alpha : Nat
  deriving DecidableEq, Repr, Inhabited

/-- A picture gives each place a colour. -/
structure Raster where
  width : Nat
  height : Nat
  colour : Nat → Nat → Rgba

namespace Raster

/-- The widest thumbnail. -/
def thumbnailWidth : Nat := 320

/-- The value rounded to a whole number; a half goes up. -/
def roundHalfUp (value : Number.Binary64) : Nat :=
  (2 * value.numerator + value.denominator) / (2 * value.denominator)

/-- One side scaled by a ratio, rounded to a whole number of at least one. -/
def scaledSide (side : Nat) (ratio : Number.Binary64) : Nat :=
  max 1 (roundHalfUp ((Number.Binary64.ofNat side).multiply ratio))

/--
The size of a picture that has to fit into a box, with the proportions kept.
The ratios are binary64 values.
-/
def fitted (width height boxWidth boxHeight : Nat) : Nat × Nat :=
  let across := (Number.Binary64.ofNat boxWidth).divide (.ofNat width)
  let down := (Number.Binary64.ofNat boxHeight).divide (.ofNat height)
  let ratio := if down.less across then down else across
  (scaledSide width ratio, scaledSide height ratio)

/-- The size of the thumbnail of a picture; a picture that is not too wide keeps its size. -/
def thumbnailSize (width height : Nat) : Nat × Nat :=
  if thumbnailWidth < width then
    fitted width height thumbnailWidth (max 1 (height * thumbnailWidth / width))
  else (width, height)

/-- The mean of some numbers, rounded to the nearest whole number. -/
def mean (values : List Nat) : Nat :=
  (values.foldl (· + ·) 0 + values.length / 2) / max 1 values.length

/-- The mean of some colours. -/
def meanColour (colours : List Rgba) : Rgba :=
  ⟨mean (colours.map Rgba.red), mean (colours.map Rgba.green), mean (colours.map Rgba.blue),
    mean (colours.map Rgba.alpha)⟩

/-- The places of a side that one place of the scaled side covers. -/
def covered (side scaled place : Nat) : List Nat :=
  let first := place * side / scaled
  let last := max (first + 1) ((place + 1) * side / scaled)
  (List.range (last - first)).map (· + first)

/-- A picture scaled to another size; each place takes the mean of the places it covers. -/
def scale (raster : Raster) (width height : Nat) : Raster :=
  { width
    height
    colour := fun x y =>
      meanColour <| (covered raster.height height y).flatMap fun row =>
        (covered raster.width width x).map fun column => raster.colour column row }

/-- The thumbnail of a picture. -/
def thumbnail (raster : Raster) : Raster :=
  if thumbnailWidth < raster.width then
    let (width, height) := thumbnailSize raster.width raster.height
    raster.scale width height
  else raster

end Raster

end StepRunner
