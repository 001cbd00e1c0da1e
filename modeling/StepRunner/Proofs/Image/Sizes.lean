import StepRunner.Image.Raster
import StepRunner.Proofs.Number.Rounding

/-!
This file says how large the thumbnail of a picture is.
The height of the box is rounded down before the picture is fitted into it, so the height decides
unless it would be nothing, and the width may fall short of that of the box.
-/

namespace StepRunner.Raster

open StepRunner.Number

variable {width height : Nat}

section Fitting

/-- The error of a rounding to a whole number is at most a half. -/
theorem roundHalfUp_error (number : Binary64) :
    |(roundHalfUp number : ℚ) - number.value| ≤ 1 / 2 := by
  have positive : (0 : ℚ) < number.denominator := by exact_mod_cast number.denominator_pos
  have above := Nat.div_mul_le_self (2 * number.numerator + number.denominator)
    (2 * number.denominator)
  have below := Nat.lt_mul_div_succ (2 * number.numerator + number.denominator)
    (Nat.mul_pos two_pos number.denominator_pos)
  have aboveCast : (roundHalfUp number : ℚ) * (2 * number.denominator) ≤
      2 * number.numerator + number.denominator := by
    exact_mod_cast above
  have belowCast : 2 * (number.numerator : ℚ) + number.denominator <
      2 * number.denominator * (roundHalfUp number + 1) := by
    exact_mod_cast below
  rw [Binary64.value_eq_ratio]
  have split : (number.numerator : ℚ) / number.denominator * number.denominator =
      number.numerator := div_mul_cancel₀ _ positive.ne'
  rw [abs_le]
  constructor <;> nlinarith

theorem tiny : (2 : ℚ) ^ (-1000 : Int) ≤ 1 / 2 ^ 40 := by
  rw [one_div, ← zpow_natCast, ← zpow_neg]
  exact zpow_le_zpow_right₀ one_le_two (by norm_num)

/--
A side is as long as a length rounded to a whole number of at least one.
The length is known up to three parts in `2 ^ 53`.
-/
def Rounds (side : Nat) (length : ℚ) : Prop :=
  ∃ whole : Nat, side = max 1 whole ∧ |(whole : ℚ) - length| ≤ 1 / 2 + 3 * length / 2 ^ 53

/-- A side that is scaled is as long as it has to be. -/
theorem rounds_scaledSide {side : Nat} (positive : 0 < side) (small : side < 2 ^ 53)
    {number : Binary64} {ratio : ℚ} (large : 1 / 2 ^ 32 ≤ ratio) (near : number.Near ratio) :
    Rounds (scaledSide side number) (side * ratio) := by
  have exact := Binary64.value_ofNat small
  have sidePos : (1 : ℚ) ≤ side := by exact_mod_cast positive
  obtain ⟨below, above⟩ := abs_le.1 near
  have numberLarge : 1 / 2 ^ 40 ≤ number.value := by linarith
  have product : (1 : ℚ) / 2 ^ 40 ≤ side * number.value := by nlinarith
  have rounded : ((Binary64.ofNat side).multiply number).Near (side * number.value) := by
    rw [← exact] at product sidePos ⊢
    exact Binary64.near_multiply (by linarith) (by linarith) (tiny.trans product)
  have rounding := abs_le.1 (roundHalfUp_error ((Binary64.ofNat side).multiply number))
  obtain ⟨lower, upper⟩ := abs_le.1 rounded
  have scaledBelow : side * ratio - side * ratio / 2 ^ 53 ≤ side * number.value := by nlinarith
  have scaledAbove : side * number.value ≤ side * ratio + side * ratio / 2 ^ 53 := by nlinarith
  refine ⟨_, rfl, abs_le.2 ⟨?_, ?_⟩⟩ <;> linarith

/-- The lesser of two ratios decides how large a picture is that is fitted into a box. -/
theorem rounds_fitted (boxWidth boxHeight : Nat)
    (widthPos : 0 < width) (widthWord : width < 2 ^ 32)
    (heightPos : 0 < height) (heightWord : height < 2 ^ 32)
    (boxWidthPos : 0 < boxWidth) (boxWidthWord : boxWidth < 2 ^ 32)
    (boxHeightPos : 0 < boxHeight) (boxHeightWord : boxHeight < 2 ^ 32) :
    let ratio : ℚ := min (boxWidth / width) (boxHeight / height)
    Rounds (fitted width height boxWidth boxHeight).1 (width * ratio) ∧
      Rounds (fitted width height boxWidth boxHeight).2 (height * ratio) := by
  have quotient {side box : Nat} (sidePos : 0 < side) (sideWord : side < 2 ^ 32)
      (boxPos : 0 < box) (boxWord : box < 2 ^ 32) : (1 : ℚ) / 2 ^ 32 ≤ box / side ∧
        ((Binary64.ofNat box).divide (.ofNat side)).Near (box / side) := by
    have sideExact : (Binary64.ofNat side).value = side := Binary64.value_ofNat (by omega)
    have boxExact : (Binary64.ofNat box).value = box := Binary64.value_ofNat (by omega)
    have sideSome : (0 : ℚ) < side := by exact_mod_cast sidePos
    have boxSome : (1 : ℚ) ≤ box := by exact_mod_cast boxPos
    have sideSmall : (side : ℚ) < 2 ^ 32 := by exact_mod_cast sideWord
    have large : (1 : ℚ) / 2 ^ 32 ≤ box / side := by
      rw [le_div_iff₀ sideSome]
      linarith
    have enough : (1 : ℚ) / 2 ^ 40 ≤ box / side := by linarith
    refine ⟨large, ?_⟩
    rw [← sideExact, ← boxExact] at enough ⊢
    refine Binary64.near_divide ?_ ?_ (tiny.trans enough)
    · rw [boxExact]
      linarith
    · rwa [sideExact]
  obtain ⟨acrossLarge, across⟩ := quotient widthPos widthWord boxWidthPos boxWidthWord
  obtain ⟨downLarge, down⟩ := quotient heightPos heightWord boxHeightPos boxHeightWord
  have near := across.min down
  have large := le_min acrossLarge downLarge
  exact ⟨rounds_scaledSide widthPos (by omega) large near,
    rounds_scaledSide heightPos (by omega) large near⟩

end Fitting

section Thumbnails

/-- The height of the box for a wide picture: a quotient of words of 64 bits, cut to 32 bits. -/
def boxHeight (width height : UInt32) : UInt32 :=
  let quotient := height.toUInt64 * 320 / width.toUInt64
  (if quotient < 1 then 1 else quotient).toUInt32

/-- Neither the product nor the quotient is cut. -/
theorem toNat_boxHeight {width height : UInt32} (wide : thumbnailWidth < width.toNat) :
    (boxHeight width height).toNat = max 1 (height.toNat * thumbnailWidth / width.toNat) := by
  have product : (height.toUInt64 * 320).toNat = height.toNat * thumbnailWidth := by
    have small : height.toNat * 320 < 2 ^ 64 := by
      have word := height.toNat_lt
      omega
    rw [UInt64.toNat_mul, UInt32.toNat_toUInt64]
    exact Nat.mod_eq_of_lt small
  have quotient : (height.toUInt64 * 320 / width.toUInt64).toNat =
      height.toNat * thumbnailWidth / width.toNat := by
    rw [UInt64.toNat_div, product, UInt32.toNat_toUInt64]
  have short : height.toNat * thumbnailWidth / width.toNat < 2 ^ 32 := by
    refine lt_of_le_of_lt (Nat.div_le_of_le_mul ?_) height.toNat_lt
    rw [Nat.mul_comm]
    exact Nat.mul_le_mul_right _ wide.le
  unfold boxHeight
  simp only [UInt64.lt_iff_toNat_lt, quotient]
  split
  · next less =>
    have none : height.toNat * thumbnailWidth / width.toNat = 0 := Nat.lt_one_iff.1 less
    rw [none]
    rfl
  · next more =>
    have some : 1 ≤ height.toNat * thumbnailWidth / width.toNat := Nat.not_lt.1 more
    rw [UInt64.toNat_toUInt32, quotient, max_eq_right some]
    exact Nat.mod_eq_of_lt short

/-- A length that is whole is kept. -/
theorem Rounds.eq_of_whole {side whole : Nat} (rounds : Rounds side whole) (positive : 0 < whole)
    (small : whole < 2 ^ 40) : side = whole := by
  obtain ⟨rounded, rfl, error⟩ := rounds
  obtain ⟨below, above⟩ := abs_le.1 error
  have bound : (whole : ℚ) < 2 ^ 40 := by exact_mod_cast small
  have less : (whole : ℚ) < rounded + 1 := by linarith
  have more : (rounded : ℚ) < whole + 1 := by linarith
  have least : whole < rounded + 1 := by exact_mod_cast less
  have most : rounded < whole + 1 := by exact_mod_cast more
  omega

/--
The size of the thumbnail of a picture that is too wide.
The height is the one of the box. The width is nearest to the one that keeps the proportions with
this height, or that of the box when the height would be nothing.
-/
structure Shrinks (width height : Nat) (size : Nat × Nat) : Prop where
  high : size.2 = max 1 (height * thumbnailWidth / width)
  below : width ≤ height * thumbnailWidth →
    2 * (width * size.2) ≤ 2 * (size.1 * height) + height
  above : width ≤ height * thumbnailWidth →
    2 * (size.1 * height) ≤ 2 * (width * size.2) + height
  flat : height * thumbnailWidth < width → size.1 = thumbnailWidth
  even : width ∣ height * thumbnailWidth → size.1 = thumbnailWidth
  least : thumbnailWidth / 2 ≤ size.1
  most : size.1 ≤ thumbnailWidth

/-- A picture whose height would be nothing is fitted by its width. -/
theorem shrinks_of_flat (wide : thumbnailWidth < width) (widthWord : width < 2 ^ 32)
    (heightPos : 0 < height) (flat : height * thumbnailWidth < width) :
    Shrinks width height (fitted width height thumbnailWidth 1) := by
  have nothing : height * thumbnailWidth / width = 0 := Nat.div_eq_of_lt flat
  unfold thumbnailWidth at wide flat
  have widthPos : (0 : ℚ) < width := by exact_mod_cast (by omega : 0 < width)
  have heightSome : (0 : ℚ) < height := by exact_mod_cast heightPos
  have flatCast : (height : ℚ) * 320 < width := by exact_mod_cast flat
  have order : ((thumbnailWidth : Nat) : ℚ) / width ≤ ((1 : Nat) : ℚ) / height := by
    rw [div_le_div_iff₀ widthPos heightSome]
    norm_num [thumbnailWidth]
    linarith
  obtain ⟨across, down⟩ := rounds_fitted thumbnailWidth 1 (by omega : 0 < width) widthWord heightPos
    (by omega) (by decide) (by decide) Nat.one_pos (by decide)
  rw [min_eq_left order] at across down
  rw [mul_div_cancel₀ _ widthPos.ne'] at across
  have full := across.eq_of_whole (by decide) (by decide)
  have high : (fitted width height thumbnailWidth 1).2 = 1 := by
    obtain ⟨whole, rounded, error⟩ := down
    have short : (height : ℚ) * (thumbnailWidth / width) < 1 := by
      rw [← mul_div_assoc, div_lt_one widthPos]
      exact flatCast
    obtain ⟨-, above⟩ := abs_le.1 error
    have less : (whole : ℚ) < 2 := by linarith
    have least : whole < 2 := by exact_mod_cast less
    omega
  refine ⟨?_, fun tall => ?_, fun tall => ?_, fun _ => full, fun _ => full, ?_, full.le⟩
  · rw [high, nothing]
    rfl
  · unfold thumbnailWidth at tall
    omega
  · unfold thumbnailWidth at tall
    omega
  · rw [full]
    decide

/-- The width that keeps the proportions is rounded to the nearest whole number. -/
theorem nearest_of_rounds {box side : Nat} (heightPos : 0 < height) (heightWord : height < 2 ^ 32)
    (boxPos : 0 < box) (boxFits : box * width ≤ height * 320)
    (boxAlmost : height * 320 < width * (box + 1))
    (rounds : Rounds side (width * (box / height))) :
    2 * (width * box) ≤ 2 * (side * height) + height ∧
      2 * (side * height) ≤ 2 * (width * box) + height := by
  obtain ⟨whole, rfl, error⟩ := rounds
  have heightSome : (0 : ℚ) < height := by exact_mod_cast heightPos
  have heightSmall : (height : ℚ) < 2 ^ 32 := by exact_mod_cast heightWord
  have boxFitsCast : (box : ℚ) * width ≤ height * 320 := by exact_mod_cast boxFits
  have length : (width : ℚ) * (box / height) * height = width * box := by
    rw [mul_assoc, div_mul_cancel₀ _ heightSome.ne']
  have long : height * 320 < width * box * 2 := by nlinarith
  have longCast : (height : ℚ) * 320 < width * box * 2 := by exact_mod_cast long
  generalize (width : ℚ) * (box / height) = exact at *
  obtain ⟨below, above⟩ := abs_le.1 error
  have exactMost : exact ≤ 320 := by nlinarith
  have exactLeast : 160 < exact := by nlinarith
  have some : 1 ≤ whole := by
    have large : (0 : ℚ) < whole := by linarith
    exact_mod_cast large
  rw [max_eq_right some]
  have slack : (1 / 2 + 3 * exact / 2 ^ 53) * height * 2 < height + 1 := by nlinarith
  have belowCast : 2 * ((width : ℚ) * box) < 2 * (whole * height) + height + 1 := by nlinarith
  have aboveCast : 2 * ((whole : ℚ) * height) < 2 * (width * box) + height + 1 := by nlinarith
  have belowNat : 2 * (width * box) < 2 * (whole * height) + height + 1 := by
    exact_mod_cast belowCast
  have aboveNat : 2 * (whole * height) < 2 * (width * box) + height + 1 := by
    exact_mod_cast aboveCast
  omega

/-- Another picture is fitted by the height of its box. -/
theorem shrinks_of_tall (wide : thumbnailWidth < width) (widthWord : width < 2 ^ 32)
    (heightWord : height < 2 ^ 32) (tall : width ≤ height * thumbnailWidth) :
    Shrinks width height
      (fitted width height thumbnailWidth (height * thumbnailWidth / width)) := by
  have widthNat : 0 < width := Nat.zero_lt_of_lt wide
  have heightNat : 0 < height := by
    rcases Nat.eq_zero_or_pos height with rfl | positive
    · omega
    · exact positive
  have boxPos : 0 < height * thumbnailWidth / width := Nat.div_pos tall widthNat
  have boxFits : height * thumbnailWidth / width * width ≤ height * thumbnailWidth :=
    Nat.div_mul_le_self ..
  have boxAlmost : height * thumbnailWidth < width * (height * thumbnailWidth / width + 1) :=
    Nat.lt_mul_div_succ _ widthNat
  have boxWord : height * thumbnailWidth / width < 2 ^ 32 := by
    refine lt_of_le_of_lt ?_ heightWord
    exact Nat.div_le_of_le_mul (by rw [Nat.mul_comm]; exact Nat.mul_le_mul_right _ wide.le)
  have boxEven : width ∣ height * thumbnailWidth →
      height * thumbnailWidth / width * width = height * thumbnailWidth := Nat.div_mul_cancel
  generalize boxIs : height * thumbnailWidth / width = box at *
  have widthPos : (0 : ℚ) < width := by exact_mod_cast widthNat
  have heightPos : (0 : ℚ) < height := by exact_mod_cast heightNat
  have boxFitsCast : (box : ℚ) * width ≤ height * thumbnailWidth := by exact_mod_cast boxFits
  have order : (box : ℚ) / height ≤ (thumbnailWidth : Nat) / width := by
    rw [div_le_div_iff₀ heightPos widthPos]
    linarith
  obtain ⟨across, down⟩ := rounds_fitted thumbnailWidth box widthNat widthWord heightNat heightWord
    (by decide) (by decide) boxPos boxWord
  rw [min_eq_right order] at across down
  rw [mul_div_cancel₀ _ heightPos.ne'] at down
  have high := down.eq_of_whole boxPos (by omega)
  obtain ⟨below, above⟩ :=
    nearest_of_rounds heightNat heightWord boxPos boxFits boxAlmost across
  have most : (fitted width height thumbnailWidth box).1 ≤ thumbnailWidth := by
    unfold thumbnailWidth at *
    nlinarith
  have least : thumbnailWidth / 2 ≤ (fitted width height thumbnailWidth box).1 := by
    unfold thumbnailWidth at *
    nlinarith
  refine ⟨?_, fun _ => ?_, fun _ => ?_, fun flat => absurd tall (by omega), fun even => ?_,
    least, most⟩
  · rw [high, boxIs, max_eq_right boxPos]
  · rwa [high]
  · rwa [high]
  · have whole : (width : ℚ) * (box / height) = (thumbnailWidth : Nat) := by
      rw [← mul_div_assoc, div_eq_iff heightPos.ne']
      have product := boxEven even
      rw [Nat.mul_comm, Nat.mul_comm height] at product
      exact_mod_cast product
    rw [whole] at across
    exact across.eq_of_whole (by decide) (by decide)

/-- The thumbnail of a picture that is too wide is fitted by its width or by its height. -/
theorem shrinks_thumbnailSize (wide : thumbnailWidth < width) (widthWord : width < 2 ^ 32)
    (heightPos : 0 < height) (heightWord : height < 2 ^ 32) :
    Shrinks width height (thumbnailSize width height) := by
  rw [thumbnailSize, if_pos wide]
  rcases Nat.lt_or_ge (height * thumbnailWidth) width with flat | tall
  · rw [Nat.div_eq_of_lt flat]
    exact shrinks_of_flat wide widthWord heightPos flat
  · have some : 1 ≤ height * thumbnailWidth / width := Nat.div_pos tall (Nat.zero_lt_of_lt wide)
    rw [max_eq_right some]
    exact shrinks_of_tall wide widthWord heightWord tall

/-- A thumbnail is not empty, and no side of it is longer than that of its picture. -/
theorem sides_thumbnailSize (widthPos : 0 < width) (widthWord : width < 2 ^ 32)
    (heightPos : 0 < height) (heightWord : height < 2 ^ 32) :
    (0 < (thumbnailSize width height).1 ∧ (thumbnailSize width height).1 ≤ width) ∧
      0 < (thumbnailSize width height).2 ∧ (thumbnailSize width height).2 ≤ height := by
  rcases Nat.lt_or_ge thumbnailWidth width with wide | narrow
  · have shrinks := shrinks_thumbnailSize wide widthWord heightPos heightWord
    have short : height * thumbnailWidth / width ≤ height := by
      refine Nat.div_le_of_le_mul ?_
      rw [Nat.mul_comm]
      exact Nat.mul_le_mul_right _ wide.le
    have least : 0 < thumbnailWidth / 2 := by decide
    refine ⟨⟨least.trans_le shrinks.least, shrinks.most.trans wide.le⟩, ?_⟩
    rw [shrinks.high]
    exact ⟨Nat.lt_of_lt_of_le Nat.one_pos (le_max_left ..), max_le heightPos short⟩
  · rw [thumbnailSize, if_neg (Nat.not_lt.2 narrow)]
    exact ⟨⟨widthPos, le_rfl⟩, heightPos, le_rfl⟩

end Thumbnails

end StepRunner.Raster
