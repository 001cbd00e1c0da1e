import Mathlib.Algebra.Order.Field.Power
import Mathlib.Algebra.Order.Field.Rat
import Mathlib.Tactic.FieldSimp
import Mathlib.Tactic.Linarith
import Mathlib.Tactic.NormNum
import Mathlib.Tactic.Positivity
import Mathlib.Tactic.Ring
import StepRunner.Number.Binary64

/-!
This file bounds the error of a rounding to the nearest binary64 value.
Unless a ratio is tiny, its mantissa has 53 bits, and the error is at most one part in `2 ^ 53`.
-/

namespace StepRunner.Number

namespace Binary64

/-- The exact value as a rational number. -/
def value (number : Binary64) : ℚ := number.mantissa * (2 : ℚ) ^ number.exponent

variable {top bottom : Nat} {exponent : Int}

section Values

theorem two_zpow_of_neg (negative : exponent < 0) :
    (2 : ℚ) ^ exponent = ((Nat.pow 2 (-exponent).toNat : Nat) : ℚ)⁻¹ := by
  obtain ⟨size, rfl⟩ : ∃ size : Nat, exponent = -(size : Int) := ⟨(-exponent).toNat, by omega⟩
  simp [Nat.pow_eq]

theorem two_zpow_of_nonneg (whole : ¬exponent < 0) :
    (2 : ℚ) ^ exponent = ((Nat.pow 2 exponent.toNat : Nat) : ℚ) := by
  obtain ⟨size, rfl⟩ := Int.eq_ofNat_of_zero_le (Int.not_lt.1 whole)
  simp [Nat.pow_eq]

theorem value_eq_ratio (number : Binary64) :
    number.value = (number.numerator : ℚ) / number.denominator := by
  unfold value Binary64.numerator Binary64.denominator
  split
  · next negative => rw [two_zpow_of_neg negative, div_eq_mul_inv]
  · next whole => rw [two_zpow_of_nonneg whole, Nat.cast_mul, Nat.cast_one, div_one]

/-- One value is less than another exactly if their quotients are. -/
theorem less_iff (left right : Binary64) : left.less right = true ↔ left.value < right.value := by
  have leftPos : (0 : ℚ) < left.denominator := by exact_mod_cast left.denominator_pos
  have rightPos : (0 : ℚ) < right.denominator := by exact_mod_cast right.denominator_pos
  rw [value_eq_ratio, value_eq_ratio, div_lt_div_iff₀ leftPos rightPos, less, decide_eq_true_iff]
  exact_mod_cast Iff.rfl

end Values

section Scaling

/-- Scaling a ratio by a power of two divides its value by that power. -/
theorem scaled_ratio (top bottom : Nat) (exponent : Int) :
    ((scaled top bottom exponent).1 : ℚ) / (scaled top bottom exponent).2 =
      top / bottom * (2 : ℚ) ^ (-exponent) := by
  unfold scaled
  split
  · next negative =>
    rw [zpow_neg, two_zpow_of_neg negative, inv_inv, Nat.cast_mul, mul_div_right_comm]
  · next whole =>
    rw [zpow_neg, two_zpow_of_nonneg whole, Nat.cast_mul, div_mul_eq_div_div,
      div_eq_mul_inv (_ / _)]

theorem scaled_pos (top : Nat) (positive : 0 < bottom) (exponent : Int) :
    0 < (scaled top bottom exponent).2 := by
  unfold scaled
  split
  · exact positive
  · exact Nat.mul_pos positive (Nat.two_pow_pos _)

/-- The lengths of two numbers in bits bound their quotient from below. -/
theorem lt_ratio_of_log2 (topPos : 0 < top) (bottomPos : 0 < bottom) :
    (2 : ℚ) ^ ((top.log2 : Int) - bottom.log2 - 1) < top / bottom := by
  have above : (2 : ℚ) ^ (top.log2 : Int) ≤ top := by
    rw [zpow_natCast]
    exact_mod_cast Nat.log2_self_le topPos.ne'
  have below : (bottom : ℚ) < (2 : ℚ) ^ ((bottom.log2 : Int) + 1) := by
    have bits : bottom < 2 ^ (bottom.log2 + 1) := Nat.lt_log2_self
    exact_mod_cast bits
  have positive : (0 : ℚ) < bottom := by exact_mod_cast bottomPos
  rw [lt_div_iff₀ positive]
  calc (2 : ℚ) ^ ((top.log2 : Int) - bottom.log2 - 1) * bottom
      < 2 ^ ((top.log2 : Int) - bottom.log2 - 1) * 2 ^ ((bottom.log2 : Int) + 1) :=
        mul_lt_mul_of_pos_left below (by positivity)
    _ = 2 ^ (top.log2 : Int) := by
        rw [← zpow_add₀ two_ne_zero]
        congr 1
        ring
    _ ≤ top := above

/-- The quotient of two numbers bounds the difference of their lengths in bits from below. -/
theorem le_log2_of_ratio (bottomPos : 0 < bottom) {bits : Int}
    (large : (2 : ℚ) ^ bits ≤ top / bottom) : bits ≤ (top.log2 : Int) - bottom.log2 := by
  have above : (bottom : ℚ) ≥ (2 : ℚ) ^ (bottom.log2 : Int) := by
    rw [zpow_natCast]
    exact_mod_cast Nat.log2_self_le bottomPos.ne'
  have below : (top : ℚ) < (2 : ℚ) ^ ((top.log2 : Int) + 1) := by
    have bits : top < 2 ^ (top.log2 + 1) := Nat.lt_log2_self
    exact_mod_cast bits
  have positive : (0 : ℚ) < bottom := by exact_mod_cast bottomPos
  rw [le_div_iff₀ positive] at large
  have powers : (2 : ℚ) ^ (bits + bottom.log2) < 2 ^ ((top.log2 : Int) + 1) := by
    calc (2 : ℚ) ^ (bits + bottom.log2) = 2 ^ bits * 2 ^ (bottom.log2 : Int) :=
          zpow_add₀ two_ne_zero ..
      _ ≤ 2 ^ bits * bottom := mul_le_mul_of_nonneg_left above (by positivity)
      _ ≤ top := large
      _ < 2 ^ ((top.log2 : Int) + 1) := below
  have less := (zpow_lt_zpow_iff_right₀ one_lt_two).1 powers
  omega

/-- Unless a ratio is tiny, its mantissa has 53 bits. -/
theorem mantissa_large (topPos : 0 < top) (bottomPos : 0 < bottom)
    (large : (2 : ℚ) ^ (-1000 : Int) ≤ top / bottom) :
    (2 : ℚ) ^ 52 ≤ top / bottom * 2 ^ (-exponentOf top bottom) := by
  have bits := le_log2_of_ratio bottomPos large
  have above := lt_ratio_of_log2 topPos bottomPos
  unfold exponentOf leastExponent
  simp only
  split
  · next short =>
    rw [max_eq_left (by omega)]
    calc (2 : ℚ) ^ 52 = 2 ^ ((top.log2 : Int) - bottom.log2 - 1) *
          2 ^ (-((top.log2 : Int) - bottom.log2 - 52 - 1)) := by
          rw [← zpow_natCast, ← zpow_add₀ two_ne_zero]
          congr 1
          push_cast
          ring
      _ ≤ top / bottom * 2 ^ (-((top.log2 : Int) - bottom.log2 - 52 - 1)) :=
          mul_le_mul_of_nonneg_right above.le (by positivity)
  · next long =>
    rw [max_eq_left (by omega), ← scaled_ratio]
    have positive := scaled_pos top bottomPos ((top.log2 : Int) - bottom.log2 - 52)
    have enough := (Nat.le_div_iff_mul_le positive).1 (Nat.le_of_not_lt long)
    rw [le_div_iff₀ (by exact_mod_cast positive)]
    exact_mod_cast enough

end Scaling

section Nearest

/-- A carry into another bit leaves the value as it is. -/
theorem value_nearest (positive : 0 < top) (bottom : Nat) :
    (nearest top bottom).value =
      divideRound (scaled top bottom (exponentOf top bottom)).1
          (scaled top bottom (exponentOf top bottom)).2 *
        (2 : ℚ) ^ exponentOf top bottom := by
  simp only [nearest, positive.ne', if_false]
  split
  · next carry =>
    rw [carry]
    simp only [value, Nat.pow_eq]
    rw [zpow_add₀ two_ne_zero]
    push_cast
    ring
  · rfl

/-- The error of a rounding to a whole number is at most a half. -/
theorem divideRound_error (top : Nat) (positive : 0 < bottom) :
    |(divideRound top bottom : ℚ) - top / bottom| ≤ 1 / 2 := by
  obtain ⟨above, below⟩ := divideRound_within_half top bottom positive
  have bottomPos : (0 : ℚ) < bottom := by exact_mod_cast positive
  have aboveCast : 2 * ((bottom : ℚ) * divideRound top bottom) ≤ 2 * top + bottom := by
    exact_mod_cast above
  have belowCast : 2 * (top : ℚ) ≤ 2 * (bottom * divideRound top bottom) + bottom := by
    exact_mod_cast below
  have split : (top : ℚ) / bottom * bottom = top := div_mul_cancel₀ _ bottomPos.ne'
  rw [abs_le]
  constructor <;> nlinarith

/-- The error of a rounding is at most one part in `2 ^ 53`, unless the ratio is tiny. -/
theorem nearest_error (topPos : 0 < top) (bottomPos : 0 < bottom)
    (large : (2 : ℚ) ^ (-1000 : Int) ≤ top / bottom) :
    |(nearest top bottom).value - top / bottom| ≤ top / bottom / 2 ^ 53 := by
  have mantissa := mantissa_large topPos bottomPos large
  have error := divideRound_error (scaled top bottom (exponentOf top bottom)).1
    (scaled_pos top bottomPos (exponentOf top bottom))
  rw [scaled_ratio] at error
  rw [value_nearest topPos]
  generalize (top : ℚ) / bottom = ratio at *
  generalize exponentOf top bottom = exponent at *
  generalize ((divideRound _ _ : Nat) : ℚ) = rounded at *
  have unit : (0 : ℚ) < 2 ^ exponent := by positivity
  have whole : ratio * 2 ^ (-exponent) * 2 ^ exponent = ratio := by
    rw [mul_assoc, ← zpow_add₀ two_ne_zero, neg_add_cancel, zpow_zero, mul_one]
  calc |rounded * 2 ^ exponent - ratio|
      = |rounded - ratio * 2 ^ (-exponent)| * 2 ^ exponent := by
        rw [← abs_of_pos unit, ← abs_mul, abs_of_pos unit, sub_mul, whole]
    _ ≤ 1 / 2 * 2 ^ exponent := mul_le_mul_of_nonneg_right error unit.le
    _ ≤ ratio / 2 ^ 53 := by
        have digits := mul_le_mul_of_nonneg_right mantissa unit.le
        rw [whole] at digits
        linarith

theorem divideRound_one (number : Nat) : divideRound number 1 = number := by
  simp [divideRound, Nat.mod_one]

/-- The mantissa of a number below `2 ^ 53` holds all its bits. -/
theorem exponentOf_le_zero {number : Nat} (positive : 0 < number) (small : number < 2 ^ 53) :
    exponentOf number 1 ≤ 0 := by
  have atLeastOne : (1 : ℚ) ≤ number := by exact_mod_cast positive
  have large : (2 : ℚ) ^ (-1000 : Int) ≤ number / (1 : Nat) := by
    rw [Nat.cast_one, div_one]
    exact (zpow_le_one_of_nonpos₀ one_le_two (by norm_num)).trans atLeastOne
  have mantissa := mantissa_large positive Nat.one_pos large
  by_contra above
  have half : (2 : ℚ) ^ (-exponentOf number 1) ≤ 2 ^ (-1 : Int) :=
    zpow_le_zpow_right₀ one_le_two (by omega)
  have bits : (number : ℚ) < 2 ^ 53 := by exact_mod_cast small
  rw [Nat.cast_one, div_one] at mantissa
  have halved : (number : ℚ) * 2 ^ (-exponentOf number 1) ≤ number * 2 ^ (-1 : Int) :=
    mul_le_mul_of_nonneg_left half (by positivity)
  have short := mantissa.trans halved
  rw [zpow_neg_one] at short
  linarith only [short, bits]

/-- A number below `2 ^ 53` is a value itself. -/
theorem value_ofNat {number : Nat} (small : number < 2 ^ 53) : (ofNat number).value = number := by
  rcases Nat.eq_zero_or_pos number with rfl | positive
  · simp [ofNat, nearest, value]
  · have exact := exponentOf_le_zero positive small
    have whole : (scaled number 1 (exponentOf number 1)).2 = 1 := by
      unfold scaled
      split
      · rfl
      · next zero =>
        have none : exponentOf number 1 = 0 := by omega
        rw [none]
        rfl
    have ratio := scaled_ratio number 1 (exponentOf number 1)
    rw [whole, Nat.cast_one, div_one, div_one] at ratio
    rw [ofNat, value_nearest positive, whole, divideRound_one, ratio, mul_assoc,
      ← zpow_add₀ two_ne_zero, neg_add_cancel, zpow_zero, mul_one]

end Nearest

section Arithmetic

/-- A value stands for a ratio up to one part in `2 ^ 53`. -/
def Near (number : Binary64) (ratio : ℚ) : Prop :=
  |number.value - ratio| ≤ ratio / 2 ^ 53

theorem numerator_pos {number : Binary64} (positive : 0 < number.value) :
    0 < number.numerator := by
  rw [value_eq_ratio] at positive
  rcases Nat.eq_zero_or_pos number.numerator with zero | some
  · rw [zero, Nat.cast_zero, zero_div] at positive
    exact absurd positive (lt_irrefl 0)
  · exact some

variable {left right : Binary64}

/-- A quotient is rounded once. -/
theorem near_divide (leftPos : 0 < left.value) (rightPos : 0 < right.value)
    (large : (2 : ℚ) ^ (-1000 : Int) ≤ left.value / right.value) :
    (left.divide right).Near (left.value / right.value) := by
  have ratio : left.value / right.value =
      ((left.numerator * right.denominator : Nat) : ℚ) /
        (left.denominator * right.numerator : Nat) := by
    rw [value_eq_ratio, value_eq_ratio, div_div_div_eq, Nat.cast_mul, Nat.cast_mul]
  rw [ratio] at large ⊢
  exact nearest_error (Nat.mul_pos (numerator_pos leftPos) right.denominator_pos)
    (Nat.mul_pos left.denominator_pos (numerator_pos rightPos)) large

/-- A product is rounded once. -/
theorem near_multiply (leftPos : 0 < left.value) (rightPos : 0 < right.value)
    (large : (2 : ℚ) ^ (-1000 : Int) ≤ left.value * right.value) :
    (left.multiply right).Near (left.value * right.value) := by
  have ratio : left.value * right.value =
      ((left.numerator * right.numerator : Nat) : ℚ) /
        (left.denominator * right.denominator : Nat) := by
    rw [value_eq_ratio, value_eq_ratio, div_mul_div_comm, Nat.cast_mul, Nat.cast_mul]
  rw [ratio] at large ⊢
  exact nearest_error (Nat.mul_pos (numerator_pos leftPos) (numerator_pos rightPos))
    (Nat.mul_pos left.denominator_pos right.denominator_pos) large

/-- The lesser of two values stands for the lesser of their ratios. -/
theorem Near.min {first second : ℚ} (leftNear : left.Near first) (rightNear : right.Near second) :
    (if right.less left then right else left).Near (min first second) := by
  unfold Near at *
  have leftBounds := abs_le.1 leftNear
  have rightBounds := abs_le.1 rightNear
  split
  · next less =>
    have values := (less_iff right left).1 less
    rcases le_total first second with order | order
    · rw [min_eq_left order, abs_le]
      constructor <;> linarith
    · rwa [min_eq_right order]
  · next more =>
    have values : left.value ≤ right.value := not_lt.1 fun less => more ((less_iff _ _).2 less)
    rcases le_total first second with order | order
    · rwa [min_eq_left order]
    · rw [min_eq_right order, abs_le]
      constructor <;> linarith

end Arithmetic

end Binary64

end StepRunner.Number
