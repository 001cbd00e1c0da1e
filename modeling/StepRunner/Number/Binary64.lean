/-!
This file rounds non-negative ratios to binary64 values.
A value is kept as an exact pair, so that every later computation on it is exact.
-/

namespace StepRunner.Number

/-- The quotient rounded to a whole number; a half goes to the even neighbour. -/
def divideRound (numerator denominator : Nat) : Nat :=
  let quotient := numerator / denominator
  let remainder := numerator % denominator
  if 2 * remainder < denominator then quotient
  else if denominator < 2 * remainder then quotient + 1
  else quotient + quotient % 2

/-- A non-negative binary64 value is `mantissa * 2 ^ exponent`. -/
structure Binary64 where
  mantissa : Nat
  exponent : Int
  deriving DecidableEq, Repr

namespace Binary64

/-- The value of a ratio as a fraction of two natural numbers, after a scaling by two's powers. -/
def scaled (numerator denominator : Nat) (exponent : Int) : Nat × Nat :=
  if exponent < 0 then (numerator * Nat.pow 2 (-exponent).toNat, denominator)
  else (numerator, denominator * Nat.pow 2 exponent.toNat)

/-- The least exponent of a binary64 value. -/
def leastExponent : Int := -1074

/-- The exponent for which the mantissa of a positive ratio has 53 bits, or the least one. -/
def exponentOf (numerator denominator : Nat) : Int :=
  let guess : Int := (numerator.log2 : Int) - (denominator.log2 : Int) - 52
  let (top, bottom) := scaled numerator denominator guess
  let exact := if top / bottom < Nat.pow 2 52 then guess - 1 else guess
  max exact leastExponent

/--
The binary64 value nearest to a ratio; a tie goes to the even mantissa.
The ratios of this program lie far below the largest binary64 value.
-/
def nearest (numerator denominator : Nat) : Binary64 :=
  if numerator = 0 then ⟨0, 0⟩
  else
    let exponent := exponentOf numerator denominator
    let (top, bottom) := scaled numerator denominator exponent
    let mantissa := divideRound top bottom
    if mantissa = Nat.pow 2 53 then ⟨Nat.pow 2 52, exponent + 1⟩ else ⟨mantissa, exponent⟩

/-- The numerator of the value as a fraction. -/
def numerator (value : Binary64) : Nat :=
  if value.exponent < 0 then value.mantissa
  else value.mantissa * Nat.pow 2 value.exponent.toNat

/-- The denominator of the value as a fraction. -/
def denominator (value : Binary64) : Nat :=
  if value.exponent < 0 then Nat.pow 2 (-value.exponent).toNat else 1

/-- The sum of two values, rounded to the nearest value. -/
def add (left right : Binary64) : Binary64 :=
  nearest (left.numerator * right.denominator + right.numerator * left.denominator)
    (left.denominator * right.denominator)

/-- The quotient of two values, rounded to the nearest value. -/
def divide (left right : Binary64) : Binary64 :=
  nearest (left.numerator * right.denominator) (left.denominator * right.numerator)

/-- The product of two values, rounded to the nearest value. -/
def multiply (left right : Binary64) : Binary64 :=
  nearest (left.numerator * right.numerator) (left.denominator * right.denominator)

/-- Compares two values. -/
def less (left right : Binary64) : Bool :=
  left.numerator * right.denominator < right.numerator * left.denominator

/-- The binary64 value nearest to a natural number. -/
def ofNat (value : Nat) : Binary64 :=
  nearest value 1

/-- The value times a factor, rounded to a whole number; a half goes to the even neighbour. -/
def timesRounded (value : Binary64) (factor : Nat) : Nat :=
  divideRound (value.numerator * factor) value.denominator

theorem denominator_pos (value : Binary64) : 0 < value.denominator := by
  unfold denominator
  split
  · exact Nat.two_pow_pos _
  · exact Nat.one_pos

end Binary64

/-- The quotient rounded to a whole number is within half a unit of the ratio. -/
theorem divideRound_within_half (numerator denominator : Nat) (positive : 0 < denominator) :
    2 * (denominator * divideRound numerator denominator) ≤ 2 * numerator + denominator ∧
      2 * numerator ≤ 2 * (denominator * divideRound numerator denominator) + denominator := by
  have split := Nat.div_add_mod numerator denominator
  have small := Nat.mod_lt numerator positive
  unfold divideRound
  simp only
  split
  · omega
  · split
    · rw [Nat.mul_add]
      omega
    · rcases Nat.mod_two_eq_zero_or_one (numerator / denominator) with even | odd
      · rw [even]
        simp only [Nat.add_zero]
        omega
      · rw [odd, Nat.mul_add]
        omega

end StepRunner.Number
