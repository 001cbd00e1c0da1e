import StepRunner.Number.Binary64
import StepRunner.Text.Digit

/-!
This file writes binary64 values in decimal.
`shortest` finds the fewest digits that read back as the value, and `fixedPlaces` rounds the
exact value to a number of places.
-/

namespace StepRunner.Number

/-- A decimal value is `digits * 10 ^ exponent`. -/
structure DecimalValue where
  digits : Nat
  exponent : Int
  deriving DecidableEq, Repr

namespace Binary64

/--
The reals that round to a value lie between these two quarters of its last mantissa bit.
Below a power of two the values stand twice as close.
-/
def lowerQuarters (value : Binary64) : Nat :=
  if value.mantissa = Nat.pow 2 52 ∧ leastExponent < value.exponent then 4 * value.mantissa - 1
  else 4 * value.mantissa - 2

/-- The upper end of the reals that round to a value, in quarters of its last mantissa bit. -/
def upperQuarters (value : Binary64) : Nat :=
  4 * value.mantissa + 2

/-- A decimal value as a fraction of two natural numbers. -/
def decimalFraction (digits : Nat) (exponent : Int) : Nat × Nat :=
  if exponent < 0 then (digits, Nat.pow 10 (-exponent).toNat)
  else (digits * Nat.pow 10 exponent.toNat, 1)

/-- A number of quarters of the last mantissa bit as a fraction. -/
def quarterFraction (quarters : Nat) (exponent : Int) : Nat × Nat :=
  if exponent < 2 then (quarters, Nat.pow 2 (2 - exponent).toNat)
  else (quarters * Nat.pow 2 (exponent - 2).toNat, 1)

/-- A decimal value reads back as a binary64 value when it lies among the reals that round to it. -/
def readsBack (value : Binary64) (digits : Nat) (exponent : Int) : Bool :=
  let (top, bottom) := decimalFraction digits exponent
  let (lowTop, lowBottom) := quarterFraction value.lowerQuarters value.exponent
  let (highTop, highBottom) := quarterFraction value.upperQuarters value.exponent
  let even := value.mantissa % 2 == 0
  (lowTop * bottom < top * lowBottom || (even && lowTop * bottom == top * lowBottom)) &&
    (top * highBottom < highTop * bottom || (even && top * highBottom == highTop * bottom))

/-- The number of decimal digits before the point, for values from one upwards. -/
def integerPlaces (value : Binary64) : Nat → Int → Int
  | 0, places => places
  | fuel + 1, places =>
    let (top, bottom) := decimalFraction 1 places
    if value.numerator * bottom < top * value.denominator then
      let (lowTop, lowBottom) := decimalFraction 1 (places - 1)
      if value.numerator * lowBottom < lowTop * value.denominator then
        integerPlaces value fuel (places - 1)
      else places
    else integerPlaces value fuel (places + 1)

/-- The point of a decimal grid just below the value. -/
def gridFloor (value : Binary64) (exponent : Int) : Nat :=
  let (top, bottom) := decimalFraction 1 exponent
  value.numerator * bottom / (value.denominator * top)

/-- The neighbour of the value on a decimal grid that reads back; of two the nearer. -/
def gridPoint? (value : Binary64) (exponent : Int) : Option Nat :=
  let low := gridFloor value exponent
  let high := low + 1
  match readsBack value low exponent, readsBack value high exponent with
  | false, false => none
  | true, false => some low
  | false, true => some high
  | true, true =>
    let (top, bottom) := decimalFraction (2 * low + 1) exponent
    if 2 * value.numerator * bottom ≤ top * value.denominator then some low else some high

/-- The first grid, from coarse to fine, with a point that reads back. -/
def firstGrid (value : Binary64) (places : Int) : List Nat → DecimalValue
  | [] => ⟨gridFloor value (places - 17), places - 17⟩
  | count :: finer =>
    match gridPoint? value (places - count) with
    | some digits => ⟨digits, places - count⟩
    | none => firstGrid value places finer

/-- The shortest decimal value that reads back as the binary64 value. -/
def shortest (value : Binary64) : DecimalValue :=
  if value.mantissa = 0 then ⟨0, 0⟩
  else firstGrid value (integerPlaces value 400 1) ((List.range 17).map (· + 1))

end Binary64

/-- Writes digits with the point a number of places from the right end. -/
def pointed (digits : List Char) (places : Nat) : List Char :=
  let padded := List.replicate (places + 1 - digits.length) '0' ++ digits
  padded.take (padded.length - places) ++ '.' :: padded.drop (padded.length - places)

/-- Writes a decimal value with neither an exponent nor needless zeros. -/
def plain (value : DecimalValue) : List Char :=
  if 0 ≤ value.exponent then Text.decimalDigits (value.digits * Nat.pow 10 value.exponent.toNat)
  else
    let places := (-value.exponent).toNat
    let text := pointed (Text.decimalDigits value.digits) places
    let kept := (text.reverse.dropWhile (· == '0')).reverse
    if kept.getLast? = some '.' then kept.dropLast else kept

/-- The shortest plain text that reads back as the value. -/
def Binary64.text (value : Binary64) : List Char :=
  plain value.shortest

/-- The text of the exact value with one decimal place; a half goes to the even digit. -/
def Binary64.oneDecimal (value : Binary64) : List Char :=
  pointed (Text.decimalDigits (value.timesRounded 10)) 1

end StepRunner.Number
