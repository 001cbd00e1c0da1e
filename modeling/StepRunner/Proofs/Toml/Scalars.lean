import Mathlib.Algebra.Group.Int.Defs
import Mathlib.Algebra.Group.Nat.Defs
import StepRunner.Proofs.Text.Digits
import StepRunner.Toml.Scalar

/-!
This file shows that whole numbers and truth values are read back from their text.
-/

namespace StepRunner.Toml

section Runs

variable {run rest : List Char} {value : Toml}

/-- A run of characters is judged as a whole when a line ends after it. -/
theorem readScalar?_of_run (inside : ∀ char ∈ run, isScalarChar char = true)
    (judged : scalar? run = some value) :
    readScalar? (run ++ '\n' :: rest) = some (value, '\n' :: rest) := by
  have span : Text.spanWhile isScalarChar (run ++ '\n' :: rest) = (run, '\n' :: rest) :=
    Text.spanWhile_of_head inside (by simp [show isScalarChar '\n' = false from rfl])
  simp [readScalar?, span, judged]

end Runs

section Digits

variable {digits : List Char} {value : Nat}

/-- What is written with digits holds no other mark. -/
theorem not_mem_of_digits (all : ∀ char ∈ digits, char.isDigit = true) {mark : Char}
    (other : mark.isDigit = false) : mark ∉ digits := by
  intro present
  rw [all mark present] at other
  cases other

theorem splitSign_of_digits (all : ∀ char ∈ digits, char.isDigit = true) :
    splitSign digits = (false, digits) := by
  unfold splitSign
  split
  · exact absurd (all _ List.mem_cons_self) (by decide)
  · exact absurd (all _ List.mem_cons_self) (by decide)
  · rfl

theorem isDate_eq_false (free : '-' ∉ digits) : isDate digits = false := by
  rw [isDate, Text.splitAt_of_not_mem free]

/-- Nothing comes after the first of the characters that do not occur. -/
theorem splitFirst?_eq_none {test : Char → Bool} (free : ∀ char ∈ digits, test char = false) :
    splitFirst? test digits = none := by
  have all : digits.dropWhile (fun char => !test char) = [] := by
    rw [List.dropWhile_eq_nil_iff]
    intro char present
    simp [free char present]
  rw [splitFirst?, all]

theorem isTime_eq_false (all : ∀ char ∈ digits, char.isDigit = true) : isTime digits = false := by
  have point : splitFirst? (· == '.') digits = none := splitFirst?_eq_none fun char present =>
    beq_false_of_ne fun same => not_mem_of_digits all rfl (same ▸ present)
  have colon := Text.splitAt_of_not_mem (not_mem_of_digits all (show ':'.isDigit = false from rfl))
  simp [isTime, point, colon]

/-- Digits alone are neither a date nor a time. -/
theorem isMoment_eq_false (all : ∀ char ∈ digits, char.isDigit = true) :
    isMoment digits = false := by
  have minus : '-' ∉ digits := not_mem_of_digits all rfl
  have front : isDate (digits.take 10) = false :=
    isDate_eq_false fun present => minus (List.mem_of_mem_take present)
  rw [isMoment, isDate_eq_false minus, isTime_eq_false all]
  split <;> simp [front]

/-- Digits alone have neither a fraction nor an exponent. -/
theorem isFloat_eq_false (all : ∀ char ∈ digits, char.isDigit = true) :
    isFloat digits = false := by
  have infinite : digits ≠ ['i', 'n', 'f'] := by
    rintro rfl
    exact absurd (all 'i' List.mem_cons_self) (by decide)
  have undefined : digits ≠ ['n', 'a', 'n'] := by
    rintro rfl
    exact absurd (all 'n' List.mem_cons_self) (by decide)
  have exponent : splitFirst? (fun char => char == 'e' || char == 'E') digits = none :=
    splitFirst?_eq_none fun char present => by
      have small : char ≠ 'e' := fun same => not_mem_of_digits all rfl (same ▸ present)
      have capital : char ≠ 'E' := fun same => not_mem_of_digits all rfl (same ▸ present)
      simp [small, capital]
  have point : splitFirst? (· == '.') digits = none := splitFirst?_eq_none fun char present =>
    beq_false_of_ne fun same => not_mem_of_digits all rfl (same ▸ present)
  simp [isFloat, splitSign_of_digits all, infinite, undefined, exponent, point]

theorem digits?_of_digits (all : ∀ char ∈ digits, char.isDigit = true) (filled : digits ≠ []) :
    digits? Char.isDigit digits = some digits := by
  have group := Text.splitAt_of_not_mem (not_mem_of_digits all (show '_'.isDigit = false from rfl))
  have every : digits.all Char.isDigit = true := List.all_eq_true.2 all
  simp [digits?, group, every, filled]

/-- The digits of a number are read as that number when it fits 64 bits with sign. -/
theorem integer?_decimalDigits (fits : value < 2 ^ 63) :
    integer? (Text.decimalDigits value) = some value := by
  have all : ∀ char ∈ Text.decimalDigits value, char.isDigit = true :=
    fun _ => Text.isDigit_of_mem_decimalDigits
  have filled := Text.decimalDigits_ne_nil value
  have decimal : decimal? (Text.decimalDigits value) = some (Text.decimalDigits value) := by
    have front : ¬((Text.decimalDigits value).head? = some '0' ∧
        Text.decimalDigits value ≠ ['0']) := by
      rintro ⟨zero, more⟩
      rcases value.eq_zero_or_pos with rfl | positive
      · exact more (Nat.toDigits_zero 10)
      · exact Text.head?_decimalDigits_ne positive zero
    rw [decimal?, digits?_of_digits all filled]
    exact if_neg front
  have range : inRange? false value = some (value : Int) := if_pos fits
  unfold integer?
  split
  · next same => exact absurd (all 'x' (same ▸ by simp)) (by decide)
  · next same => exact absurd (all 'o' (same ▸ by simp)) (by decide)
  · next same => exact absurd (all 'b' (same ▸ by simp)) (by decide)
  · simp [splitSign_of_digits all, decimal, range]

/-- The digits of a number that fits are judged as that number. -/
theorem scalar?_decimalDigits (fits : value < 2 ^ 63) :
    scalar? (Text.decimalDigits value) = some (.integer value) := by
  have all : ∀ char ∈ Text.decimalDigits value, char.isDigit = true :=
    fun _ => Text.isDigit_of_mem_decimalDigits
  have yes : Text.decimalDigits value ≠ ['t', 'r', 'u', 'e'] := fun same =>
    absurd (all 't' (same ▸ List.mem_cons_self)) (by decide)
  have no : Text.decimalDigits value ≠ ['f', 'a', 'l', 's', 'e'] := fun same =>
    absurd (all 'f' (same ▸ List.mem_cons_self)) (by decide)
  simp [scalar?, yes, no, isMoment_eq_false all, isFloat_eq_false all,
    integer?_decimalDigits fits]

end Digits

end StepRunner.Toml
