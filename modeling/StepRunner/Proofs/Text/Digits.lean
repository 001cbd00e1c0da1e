import StepRunner.Proofs.Text.Trimming
import StepRunner.Text.Digit

/-!
This file shows that a number is read back from its decimal digits, and where its digits end.
-/

namespace StepRunner.Text

section Splits

variable {test : Char → Bool} {word rest : List Char}

/-- A run of characters that pass a test ends at the first one that does not. -/
theorem spanWhile_of_head (passes : ∀ char ∈ word, test char = true)
    (stops : ∀ char ∈ rest.head?, test char = false) :
    spanWhile test (word ++ rest) = (word, rest) := by
  have ends : rest.takeWhile test = [] := by
    cases rest with
    | nil => rfl
    | cons char rest => exact List.takeWhile_cons_of_neg (by simp [stops char rfl])
  rw [spanWhile, List.takeWhile_append_of_pos passes, List.dropWhile_append_of_pos passes, ends,
    dropWhile_of_head stops, List.append_nil]

/-- A text without a separator is one piece. -/
theorem splitAt_of_not_mem {separator : Char} {text : List Char} (free : separator ∉ text) :
    splitAt separator text = [text] := by
  induction text with
  | nil => rfl
  | cons char text inductionHypothesis =>
    obtain ⟨other, free⟩ := not_or.1 (mt List.mem_cons.2 free)
    rw [splitAt, if_neg fun same => other same.symm, inductionHypothesis free]

theorem splitAt_ne_nil (separator : Char) (text : List Char) : splitAt separator text ≠ [] := by
  cases text with
  | nil => exact List.cons_ne_nil _ _
  | cons char text =>
    rw [splitAt]
    split
    · exact List.cons_ne_nil _ _
    · split <;> exact List.cons_ne_nil _ _

/-- A text that is split at a separator falls into what its two sides fall into. -/
theorem splitAt_append (separator : Char) (front back : List Char) :
    splitAt separator (front ++ separator :: back) =
      splitAt separator front ++ splitAt separator back := by
  induction front with
  | nil => simp [splitAt]
  | cons char front inductionHypothesis =>
    rw [List.cons_append, splitAt, inductionHypothesis, splitAt]
    split
    · rfl
    · cases pieces : splitAt separator front with
      | nil => exact absurd pieces (splitAt_ne_nil separator front)
      | cons first others => rfl

end Splits

section Numbers

variable (value : Nat)

@[simp] theorem decimalValue_decimalDigits : decimalValue (decimalDigits value) = value := by
  have folded := Nat.ofDigitChars_ten_toDigits (n := value)
  rw [Nat.ofDigitChars_eq_foldl] at folded
  exact folded

@[simp] theorem decimalDigits_ne_nil : decimalDigits value ≠ [] :=
  Nat.toDigits_ne_nil

variable {value}

theorem isDigit_of_mem_decimalDigits {char : Char} (present : char ∈ decimalDigits value) :
    char.isDigit = true :=
  Nat.isDigit_of_mem_toDigits (by decide) (by decide) present

variable (value) in
theorem spanWhile_decimalDigits {rest : List Char}
    (stops : ∀ char ∈ rest.head?, char.isDigit = false) :
    spanWhile Char.isDigit (decimalDigits value ++ rest) = (decimalDigits value, rest) :=
  spanWhile_of_head (fun _ present => isDigit_of_mem_decimalDigits present) stops

/-- Only zero begins with the digit zero. -/
theorem head?_decimalDigits_ne (positive : 0 < value) : (decimalDigits value).head? ≠ some '0' := by
  induction value using Nat.strong_induction_on with
  | _ value inductionHypothesis =>
    rw [decimalDigits, Nat.toDigits_eq_if (by decide)]
    split
    · simpa using positive.ne'
    · next several =>
      have front := inductionHypothesis (value / 10) (by omega) (by omega)
      rw [List.head?_append, Option.or_of_isSome (by simp)]
      exact front

end Numbers

end StepRunner.Text
