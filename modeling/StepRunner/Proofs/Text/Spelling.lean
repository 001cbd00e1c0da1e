import Mathlib.Data.List.Forall2
import Mathlib.Data.List.Infix
import StepRunner.Text.Keyword

/-!
This file says how a keyword may be spelled and shows that folding accepts exactly these spellings.
-/

namespace StepRunner.Text

/--
A character stands for a letter of a keyword in some case.
Two signs outside ASCII are a case of an ASCII letter, the long s and the Kelvin sign.
-/
def StandsFor (letter char : Char) : Prop :=
  char = letter ∨ char = letter.toUpper ∨ char = 'ſ' ∧ letter = 's' ∨ char = '\u212a' ∧ letter = 'k'

/-- A text is a keyword with each of its letters in some case. -/
def Spells (keyword text : List Char) : Prop :=
  List.Forall₂ StandsFor keyword text

/-- The characters of keywords are small letters and blanks. -/
def isKeywordChar (char : Char) : Bool :=
  char.isLower || char == ' '

section Letters

variable {letter char : Char}

/-- A small letter and its capital are the two characters with this small letter. -/
theorem toLower_eq_iff (small : isKeywordChar letter = true) :
    char.toLower = letter ↔ char = letter ∨ char = letter.toUpper := by
  delta isKeywordChar Char.isLower at small
  delta Char.toLower Char.toUpper
  simp only [Bool.or_eq_true, Bool.and_eq_true, decide_eq_true_eq, beq_iff_eq,
    apply_dite Char.val, Char.ext_iff] at small ⊢
  have a : 'a'.val = 97 := rfl
  have z : 'z'.val = 122 := rfl
  have capitalA : 'A'.val = 65 := rfl
  have capitalZ : 'Z'.val = 90 := rfl
  have blank : ' '.val = 32 := rfl
  rw [a, z, capitalA, capitalZ, blank] at *
  generalize char.val = code at *
  generalize letter.val = small at *
  grind

/-- A sign outside ASCII is neither a letter of a keyword nor the capital of one. -/
theorem not_ascii_case (small : isKeywordChar letter = true) (outside : isKeywordChar char = false)
    (single : char.toLower = char) : char ≠ letter ∧ char ≠ letter.toUpper := by
  rw [← not_or, ← toLower_eq_iff small, single]
  rintro rfl
  rw [small] at outside
  cases outside

theorem foldCase_eq_iff (small : isKeywordChar letter = true) :
    foldCase char = letter ↔ StandsFor letter char := by
  by_cases long : char = 'ſ'
  · have other : 'ſ' ≠ letter ∧ 'ſ' ≠ letter.toUpper := not_ascii_case small rfl rfl
    simp [foldCase, StandsFor, long, other, eq_comm]
  by_cases kelvin : char = '\u212a'
  · have other : '\u212a' ≠ letter ∧ '\u212a' ≠ letter.toUpper := not_ascii_case small rfl rfl
    simp [foldCase, StandsFor, kelvin, other, eq_comm]
  simp [foldCase, StandsFor, long, kelvin, toLower_eq_iff small]

end Letters

section Words

variable {keyword other text lead start rest tail : List Char}

/-- Folding accepts exactly the spellings of a keyword. -/
theorem map_foldCase_eq_iff (small : keyword.all isKeywordChar = true) :
    text.map foldCase = keyword ↔ Spells keyword text := by
  induction keyword generalizing text with
  | nil => simp [Spells]
  | cons letter others inductionHypothesis =>
    simp only [List.all_cons, Bool.and_eq_true] at small
    cases text with
    | nil => simp [Spells]
    | cons char rest =>
      simp only [List.map_cons, List.cons.injEq, foldCase_eq_iff small.1,
        inductionHypothesis small.2, Spells, List.forall₂_cons]

theorem dropKeyword?_eq_some_iff_spells (small : keyword.all isKeywordChar = true) :
    dropKeyword? keyword text = some rest ↔ ∃ lead, Spells keyword lead ∧ text = lead ++ rest := by
  simp only [dropKeyword?_eq_some_iff, map_foldCase_eq_iff small, and_comm]

theorem dropKeywordSuffix?_eq_some_iff_spells (small : keyword.all isKeywordChar = true) :
    dropKeywordSuffix? keyword text = some rest ↔
      ∃ ending, Spells keyword ending ∧ text = rest ++ ending := by
  simp only [dropKeywordSuffix?_eq_some_iff, map_foldCase_eq_iff small, and_comm]

/-- Of two keywords that start one text, one starts the other. -/
theorem Spells.prefix_or (small : keyword.all isKeywordChar = true)
    (tiny : other.all isKeywordChar = true) (spells : Spells keyword lead)
    (again : Spells other start) (same : lead ++ rest = start ++ tail) :
    keyword <+: other ∨ other <+: keyword := by
  have folded := congrArg (List.map foldCase) same
  rw [List.map_append, List.map_append, (map_foldCase_eq_iff small).2 spells,
    (map_foldCase_eq_iff tiny).2 again] at folded
  exact List.prefix_or_prefix_of_prefix ⟨_, rfl⟩ ⟨_, folded.symm⟩

/-- Of two keywords that end one text, one ends the other. -/
theorem Spells.suffix_or (small : keyword.all isKeywordChar = true)
    (tiny : other.all isKeywordChar = true) (spells : Spells keyword lead)
    (again : Spells other start) (same : rest ++ lead = tail ++ start) :
    keyword <:+ other ∨ other <:+ keyword := by
  have folded := congrArg (List.map foldCase) same
  rw [List.map_append, List.map_append, (map_foldCase_eq_iff small).2 spells,
    (map_foldCase_eq_iff tiny).2 again] at folded
  exact List.suffix_or_suffix_of_suffix ⟨_, rfl⟩ ⟨_, folded.symm⟩

end Words

end StepRunner.Text
