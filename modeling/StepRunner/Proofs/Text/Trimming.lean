import Mathlib.Data.List.TakeWhile
import StepRunner.Text.Blank

/-!
This file says what is left of a text when the blanks on either side are cut off.
-/

namespace StepRunner.Text

/-- A line is a text without the blanks on either side. -/
structure Trims (text line : List Char) : Prop where
  around : ∃ before after, text = before ++ line ++ after ∧
    (∀ char ∈ before, isBlank char = true) ∧ ∀ char ∈ after, isBlank char = true
  first : ∀ char ∈ line.head?, isBlank char = false
  last : ∀ char ∈ line.getLast?, isBlank char = false

variable (test : Char → Bool)

theorem dropWhile_head (text : List Char) :
    ∀ char ∈ (text.dropWhile test).head?, test char = false := by
  intro char first
  have stops := List.head?_dropWhile_not test text
  rw [Option.mem_def.1 first] at stops
  simpa using stops

variable {test} in
theorem dropWhile_of_head {text : List Char} (stops : ∀ char ∈ text.head?, test char = false) :
    text.dropWhile test = text := by
  cases text with
  | nil => rfl
  | cons char rest => exact List.dropWhile_cons_of_neg (by simp [stops char rfl])

theorem dropRight_append (text : List Char) :
    ∃ after, text = dropRight test text ++ after ∧ ∀ char ∈ after, test char = true := by
  refine ⟨(text.reverse.takeWhile test).reverse, ?_, ?_⟩
  · have halves := List.takeWhile_append_dropWhile (p := test) (l := text.reverse)
    have restored := congrArg List.reverse halves
    rw [List.reverse_append, List.reverse_reverse] at restored
    exact restored.symm
  · intro char present
    exact List.mem_takeWhile_imp (List.mem_reverse.1 present)

/-- A part is what is left of a text when the characters of a kind are cut off on either side. -/
structure Cuts (text part : List Char) : Prop where
  around : ∃ before after, text = before ++ part ++ after ∧
    (∀ char ∈ before, test char = true) ∧ ∀ char ∈ after, test char = true
  first : ∀ char ∈ part.head?, test char = false
  last : ∀ char ∈ part.getLast?, test char = false

theorem cuts_dropBoth (text : List Char) : Cuts test text (dropBoth test text) := by
  obtain ⟨after, split, cut⟩ := dropRight_append test (text.dropWhile test)
  refine ⟨⟨text.takeWhile test, after, ?_, ?_, cut⟩, ?_, ?_⟩
  · rw [dropBoth, List.append_assoc, ← split, List.takeWhile_append_dropWhile]
  · exact fun char present => List.mem_takeWhile_imp present
  · intro char first
    -- What is left on the right begins like the text that the left side was cut off.
    apply dropWhile_head test text
    rw [split, List.head?_append]
    have begins : (dropBoth test text).head? = some char := first
    rw [dropBoth] at begins
    simp [begins]
  · intro char last
    apply dropWhile_head test (text.dropWhile test).reverse
    simpa [dropBoth, dropRight] using last

variable {test} in
/-- Only one part is left of a text. -/
theorem Cuts.eq_dropBoth {text part : List Char} (cuts : Cuts test text part) :
    part = dropBoth test text := by
  obtain ⟨⟨before, after, rfl, cutBefore, cutAfter⟩, first, last⟩ := cuts
  have behind : ∀ char ∈ after.reverse, test char = true :=
    fun char present => cutAfter char (List.mem_reverse.1 present)
  rw [dropBoth, List.append_assoc, List.dropWhile_append_of_pos cutBefore]
  cases part with
  | nil =>
    have all : after.dropWhile test = [] := List.dropWhile_eq_nil_iff.2 cutAfter
    simp [all, dropRight]
  | cons char rest =>
    have kept : test char = false := first char rfl
    have stops : (char :: rest).reverse.dropWhile test = (char :: rest).reverse :=
      dropWhile_of_head (by rwa [List.head?_reverse])
    rw [List.cons_append, List.dropWhile_cons_of_neg (by simp [kept]), ← List.cons_append,
      dropRight, List.reverse_append, List.dropWhile_append_of_pos behind, stops,
      List.reverse_reverse]

variable {test} in
theorem cuts_iff {text part : List Char} : dropBoth test text = part ↔ Cuts test text part := by
  constructor
  · rintro rfl
    exact cuts_dropBoth test text
  · exact fun cuts => cuts.eq_dropBoth.symm

variable {test} in
/-- Nothing is left of a text exactly if all its characters are of the kind. -/
theorem cuts_nil_iff {text : List Char} :
    Cuts test text [] ↔ ∀ char ∈ text, test char = true := by
  constructor
  · rintro ⟨⟨before, after, rfl, cutBefore, cutAfter⟩, -, -⟩ char present
    rw [List.append_nil] at present
    exact (List.mem_append.1 present).elim (cutBefore char) (cutAfter char)
  · exact fun all => ⟨⟨text, [], by simp, all, by simp⟩, by simp, by simp⟩

theorem trims_trim (text : List Char) : Trims text (trim text) :=
  have cuts := cuts_dropBoth isBlank text
  ⟨cuts.around, cuts.first, cuts.last⟩

/-- A line that was trimmed is not trimmed any further. -/
theorem trim_trim (text : List Char) : trim (trim text) = trim text := by
  have trims := trims_trim text
  exact cuts_iff.2 ⟨⟨[], [], by simp, by simp, by simp⟩, trims.first, trims.last⟩

/-- Nothing is left of a text exactly if all of it is blank. -/
theorem trim_eq_nil_iff {text : List Char} :
    trim text = [] ↔ ∀ char ∈ text, isBlank char = true :=
  cuts_iff.trans cuts_nil_iff

end StepRunner.Text
