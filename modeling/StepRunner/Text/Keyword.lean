import StepRunner.Text.Blank

/-!
This file compares text with keywords without regard to case.
-/

namespace StepRunner.Text

/--
The simple case folding of a character, as far as it leads to an ASCII letter.
Besides the capitals these are the long s and the Kelvin sign.
-/
def foldCase (char : Char) : Char :=
  if char = 'ſ' then 's'
  else if char = '\u212a' then 'k'
  else char.toLower

/-- The text after a keyword, when the text starts with the keyword in any case. -/
def dropKeyword? : List Char → List Char → Option (List Char)
  | [], text => some text
  | _ :: _, [] => none
  | expected :: others, char :: rest =>
    if foldCase char = expected then dropKeyword? others rest else none

/-- The text before a keyword, when the text ends with the keyword in any case. -/
def dropKeywordSuffix? (keyword text : List Char) : Option (List Char) :=
  (dropKeyword? keyword.reverse text.reverse).map List.reverse

/-- A text is written with a keyword when it folds to the keyword. -/
theorem dropKeyword?_eq_some_iff {keyword text rest : List Char} :
    dropKeyword? keyword text = some rest ↔
      ∃ lead, text = lead ++ rest ∧ lead.map foldCase = keyword := by
  induction keyword generalizing text with
  | nil =>
    simp only [dropKeyword?, Option.some.injEq, List.map_eq_nil_iff]
    exact ⟨fun same => ⟨[], by simp [same], rfl⟩, fun ⟨lead, split, empty⟩ => by simp_all⟩
  | cons expected others inductionHypothesis =>
    cases text with
    | nil =>
      simp only [dropKeyword?, reduceCtorEq, false_iff, not_exists, not_and]
      intro lead split
      have empty : lead = [] := by
        cases lead with
        | nil => rfl
        | cons => simp at split
      simp [empty]
    | cons char tail =>
      by_cases same : foldCase char = expected
      · simp only [dropKeyword?, same, if_true, inductionHypothesis]
        constructor
        · rintro ⟨lead, rfl, folded⟩
          exact ⟨char :: lead, rfl, by simp [same, folded]⟩
        · rintro ⟨lead, split, folded⟩
          cases lead with
          | nil => simp at folded
          | cons first others =>
            simp only [List.cons_append, List.cons.injEq] at split
            simp only [List.map_cons, List.cons.injEq] at folded
            exact ⟨others, split.2, folded.2⟩
      · simp only [dropKeyword?, same, if_false, reduceCtorEq, false_iff, not_exists, not_and]
        intro lead split
        cases lead with
        | nil => simp
        | cons first others =>
          simp only [List.cons_append, List.cons.injEq] at split
          simp [← split.1, same]

/-- A keyword ends a text when the end of the text folds to it. -/
theorem dropKeywordSuffix?_eq_some_iff {keyword text rest : List Char} :
    dropKeywordSuffix? keyword text = some rest ↔
      ∃ ending, text = rest ++ ending ∧ ending.map foldCase = keyword := by
  simp only [dropKeywordSuffix?, Option.map_eq_some_iff, dropKeyword?_eq_some_iff]
  constructor
  · rintro ⟨middle, ⟨lead, reversed, folded⟩, rfl⟩
    refine ⟨lead.reverse, ?_, ?_⟩
    · have restored := congrArg List.reverse reversed
      simpa using restored
    · rw [List.map_reverse, folded, List.reverse_reverse]
  · rintro ⟨ending, rfl, folded⟩
    exact ⟨rest.reverse, ⟨ending.reverse, by simp, by simp [List.map_reverse, folded]⟩, by simp⟩

end StepRunner.Text
