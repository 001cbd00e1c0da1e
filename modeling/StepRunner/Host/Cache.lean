import StepRunner.Catalog.Browser

/-!
This file recognises installed browser engines by the names in their cache.
-/

namespace StepRunner.Browser

/-- A cache entry belongs to an engine when its name is the engine's, a hyphen and digits. -/
def ownsEntry (browser : Browser) (entry : String) : Bool :=
  match Text.dropPrefix? (browser.name.toList ++ ['-']) entry.toList with
  | some revision => !revision.isEmpty && revision.all Char.isDigit
  | none => false

/-- An engine is installed when one of the cache entries belongs to it. -/
def isInstalledIn (browser : Browser) (entries : List String) : Bool :=
  entries.any browser.ownsEntry

theorem ownsEntry_iff {browser : Browser} {entry : String} :
    browser.ownsEntry entry = true ↔
      ∃ revision, entry.toList = browser.name.toList ++ '-' :: revision ∧ revision ≠ [] ∧
        ∀ char ∈ revision, char.isDigit := by
  unfold ownsEntry
  constructor
  · intro owned
    split at owned
    · rename_i revision found
      rw [Text.dropPrefix?_eq_some_iff] at found
      simp only [Bool.and_eq_true, Bool.not_eq_true', List.isEmpty_eq_false_iff,
        List.all_eq_true] at owned
      exact ⟨revision, by simp [found], owned.1, owned.2⟩
    · simp at owned
  · rintro ⟨revision, split, present, digits⟩
    have found : Text.dropPrefix? (browser.name.toList ++ ['-']) entry.toList = some revision :=
      Text.dropPrefix?_eq_some_iff.2 (by simp [split])
    rw [found]
    simp only [Bool.and_eq_true, Bool.not_eq_true', List.isEmpty_eq_false_iff, List.all_eq_true]
    exact ⟨present, digits⟩

end StepRunner.Browser
