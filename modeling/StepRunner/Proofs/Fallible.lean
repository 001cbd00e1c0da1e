import Mathlib.Logic.Basic

/-!
This file takes computations apart that either fail or give a value.
-/

namespace StepRunner

variable {Failure α β : Type}

/-- A sequence gives a value when both of its parts do. -/
theorem bind_eq_ok_iff {first : Except Failure α} {next : α → Except Failure β} {value : β} :
    (first >>= next) = .ok value ↔ ∃ middle, first = .ok middle ∧ next middle = .ok value := by
  cases first with
  | error failure => simp [bind, Except.bind]
  | ok middle => simp [bind, Except.bind]

theorem map_eq_ok_iff {first : Except Failure α} {change : α → β} {value : β} :
    first.map change = .ok value ↔ ∃ middle, first = .ok middle ∧ change middle = value := by
  cases first with
  | error failure => simp [Except.map]
  | ok middle => simp [Except.map]

@[simp] theorem pure_eq_ok_iff {given value : α} :
    (pure given : Except Failure α) = .ok value ↔ given = value := by
  simp [pure, Except.pure]

/-- A computation that may be refused first gives a value when it is not refused. -/
theorem refuse_eq_ok_iff {condition : Prop} [Decidable condition] {failure : Failure}
    {skipped : α → Except Failure β} {next : Except Failure β} {value : β} :
    (if condition then throw failure >>= skipped else next) = .ok value ↔
      ¬condition ∧ next = .ok value := by
  split
  · next refused => simp [refused, throw, throwThe, MonadExceptOf.throw, bind, Except.bind]
  · next allowed => simp [allowed]

end StepRunner
