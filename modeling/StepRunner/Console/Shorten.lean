/-!
This file shortens long text.
-/

namespace StepRunner

/-- Keeps a text of at most the given length; a longer one ends in an ellipsis. -/
def shorten (text : String) (limit : Nat) : String :=
  let chars := text.toList
  if chars.length ≤ limit then text
  else String.ofList (chars.take (limit - 1) ++ ['…'])

theorem length_shorten_le (text : String) (limit : Nat) (positive : 0 < limit) :
    (shorten text limit).toList.length ≤ limit := by
  unfold shorten
  dsimp only
  split
  · assumption
  · simp only [String.toList_ofList, List.length_append, List.length_take, List.length_cons,
      List.length_nil]
    omega

end StepRunner
