import StepRunner.Text.Width.Table

/-!
This file measures text in the columns of a terminal.
Most characters take up one column, wide ones two, and marks on other characters none.
-/

namespace StepRunner.Text

/-- The columns of a character on its own. -/
def columns (char : Char) : Nat :=
  let code := char.toNat
  if code < 0xAD then 1
  else if inRanges columnlessRanges code then 0
  else if inRanges wideRanges code then 2
  else 1

/-- Whether the next character can join a picture. -/
inductive Joint where
  /-- The last character is no picture, but a selector can turn it into one. -/
  | selectable
  /-- The last character ends a picture. -/
  | picture
  /-- The last character joins a picture to the next one. -/
  | joined
  | loose
  deriving DecidableEq, Repr

/-- A character is a picture of two columns by itself. -/
def isPicture (char : Char) : Bool :=
  let code := char.toNat
  ((0x2300 ≤ code && code ≤ 0x2BFF) || (0x1F000 ≤ code && code ≤ 0x1FAFF)) &&
    inRanges wideRanges code

/-- A character that changes the skin colour of a picture. -/
def isSkinColour (char : Char) : Bool :=
  0x1F3FB ≤ char.toNat && char.toNat ≤ 0x1F3FF

/-- The state after a character that stands for itself. -/
def jointAfter (char : Char) : Joint :=
  if isPicture char then .picture
  else if inRanges selectableRanges char.toNat then .selectable
  else .loose

/-- The columns that the next character adds, and the state after it. -/
def widen (joint : Joint) (char : Char) : Nat × Joint :=
  match joint with
  | .selectable =>
    if char = '\uFE0F' then (1, .picture) else (columns char, jointAfter char)
  | .picture =>
    if isSkinColour char || char = '\uFE0F' then (0, .picture)
    else if char = '\u200D' then (0, .joined)
    else (columns char, jointAfter char)
  | .joined =>
    if isPicture char then (0, .picture)
    else if inRanges selectableRanges char.toNat then (0, .picture)
    else (columns char, jointAfter char)
  | .loose => (columns char, jointAfter char)

/-- The columns of a text after the given state. -/
def widthAfter (joint : Joint) : List Char → Nat
  | [] => 0
  | char :: rest =>
    let (added, joint) := widen joint char
    added + widthAfter joint rest

/-- The columns of a text. -/
def width (text : List Char) : Nat := widthAfter .loose text

end StepRunner.Text
