import StepRunner.Text.Blank

/-!
This file takes path texts apart and puts them together.
-/

namespace StepRunner.Path

/-- A path from the root of the disk. -/
def isAbsolute (path : String) : Bool :=
  path.toList.head? = some '/'

/-- The text of a path followed by another path; an absolute path stands for itself. -/
def join (base child : String) : String :=
  if isAbsolute child then child
  else if base.isEmpty || base.toList.getLast? = some '/' then base ++ child
  else base ++ "/" ++ child

/-- The pieces of a path between its slashes, with the empty ones. -/
def pieces (path : String) : List String :=
  (Text.splitAt '/' path.toList).map String.ofList

/-- The names of a path, without the pieces that change nothing. -/
def names (path : String) : List String :=
  (pieces path).filter fun piece => piece ≠ "" ∧ piece ≠ "."

/-- A path climbs when one of its names leads to a parent. -/
def climbs (path : String) : Bool :=
  (names path).contains ".."

/-- An absolute path as the list of its names. -/
abbrev Location := List String

/-- The text of a location. -/
def render (location : Location) : String :=
  "/" ++ "/".intercalate location

/-- A location is below another one, or is the same. -/
def isBelow (root location : Location) : Bool :=
  root.isPrefixOf location

/-- The part of a file name before its last point, unless the point comes first. -/
def stem (name : String) : String :=
  let backwards := name.toList.reverse
  match backwards.dropWhile (· != '.') with
  | [] | [_] => name
  | _ :: rest => String.ofList rest.reverse

/-- The part of a file name after its last point, unless the point comes first. -/
def extension? (name : String) : Option String :=
  let backwards := name.toList.reverse
  match backwards.dropWhile (· != '.') with
  | [] | [_] => none
  | _ :: _ => some (String.ofList (backwards.takeWhile (· != '.')).reverse)

end StepRunner.Path
