import StepRunner.Text.Blank

/-!
This file resolves the paths that steps open against the address of the site under test.
-/

namespace StepRunner.Address

/-- An address with a scheme of its own. -/
def isComplete (path : String) : Bool :=
  (Text.dropPrefix? "http://".toList path.toList).isSome ||
    (Text.dropPrefix? "https://".toList path.toList).isSome

/-- The address of a path of a site; one slash joins the two. -/
def resolve (base path : String) : String :=
  if isComplete path then path
  else
    String.ofList <| Text.dropRight (· == '/') base.toList ++ '/' ::
      path.toList.dropWhile (· == '/')

end StepRunner.Address
