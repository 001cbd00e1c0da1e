import StepRunner.Json.Basic

/-!
This file puts the members of JSON objects into the order of their names.
-/

namespace StepRunner.Json

/-- Puts a member in front of the first one whose name comes after it. -/
def insertMember (member : String × Json) : List (String × Json) → List (String × Json)
  | [] => [member]
  | first :: rest =>
    if member.1 < first.1 then member :: first :: rest else first :: insertMember member rest

mutual

/-- The value with the members of every object in the order of their names. -/
def sorted : Json → Json
  | arr items => arr (sortedItems items)
  | obj members => obj (sortedMembers members)
  | null => null
  | bool value => bool value
  | whole value => whole value
  | real mantissa exponent => real mantissa exponent
  | str value => str value

/-- The items of an array, each in order. -/
def sortedItems : List Json → List Json
  | [] => []
  | item :: items => sorted item :: sortedItems items

/-- The members of an object in the order of their names. -/
def sortedMembers : List (String × Json) → List (String × Json)
  | [] => []
  | (name, value) :: members => insertMember (name, sorted value) (sortedMembers members)

end

end StepRunner.Json
