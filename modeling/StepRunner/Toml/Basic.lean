import StepRunner.Json.Basic

/-!
This file defines the values of a TOML document.
-/

namespace StepRunner

/-- A value of a TOML document; a table keeps its members in the order of the text. -/
inductive Toml where
  | str (value : String)
  | integer (value : Int)
  | float (text : String)
  | boolean (value : Bool)
  | moment (text : String)
  | array (items : List Toml)
  | table (members : List (String × Toml))
  deriving Inhabited, Repr

namespace Toml

mutual

/--
The JSON form of a value.
No setting is a real number, a date or a time, so these keep only their kind: a real number, and a
record of a member that no setting has.
-/
def toJson : Toml → Json
  | str value => .str value
  | integer value => .whole value
  | float _ => .real 0 0
  | boolean value => .bool value
  | moment text => .obj [("moment", .str text)]
  | array items => .arr (itemsToJson items)
  | table members => .obj (membersToJson members)

/-- The JSON forms of the items of an array. -/
def itemsToJson : List Toml → List Json
  | [] => []
  | item :: items => toJson item :: itemsToJson items

/-- The JSON forms of the members of a table. -/
def membersToJson : List (String × Toml) → List (String × Json)
  | [] => []
  | (name, value) :: members => (name, toJson value) :: membersToJson members

end

end Toml

end StepRunner
