import StepRunner.Json.Reader

/-!
This file reads JSON values as records, strings, numbers and names.
A record is an object with named members, or an array with its fields in order.
Members with unknown names are ignored, and a known name may not come twice.
-/

namespace StepRunner.Json

/-- The value of a string. -/
def string? : Json → Option String
  | str value => some value
  | _ => none

/-- The value of a truth value. -/
def bool? : Json → Option Bool
  | bool value => some value
  | _ => none

/-- A whole number of at most the given size. -/
def bounded? (least greatest : Int) : Json → Option Int
  | whole value => if least ≤ value ∧ value ≤ greatest then some value else none
  | _ => none

/-- A whole number that fits 64 bits with sign. -/
def int64? : Json → Option Int :=
  bounded? (-Int.pow 2 63) (Int.pow 2 63 - 1)

/-- A whole number that fits 32 bits. -/
def nat32? (value : Json) : Option Nat :=
  (bounded? 0 (Int.pow 2 32 - 1) value).map Int.toNat

/-- A whole number that fits 64 bits. -/
def nat64? (value : Json) : Option Nat :=
  (bounded? 0 (Int.pow 2 64 - 1) value).map Int.toNat

/-- A value that null leaves out. -/
def nullable? {α : Type} (read? : Json → Option α) : Json → Option (Option α)
  | null => some none
  | value => (read? value).map some

/-- The items of an array, each read in the same way. -/
def list? {α : Type} (read? : Json → Option α) : Json → Option (List α)
  | arr items => items.mapM read?
  | _ => none

/-- A name: a string, or an object with the name as its only member and null as its value. -/
def name? : Json → Option String
  | str value => some value
  | obj [(value, null)] => some value
  | _ => none

/-- The values that an object gives a name. -/
def valuesOf (name : String) (members : List (String × Json)) : List Json :=
  (members.filter fun member => member.1 = name).map Prod.snd

/-- The first value that an object gives a name. -/
def member? (name : String) : Json → Option Json
  | obj members => (valuesOf name members).head?
  | _ => none

/-- The members of an object without those whose name comes again later. -/
def lastOfEach : List (String × Json) → List (String × Json)
  | [] => []
  | member :: members =>
    if members.any fun other => other.1 = member.1 then lastOfEach members
    else member :: lastOfEach members

/-- The fields of a record, as far as they are given. -/
structure Fields where
  /-- The fields come from an array. -/
  ordered : Bool
  values : List (String × Option Json)

namespace Fields

/-- Looks up each field of an object; a field that is given twice is refused. -/
def ofMembers? (names : List String) (members : List (String × Json)) : Option Fields := do
  let values ← names.mapM fun name =>
    match valuesOf name members with
    | [] => some (name, none)
    | [value] => some (name, some value)
    | _ => none
  return ⟨false, values⟩

/-- Pairs each field with the item at its place. -/
def ofItems (names : List String) (items : List Json) : Fields :=
  ⟨true, names.zipIdx.map fun (name, index) => (name, items[index]?)⟩

/-- The fields of a record; an array may not have more items than there are fields. -/
def of? (names : List String) : Json → Option Fields
  | obj members => ofMembers? names members
  | arr items => if items.length ≤ names.length then some (ofItems names items) else none
  | _ => none

/-- The value of a field, if it is given. -/
def get? (fields : Fields) (name : String) : Option Json :=
  (fields.values.find? fun field => field.1 = name).bind Prod.snd

/-- A field that has to be there. -/
def required? {α : Type} (fields : Fields) (name : String) (read? : Json → Option α) : Option α :=
  (fields.get? name).bind read?

/-- A field that an object may leave out or set to null. -/
def optional? {α : Type} (fields : Fields) (name : String) (read? : Json → Option α) :
    Option (Option α) :=
  match fields.get? name with
  | some value => nullable? read? value
  | none => if fields.ordered then none else some none

/-- A field with a value of its own when it is not there. -/
def defaulted? {α : Type} (fields : Fields) (name : String) (read? : Json → Option α)
    (default : α) : Option α :=
  match fields.get? name with
  | some value => read? value
  | none => some default

end Fields

/-- Splits a record with a tag into the tag and a record of the other fields. -/
def tagged? (tag : String) : Json → Option (String × Json)
  | obj members =>
    match valuesOf tag members with
    | [str value] => some (value, obj (members.filter fun member => member.1 ≠ tag))
    | _ => none
  | arr (str value :: items) => some (value, arr items)
  | _ => none

end StepRunner.Json
