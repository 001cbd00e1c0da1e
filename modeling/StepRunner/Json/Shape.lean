import StepRunner.Json.Reader

/-!
This file reads JSON text that has to look a certain way, from its start to its end.
The first fault in the text counts: either the text is no JSON there, or it has a value of another
shape there.
A member that a record does not know is skipped.
-/

namespace StepRunner.Json

/-- What a value has to look like. -/
inductive Shape where
  | any
  | text
  | truth
  /-- A number of 64 bits. -/
  | natural
  | list (item : Shape)
  | nullable (value : Shape)
  /-- An object with some of the fields, or an array with one item for each field. -/
  | record (fields : List (String × Shape))

/-- Why a text is refused. -/
inductive Fault where
  /-- The text is no JSON. -/
  | form
  /-- The value has another shape. -/
  | shape
  deriving DecidableEq, Repr

/-- What is read at the start of a text, and the rest of the text. -/
abbrev Progress := Except Fault (Json × List Char)

/-- What comes of a reader that refuses only what is no JSON. -/
def formed (read : Option (Json × List Char)) : Progress :=
  match read with
  | some progress => .ok progress
  | none => .error .form

/-- The fault of a value that has another shape; a value within brackets is not looked at. -/
def mismatch (text : List Char) : Fault :=
  match text with
  | '[' :: _ | '\x7b' :: _ => .shape
  | text => if (readPrefix? text).isSome then .shape else .form

/-- Reads a string. -/
def readText (text : List Char) : Progress :=
  match text with
  | '"' :: _ => formed (readPrefix? text)
  | _ => .error (mismatch text)

/-- Reads a truth value. -/
def readTruth (text : List Char) : Progress :=
  match readPrefix? text with
  | some (.bool value, rest) => .ok (.bool value, rest)
  | _ => .error (mismatch text)

/-- Reads a number of 64 bits. -/
def readNatural (text : List Char) : Progress :=
  match readPrefix? text with
  | some (.whole value, rest) => if 0 ≤ value then .ok (.whole value, rest) else .error .shape
  | _ => .error (mismatch text)

/-- Reads the colon between the name of a member and its value. -/
def readColon (text : List Char) : Except Fault (List Char) :=
  match text.dropWhile isSpace with
  | ':' :: rest => .ok rest
  | _ => .error .form

/-- Skips a value. -/
def skip (text : List Char) : Except Fault (List Char) :=
  match skip? text with
  | some rest => .ok rest
  | none => .error .form

mutual

/-- Reads a value of a shape, whose arrays and objects nest at most as deep as `depth` allows. -/
def readShape (depth : Nat) : Nat → Shape → List Char → Progress
  | 0, _, _ => .error .form
  | fuel + 1, shape, text =>
    let text := text.dropWhile isSpace
    match shape, text with
    | .any, text => formed (readValue? true depth (2 * text.length + 2) text)
    | .text, text => readText text
    | .truth, text => readTruth text
    | .natural, text => readNatural text
    | .nullable _, 'n' :: _ => formed (readPrefix? text)
    | .nullable value, text => readShape depth fuel value text
    | .list item, '[' :: rest =>
      match rest.dropWhile isSpace with
      | ']' :: rest => .ok (arr [], rest)
      | rest => readList (depth - 1) fuel item [] rest
    | .list _, text => .error (mismatch text)
    | .record fields, '[' :: rest => readFields (depth - 1) fuel (fields.map Prod.snd) [] rest
    | .record fields, '\x7b' :: rest =>
      match rest.dropWhile isSpace with
      | '\x7d' :: rest => .ok (obj [], rest)
      | rest => readRecord (depth - 1) fuel fields [] rest
    | .record _, text => .error (mismatch text)

/-- Reads the items of an array after some others. -/
def readList (depth : Nat) : Nat → Shape → List Json → List Char → Progress
  | 0, _, _, _ => .error .form
  | fuel + 1, shape, items, text =>
    match readShape depth fuel shape text with
    | .error fault => .error fault
    | .ok (item, rest) =>
      match rest.dropWhile isSpace with
      | ',' :: rest => readList depth fuel shape (items ++ [item]) rest
      | ']' :: rest => .ok (arr (items ++ [item]), rest)
      | _ => .error .form

/-- Reads an item for each field after some others; the array may end before. -/
def readFields (depth : Nat) : Nat → List Shape → List Json → List Char → Progress
  | 0, _, _, _ => .error .form
  | fuel + 1, shapes, items, text =>
    match text.dropWhile isSpace, shapes with
    | ']' :: rest, _ => .ok (arr items, rest)
    | _, [] => .error .form
    | text, shape :: shapes =>
      let start := match items, text with
        | [], text => some text
        | _ :: _, ',' :: rest => some rest
        | _ :: _, _ => none
      match start with
      | none => .error .form
      | some text =>
        match readShape depth fuel shape text with
        | .error fault => .error fault
        | .ok (item, rest) => readFields depth fuel shapes (items ++ [item]) rest

/-- Reads the members of an object after some others; a field that comes again is a fault. -/
def readRecord (depth : Nat) :
    Nat → List (String × Shape) → List (String × Json) → List Char → Progress
  | 0, _, _, _ => .error .form
  | fuel + 1, fields, members, text =>
    match text.dropWhile isSpace with
    | '"' :: rest =>
      match readString? true rest with
      | none => .error .form
      | some (chars, rest) =>
        let name := String.ofList chars
        let next := match fields.lookup name with
          | none => (readColon rest).bind fun rest => (skip rest).map fun rest => (members, rest)
          | some shape =>
            if (members.lookup name).isSome then .error .shape
            else
              (readColon rest).bind fun rest =>
                (readShape depth fuel shape rest).map fun (value, rest) =>
                  (members ++ [(name, value)], rest)
        match next with
        | .error fault => .error fault
        | .ok (members, rest) =>
          match rest.dropWhile isSpace with
          | ',' :: rest => readRecord depth fuel fields members rest
          | '\x7d' :: rest => .ok (obj members, rest)
          | _ => .error .form
    | _ => .error .form

end

namespace Shape

/-- A record whose fields may look any way. -/
def fields (names : List String) : Shape :=
  record (names.map fun name => (name, any))

/-- Reads a value of a shape at the start of a text. -/
def readPrefix (shape : Shape) (text : List Char) : Progress :=
  readShape depthLimit (2 * text.length + 8) shape text

/-- Reads a text that holds one value of a shape and white space around it. -/
def read? (shape : Shape) (text : String) : Option Json :=
  match shape.readPrefix text.toList with
  | .ok (value, rest) => if rest.all isSpace then some value else none
  | .error _ => none

end Shape

end StepRunner.Json
