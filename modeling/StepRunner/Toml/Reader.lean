import StepRunner.Toml.Scalar
import StepRunner.Toml.Table

/-!
This file reads TOML documents.
-/

namespace StepRunner.Toml

/-- How many keys a dotted path may have, and how deep arrays and tables in line may nest. -/
def depthLimit : Nat := 79

/-- A character of a key without quotes. -/
def isKeyChar (char : Char) : Bool :=
  char.isAlphanum || char == '-' || char == '_'

/-- Reads one key. -/
def readKey? (text : List Char) : Option (String × List Char) :=
  match text with
  | '"' :: rest => (readBasic? rest).map fun (chars, rest) => (String.ofList chars, rest)
  | '\'' :: rest => (readLiteral? rest).map fun (chars, rest) => (String.ofList chars, rest)
  | _ =>
    let (chars, rest) := Text.spanWhile isKeyChar text
    if chars.isEmpty then none else some (String.ofList chars, rest)

/-- Reads keys with points between them and white space around each. -/
def readPath? : Nat → List Char → Option (List String × List Char)
  | 0, _ => none
  | count + 1, text =>
    match readKey? (skipSpaces text) with
    | none => none
    | some (key, rest) =>
      match skipSpaces rest with
      | '.' :: rest => (readPath? count rest).map fun (keys, rest) => (key :: keys, rest)
      | rest => some ([key], rest)

/-- Reads the path of a value, up to the equals sign. -/
def readTarget? (text : List Char) : Option (List String × List Char) :=
  match readPath? depthLimit text with
  | some (path, '=' :: rest) => some (path, skipSpaces rest)
  | _ => none

mutual

/-- Reads one value. -/
def readValue? (depth : Nat) : Nat → List Char → Option (Toml × List Char)
  | 0, _ => none
  | fuel + 1, text =>
    match text with
    | '[' :: rest =>
      if depth = 0 then none
      else
        (readItems? (depth - 1) fuel (skipLines false rest)).map fun (items, rest) =>
          (.array items, rest)
    | '\x7b' :: rest =>
      if depth = 0 then none
      else
        match skipSpaces rest with
        | '\x7d' :: rest => some (.table [], rest)
        | rest =>
          (readMembers? (depth - 1) fuel rest []).map fun (members, rest) =>
            (.table (membersToToml members), rest)
    | '"' :: _ => (readString? text).map fun (value, rest) => (.str value, rest)
    | '\'' :: _ => (readString? text).map fun (value, rest) => (.str value, rest)
    | _ => readScalar? text

/-- Reads the items of an array and its closing bracket; a comma may follow the last item. -/
def readItems? (depth : Nat) : Nat → List Char → Option (List Toml × List Char)
  | 0, _ => none
  | fuel + 1, text =>
    match text with
    | ']' :: rest => some ([], rest)
    | text =>
      match readValue? depth fuel text with
      | none => none
      | some (item, rest) =>
        match skipLines false rest with
        | ',' :: rest =>
          (readItems? depth fuel (skipLines false rest)).map fun (items, rest) =>
            (item :: items, rest)
        | ']' :: rest => some ([item], rest)
        | _ => none

/-- Reads the members of a table in line and its closing brace. -/
def readMembers? (depth : Nat) : Nat → List Char → Members → Option (Members × List Char)
  | 0, _, _ => none
  | fuel + 1, text, members =>
    match readTarget? text with
    | none => none
    | some (path, rest) =>
      match readValue? depth fuel rest with
      | none => none
      | some (value, rest) =>
        match members.insertAt? path value .header with
        | none => none
        | some (_, members) =>
          match skipSpaces rest with
          | ',' :: rest => readMembers? depth fuel rest members
          | '\x7d' :: rest => some (members, rest)
          | _ => none

end

/-- The part of a document read so far, with the path of the table that is open. -/
structure Progress where
  root : Members := []
  current : List String := []

/-- Reads a header, after its first bracket. -/
def Progress.header? (progress : Progress) (text : List Char) :
    Option (Progress × List Char) :=
  match text with
  | '[' :: rest => do
    let (path, rest) ← readPath? depthLimit rest
    match rest with
    | ']' :: ']' :: rest =>
      let rest ← afterLine? rest
      let root ← progress.root.openElement? path
      return (⟨root, path⟩, rest)
    | _ => none
  | rest => do
    let (path, rest) ← readPath? depthLimit rest
    match rest with
    | ']' :: rest =>
      let rest ← afterLine? rest
      let root ← progress.root.openTable? path
      return (⟨root, path⟩, rest)
    | _ => none

/-- Reads a key with its value into the table that is open. -/
def Progress.member? (progress : Progress) (text : List Char) :
    Option (Progress × List Char) := do
  let (path, rest) ← readTarget? text
  let (value, rest) ← readValue? depthLimit (2 * text.length + 2) rest
  let rest ← afterLine? rest
  let (_, root) ←
    progress.root.descend false (Members.insertAt? path value) progress.current .header
  return ({ progress with root }, rest)

/-- Reads the lines of a document. -/
def readDocument? : Nat → Progress → List Char → Option Progress
  | 0, _, _ => none
  | fuel + 1, progress, text =>
    match skipSpaces text with
    | [] => some progress
    | '#' :: _ => (afterLine? text).bind (readDocument? fuel progress)
    | '\n' :: _ => (afterLine? text).bind (readDocument? fuel progress)
    | '\r' :: _ => (afterLine? text).bind (readDocument? fuel progress)
    | '[' :: rest => do
      let (progress, rest) ← progress.header? rest
      readDocument? fuel progress rest
    | text => do
      let (progress, rest) ← progress.member? text
      readDocument? fuel progress rest

/-- Drops the mark that may open a text. -/
def skipMark : List Char → List Char
  | '\uFEFF' :: rest => rest
  | text => text

/-- Reads a document as the table of its members. -/
def read? (text : String) : Option Toml :=
  let chars := skipMark text.toList
  (readDocument? (chars.length + 1) {} chars).map fun progress =>
    .table (membersToToml progress.root)

end StepRunner.Toml
