import StepRunner.Toml.Basic

/-!
This file builds the tables of a document from its headers and its keys.
A table may be opened once; a table that a longer header implied may still be opened, and a table
that dotted keys made may only be extended by dotted keys.
-/

namespace StepRunner.Toml

/-- How a table came about. -/
inductive Origin where
  | header
  | implied
  | dotted
  deriving DecidableEq, Repr, Inhabited

/-- What stands at a key of a table that is being built. -/
inductive Node where
  | value (content : Toml)
  | table (origin : Origin) (members : List (String × Node))
  | tables (elements : List (List (String × Node)))
  deriving Inhabited

/-- The members of a table that is being built. -/
abbrev Members := List (String × Node)

namespace Members

/-- What stands at a key. -/
def get? (members : Members) (key : String) : Option Node :=
  (members.find? fun member => member.1 = key).map Prod.snd

/-- Replaces what stands at a key. -/
def replace (members : Members) (key : String) (node : Node) : Members :=
  members.map fun member => if member.1 = key then (key, node) else member

/-- Adds a key. -/
def add (members : Members) (key : String) (node : Node) : Members :=
  members ++ [(key, node)]

/--
Changes the table at the end of a path, and creates the tables that are missing on the way.
An array of tables stands for its last element.
-/
def descend (dotted : Bool) (change : Origin → Members → Option (Origin × Members)) :
    List String → Origin → Members → Option (Origin × Members)
  | [], origin, members => change origin members
  | key :: path, origin, members =>
    match members.get? key with
    | none => do
      let (made, content) ← descend dotted change path (if dotted then .dotted else .implied) []
      return (origin, members.add key (.table made content))
    | some (.value _) => none
    | some (.tables elements) => do
      let last ← elements.getLast?
      let (_, content) ← descend dotted change path .header last
      return (origin, members.replace key (.tables (elements.dropLast ++ [content])))
    | some (.table kind content) =>
      if dotted ∧ kind = .header then none
      else do
        let (kind, content) ← descend dotted change path kind content
        return (origin, members.replace key (.table kind content))

/-- Adds a value at a key that is new; the key is the last one of a dotted path or stands alone. -/
def insert? (dotted : Bool) (key : String) (value : Toml) (origin : Origin) (members : Members) :
    Option (Origin × Members) :=
  if dotted ≠ decide (origin = .dotted) then none
  else if (members.get? key).isSome then none
  else some (origin, members.add key (.value value))

/-- Adds the value of a dotted path to a table. -/
def insertAt? (path : List String) (value : Toml) (origin : Origin) (members : Members) :
    Option (Origin × Members) := do
  let key ← path.getLast?
  let dotted := !path.dropLast.isEmpty
  descend dotted (insert? dotted key value) path.dropLast origin members

/-- Opens the table of a header. -/
def openTable? (path : List String) (members : Members) : Option Members := do
  let key ← path.getLast?
  let opened (origin : Origin) (members : Members) : Option (Origin × Members) :=
    match members.get? key with
    | none => some (origin, members.add key (.table .header []))
    | some (.table .implied content) =>
      some (origin, members.replace key (.table .header content))
    | some _ => none
  let (_, members) ← descend false opened path.dropLast .header members
  return members

/-- Opens another element of an array of tables. -/
def openElement? (path : List String) (members : Members) : Option Members := do
  let key ← path.getLast?
  let opened (origin : Origin) (members : Members) : Option (Origin × Members) :=
    match members.get? key with
    | none => some (origin, members.add key (.tables [[]]))
    | some (.tables elements) =>
      some (origin, members.replace key (.tables (elements ++ [[]])))
    | some _ => none
  let (_, members) ← descend false opened path.dropLast .header members
  return members

end Members

mutual

/-- The finished value of a node. -/
def Node.toToml : Node → Toml
  | .value content => content
  | .table _ members => .table (membersToToml members)
  | .tables elements => .array (elementsToToml elements)

/-- The finished members of a table. -/
def membersToToml : List (String × Node) → List (String × Toml)
  | [] => []
  | (key, node) :: members => (key, node.toToml) :: membersToToml members

/-- The finished elements of an array of tables. -/
def elementsToToml : List (List (String × Node)) → List Toml
  | [] => []
  | members :: elements => .table (membersToToml members) :: elementsToToml elements

end

end StepRunner.Toml
