import StepRunner.Disk.Path
import StepRunner.Error

/-!
This file models a disk with files, directories and symbolic links.
Paths are resolved link by link, as an operating system does.
-/

namespace StepRunner

open StepRunner.Path (Location)

/-- The content of a file. -/
abbrev Bytes := List UInt8

/-- What stands at a location of the disk. -/
inductive Node where
  | file (content : Bytes)
  | directory
  | link (target : String)
  deriving DecidableEq, Repr, Inhabited

/-- A disk lists what stands at each location; the root is always a directory. -/
structure Disk where
  entries : List (Location × Node) := []
  deriving DecidableEq, Repr, Inhabited

namespace Disk

/-- What stands at a location, without following a link. -/
def node? (disk : Disk) (location : Location) : Option Node :=
  if location = [] then some .directory
  else (disk.entries.find? fun entry => entry.1 = location).map Prod.snd

/-- A directory stands at a location. -/
def isDirectory (disk : Disk) (location : Location) : Bool :=
  disk.node? location = some .directory

/-- Puts a node at a location, in place of what stood there. -/
def put (disk : Disk) (location : Location) (node : Node) : Disk :=
  ⟨disk.entries.filter (fun entry => entry.1 ≠ location) ++ [(location, node)]⟩

/-- Removes a location and everything below it. -/
def removeTree (disk : Disk) (location : Location) : Disk :=
  ⟨disk.entries.filter fun entry => !Path.isBelow location entry.1⟩

/-- How many links a path may lead through. -/
def linkLimit : Nat := 40

/-- How many bytes a name may have. -/
def nameLimit : Nat := 255

/-- How many bytes a path may have. -/
def pathLimit : Nat := 4096

/--
Follows the pieces of a path from a directory.
A piece after something that is not a directory is an error, and so is a missing name.
-/
def walk (disk : Disk) (links : Nat) (place : Location) (todo : List String) :
    Except IoError Location :=
  match todo with
  | [] => .ok place
  | piece :: rest =>
    if !disk.isDirectory place then .error .notDirectory
    else if piece = "" ∨ piece = "." then walk disk links place rest
    else if piece = ".." then walk disk links place.dropLast rest
    else if nameLimit < piece.utf8ByteSize then .error .nameTooLong
    else
      match disk.node? (place ++ [piece]) with
      | none => .error .notFound
      | some (.link target) =>
        match links with
        | 0 => .error .linkLoop
        | links + 1 =>
          walk disk links (if Path.isAbsolute target then [] else place)
            (Path.pieces target ++ rest)
      | some _ => walk disk links (place ++ [piece]) rest
termination_by (links, todo.length)

/-- The location that a path leads to, through all links. -/
def resolve (disk : Disk) (path : String) : Except IoError Location :=
  if path.isEmpty then .error .notFound
  else if path.contains '\x00' then .error .invalidName
  else if pathLimit ≤ path.utf8ByteSize then .error .nameTooLong
  else walk disk linkLimit [] (Path.pieces path)

/-- Something stands where a path leads to. -/
def isThere (disk : Disk) (path : String) : Bool :=
  match disk.resolve path with
  | .ok _ => true
  | .error _ => false

/-- The content of the file at a location. -/
def readAt (disk : Disk) (location : Location) : Except IoError Bytes :=
  match disk.node? location with
  | some (.file content) => .ok content
  | some .directory => .error .isDirectory
  | some (.link _) => .error .linkLoop
  | none => .error .notFound

/-- The content of the file that a path leads to. -/
def read (disk : Disk) (path : String) : Except IoError Bytes :=
  (disk.resolve path).bind disk.readAt

/-- The directory that holds the last name of a path, and that name. -/
def slotOf (disk : Disk) (path : String) : Except IoError (Location × String) :=
  match (Path.names path).reverse with
  | [] => .error .occupied
  | name :: parents => do
    if path.contains '\x00' then throw .invalidName
    if pathLimit ≤ path.utf8ByteSize then throw .nameTooLong
    let parent ← disk.walk linkLimit [] parents.reverse
    if !disk.isDirectory parent then throw .notDirectory
    return (parent, name)

/-- Puts a finished file in place of what a path names; a directory is not replaced. -/
def replace (disk : Disk) (path : String) (content : Bytes) : Except IoError Disk := do
  let (parent, name) ← disk.slotOf path
  if nameLimit < name.utf8ByteSize then throw .nameTooLong
  if disk.isDirectory (parent ++ [name]) then throw .isDirectory
  return disk.put (parent ++ [name]) (.file content)

/--
Writes the file that a path leads to, creating it in its directory.
A path that ends in a slash or in a point creates nothing.
-/
def write (disk : Disk) (path : String) (content : Bytes) : Except IoError Disk :=
  match disk.resolve path with
  | .ok location =>
    if disk.isDirectory location then .error .isDirectory
    else .ok (disk.put location (.file content))
  | .error .notFound =>
    match (Path.pieces path).getLast? with
    | some "" => .error (if (disk.slotOf path).isOk then .isDirectory else .notFound)
    | some "." => .error .notFound
    | _ => disk.replace path content
  | .error error => .error error

/-- Creates a symbolic link where nothing stands. -/
def symlink (disk : Disk) (target path : String) : Except IoError Disk := do
  let (parent, name) ← disk.slotOf path
  if (disk.node? (parent ++ [name])).isSome then throw .occupied
  return disk.put (parent ++ [name]) (.link target)

/-- Creates the missing directories among the names of a path, from a directory down. -/
def makeDirectoriesFrom (disk : Disk) (place : Location) : List String → Except IoError Disk
  | [] => .ok disk
  | name :: rest =>
    let here := place ++ [name]
    if name = ".." then makeDirectoriesFrom disk place.dropLast rest
    else match disk.node? here with
    | none =>
      if nameLimit < name.utf8ByteSize then .error .nameTooLong
      else makeDirectoriesFrom (disk.put here .directory) here rest
    | some _ =>
      match disk.walk linkLimit place [name] with
      | .error error => .error error
      | .ok location =>
        if disk.isDirectory location then makeDirectoriesFrom disk location rest
        else if rest.isEmpty then .error .occupied
        else .error .notDirectory

/-- Creates the directory that a path names, together with its parents. -/
def makeDirectories (disk : Disk) (path : String) : Except IoError Disk :=
  disk.makeDirectoriesFrom [] (Path.names path)

/-- Creates the directories among the names of a path as far as that succeeds. -/
def makeDirectoriesWhile (disk : Disk) (names : List String) : Disk :=
  let reached (count : Nat) := (disk.makeDirectoriesFrom [] (names.take count)).toOption
  ((List.range (names.length + 1)).reverse.findSome? reached).getD disk

/-- Removes the directory or the link that a path names, with everything in it. -/
def removeDirectory (disk : Disk) (path : String) : Except IoError Disk := do
  let (parent, name) ← disk.slotOf path
  match disk.node? (parent ++ [name]) with
  | none => throw .notFound
  | some (.file _) => throw .notDirectory
  | some _ => return disk.removeTree (parent ++ [name])

/-- The locations below a directory, each with what stands there. -/
def below (disk : Disk) (root : Location) : List (Location × Node) :=
  disk.entries.filterMap fun (location, node) =>
    if Path.isBelow root location ∧ location ≠ root then some (location.drop root.length, node)
    else none

/-- The names in a directory. -/
def namesIn (disk : Disk) (directory : Location) : List String :=
  (disk.below directory).filterMap fun (location, _) =>
    match location with
    | [name] => some name
    | _ => none

/-- Writes a file together with the directories that lead to it. -/
def plant (disk : Disk) (path : String) (content : Bytes) : Except IoError Disk := do
  let disk ← disk.makeDirectories (Path.render (Path.names path).dropLast)
  disk.write path content

/-- The paths below a directory; the path of a directory ends in a slash. -/
def listing (disk : Disk) (root : Location) : List String :=
  (disk.below root).map fun (location, node) =>
    let path := "/".intercalate location
    match node with
    | .directory => path ++ "/"
    | _ => path

end Disk

end StepRunner
