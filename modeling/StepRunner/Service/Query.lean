import StepRunner.Json.Reader
import StepRunner.Text.Blank
import StepRunner.Text.Utf8

/-!
This file takes the target of a request apart: the segments of its path and the pairs of its query.
-/

namespace StepRunner.Service

/-- Replaces each percent sign before two hexadecimal digits by the byte that they write. -/
def percentDecode : List UInt8 → List UInt8
  | 0x25 :: first :: second :: rest =>
    match Json.hexValue? (Char.ofNat first.toNat), Json.hexValue? (Char.ofNat second.toNat) with
    | some high, some low => UInt8.ofNat (16 * high + low) :: percentDecode rest
    | _, _ => 0x25 :: percentDecode (first :: second :: rest)
  | byte :: rest => byte :: percentDecode rest
  | [] => []

/-- The text of a segment of a path; its bytes have to be characters. -/
def segmentText? (segment : String) : Option String :=
  Utf8.decode? (percentDecode (Utf8.encode segment))

/-- The text of a part of a query; a plus sign stands for a space. -/
def queryText (part : List Char) : String :=
  let spaced := part.map fun char => if char = '+' then ' ' else char
  Utf8.decodeLossy (percentDecode (Utf8.encode (String.ofList spaced)))

/-- Splits a text at the first occurrence of a character; without one the second part is empty. -/
def splitOnce (separator : Char) (text : List Char) : List Char × List Char :=
  (text.takeWhile (· != separator), (text.dropWhile (· != separator)).drop 1)

/-- The names and values of a query. -/
def queryPairs (query : List Char) : List (String × String) :=
  ((Text.splitAt '&' query).filter fun pair => !pair.isEmpty).map fun pair =>
    let (name, value) := splitOnce '=' pair
    (queryText name, queryText value)

/-- The values that a query gives a name. -/
def queryValues (name : String) (pairs : List (String × String)) : List String :=
  (pairs.filter fun pair => pair.1 = name).map Prod.snd

/-- The target of a request. -/
structure Target where
  segments : List String
  query : List (String × String)
  deriving DecidableEq, Repr

/-- Takes a target apart. -/
def Target.ofText (text : String) : Target :=
  let (path, query) := splitOnce '?' (text.toList.takeWhile (· != '#'))
  { segments := ((Text.splitAt '/' path).drop 1).map String.ofList
    query := queryPairs query }

end StepRunner.Service
