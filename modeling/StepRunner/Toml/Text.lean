import StepRunner.Json.Reader

/-!
This file reads the strings, the blanks and the comments of TOML.
A reader takes the characters of a text and gives what it read and the rest of the text.
-/

namespace StepRunner.Toml

/-- White space within a line. -/
def isSpace (char : Char) : Bool := char == ' ' || char == '\t'

/-- A control character that must not stand in a text; a tab may. -/
def isControl (char : Char) : Bool :=
  (char.toNat < 0x20 && char != '\t') || char.toNat == 0x7F

/-- Drops the white space at the start. -/
def skipSpaces (text : List Char) : List Char := text.dropWhile isSpace

/-- The rest of a text after a line ending at its start. -/
def afterNewline? : List Char → Option (List Char)
  | '\n' :: rest => some rest
  | '\r' :: '\n' :: rest => some rest
  | _ => none

/-- Drops one line ending at the start, if there is one. -/
def skipNewline (text : List Char) : List Char := (afterNewline? text).getD text

/-- The rest of a text after the content of a comment. -/
def afterComment (text : List Char) : List Char :=
  text.dropWhile fun char => !isControl char

/-- The rest of a text after blanks, an optional comment and the end of the line. -/
def afterLine? (text : List Char) : Option (List Char) :=
  let rest :=
    match skipSpaces text with
    | '#' :: rest => afterComment rest
    | rest => rest
  match rest with
  | [] => some []
  | rest => afterNewline? rest

/--
Drops white space, line endings and comments at the start.
The flag tells whether a comment is open.
-/
def skipLines : Bool → List Char → List Char
  | _, [] => []
  | _, '\n' :: rest => skipLines false rest
  | _, '\r' :: '\n' :: rest => skipLines false rest
  | true, char :: rest => if isControl char then char :: rest else skipLines true rest
  | false, char :: rest =>
    if isSpace char then skipLines false rest
    else if char = '#' then skipLines true rest
    else char :: rest

/-- The character with a hexadecimal number, when there is one. -/
def charOf? (digits : List Char) : Option Char := do
  let values ← digits.mapM Json.hexValue?
  let code := values.foldl (fun code value => 16 * code + value) 0
  if code.isValidChar then return Char.ofNat code else none

/-- The character of an escape with one letter. -/
def escaped? (letter : Char) : Option Char :=
  if letter = '/' then none else Json.shortEscape? letter

/-- Reads a string between double quotes, after the first of them. -/
def readBasic? : List Char → Option (List Char × List Char)
  | [] => none
  | '"' :: rest => some ([], rest)
  | '\\' :: 'u' :: a :: b :: c :: d :: rest =>
    match charOf? [a, b, c, d] with
    | some char => Json.readChar char (readBasic? rest)
    | none => none
  | '\\' :: 'U' :: a :: b :: c :: d :: e :: f :: g :: h :: rest =>
    match charOf? [a, b, c, d, e, f, g, h] with
    | some char => Json.readChar char (readBasic? rest)
    | none => none
  | '\\' :: letter :: rest =>
    match escaped? letter with
    | some char => Json.readChar char (readBasic? rest)
    | none => none
  | char :: rest => if isControl char then none else Json.readChar char (readBasic? rest)

/-- Reads a string between single quotes, after the first of them. -/
def readLiteral? : List Char → Option (List Char × List Char)
  | [] => none
  | '\'' :: rest => some ([], rest)
  | char :: rest => if isControl char then none else Json.readChar char (readLiteral? rest)

/-- Reads what closes a string of several lines: up to two more quotes belong to the string. -/
def closing (quote : Char) : List Char → List Char × List Char
  | first :: second :: rest =>
    if first = quote then
      if second = quote then ([quote, quote], rest) else ([quote], second :: rest)
    else ([], first :: second :: rest)
  | [first] => if first = quote then ([quote], []) else ([], [first])
  | [] => ([], [])

/-- A backslash at the end of a line joins the line with the next text. -/
def joinsLines (text : List Char) : Bool := (afterNewline? (skipSpaces text)).isSome

/--
Reads a string between three double quotes, after the first three.
While `joining` holds, white space and line endings are dropped.
-/
def readBasicLines? : Bool → List Char → Option (List Char × List Char)
  | _, [] => none
  | true, ' ' :: rest => readBasicLines? true rest
  | true, '\t' :: rest => readBasicLines? true rest
  | joining, '\n' :: rest =>
    if joining then readBasicLines? true rest else Json.readChar '\n' (readBasicLines? false rest)
  | joining, '\r' :: '\n' :: rest =>
    if joining then readBasicLines? true rest else Json.readChar '\n' (readBasicLines? false rest)
  | _, '"' :: '"' :: '"' :: rest => some (closing '"' rest)
  | _, '\\' :: 'u' :: a :: b :: c :: d :: rest =>
    match charOf? [a, b, c, d] with
    | some char => Json.readChar char (readBasicLines? false rest)
    | none => none
  | _, '\\' :: 'U' :: a :: b :: c :: d :: e :: f :: g :: h :: rest =>
    match charOf? [a, b, c, d, e, f, g, h] with
    | some char => Json.readChar char (readBasicLines? false rest)
    | none => none
  | _, '\\' :: letter :: rest =>
    if joinsLines (letter :: rest) then readBasicLines? true rest
    else
      match escaped? letter with
      | some char => Json.readChar char (readBasicLines? false rest)
      | none => none
  | _, char :: rest =>
    if isControl char then none else Json.readChar char (readBasicLines? false rest)

/-- Reads a string between three single quotes, after the first three. -/
def readLiteralLines? : List Char → Option (List Char × List Char)
  | [] => none
  | '\'' :: '\'' :: '\'' :: rest => some (closing '\'' rest)
  | '\n' :: rest => Json.readChar '\n' (readLiteralLines? rest)
  | '\r' :: '\n' :: rest => Json.readChar '\n' (readLiteralLines? rest)
  | char :: rest => if isControl char then none else Json.readChar char (readLiteralLines? rest)

/-- Reads a string of any of the four kinds. -/
def readString? (text : List Char) : Option (String × List Char) :=
  let chars :=
    match text with
    | '"' :: '"' :: '"' :: rest => readBasicLines? false (skipNewline rest)
    | '\'' :: '\'' :: '\'' :: rest => readLiteralLines? (skipNewline rest)
    | '"' :: rest => readBasic? rest
    | '\'' :: rest => readLiteral? rest
    | _ => none
  chars.map fun (chars, rest) => (String.ofList chars, rest)

end StepRunner.Toml
