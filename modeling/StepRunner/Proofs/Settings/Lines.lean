import StepRunner.Proofs.Toml.Scalars
import StepRunner.Proofs.Toml.Strings
import StepRunner.Settings.Config

/-!
This file shows how the lines of a configuration are read: each line with a setting adds a member
to the table that is open, and each header opens a table.
-/

namespace StepRunner.Toml

open Config (settingLine headerLines truthWord)

section Values

/-- A text is read as a value up to the end of its line. -/
structure ReadsAs (text : List Char) (value : Toml) : Prop where
  starts : ∃ first more, text = first :: more ∧ isSpace first = false
  reads : ∀ fuel rest,
    readValue? depthLimit (fuel + 1) (text ++ '\n' :: rest) = some (value, '\n' :: rest)

theorem writeString_eq_cons (text : String) :
    ∃ first more, writeString text = first :: more ∧ (first = '"' ∨ first = '\'') := by
  unfold writeString
  simp only
  cases Quoting.choose (Traits.of text.toList) with
  | basic => exact ⟨_, _, rfl, .inl rfl⟩
  | literal => exact ⟨_, _, rfl, .inr rfl⟩
  | basicLines => exact ⟨_, _, rfl, .inl rfl⟩
  | literalLines => exact ⟨_, _, rfl, .inr rfl⟩

theorem readsAs_writeString (text : String) : ReadsAs (writeString text) (.str text) := by
  obtain ⟨first, more, split, quoted⟩ := writeString_eq_cons text
  have read (rest : List Char) :
      readString? (writeString text ++ '\n' :: rest) = some (text, '\n' :: rest) :=
    readString?_writeString text (by simp [NotFirst]) (by simp [NotFirst])
  simp only [split, List.cons_append] at read
  rw [split]
  rcases quoted with rfl | rfl
  · exact ⟨⟨_, _, rfl, rfl⟩, fun fuel rest => by simp [readValue?, read]⟩
  · exact ⟨⟨_, _, rfl, rfl⟩, fun fuel rest => by simp [readValue?, read]⟩

/-- A run of characters that is judged as a value is read as it. -/
theorem readsAs_of_run {run : List Char} {value : Toml} (filled : run ≠ [])
    (inside : ∀ char ∈ run, isScalarChar char = true) (judged : scalar? run = some value) :
    ReadsAs run value := by
  obtain ⟨first, more, rfl⟩ := List.exists_cons_of_ne_nil filled
  have scalar : isScalarChar first = true := inside first List.mem_cons_self
  have other {mark : Char} (outside : isScalarChar mark = false) : first ≠ mark := by
    rintro rfl
    rw [scalar] at outside
    cases outside
  refine ⟨⟨first, more, rfl, ?_⟩, fun fuel rest => ?_⟩
  · simp [isSpace, other (show isScalarChar ' ' = false from rfl),
      other (show isScalarChar '\t' = false from rfl)]
  · have read : readScalar? (first :: more ++ '\n' :: rest) = some (value, '\n' :: rest) :=
      readScalar?_of_run inside judged
    rw [List.cons_append] at read ⊢
    rw [readValue?.eq_def]
    have bracket : first ≠ '[' := other rfl
    have brace : first ≠ '\x7b' := other rfl
    have double : first ≠ '"' := other rfl
    have single : first ≠ '\'' := other rfl
    simp [bracket, brace, double, single, read]

theorem isScalarChar_of_isDigit {char : Char} (digit : char.isDigit = true) :
    isScalarChar char = true := by
  simp [isScalarChar, Char.isAlphanum, digit]

theorem readsAs_decimalDigits {value : Nat} (fits : value < 2 ^ 63) :
    ReadsAs (Text.decimalDigits value) (.integer value) :=
  readsAs_of_run (Text.decimalDigits_ne_nil value)
    (fun _ present => isScalarChar_of_isDigit (Text.isDigit_of_mem_decimalDigits present))
    (scalar?_decimalDigits fits)

theorem readsAs_truthWord (value : Bool) : ReadsAs (truthWord value) (.boolean value) := by
  cases value with
  | true =>
    have inside : "true".toList.all isScalarChar = true := rfl
    exact readsAs_of_run (by decide) (List.all_eq_true.1 inside) (by simp [scalar?, truthWord])
  | false =>
    have inside : "false".toList.all isScalarChar = true := rfl
    exact readsAs_of_run (by decide) (List.all_eq_true.1 inside) (by simp [scalar?, truthWord])

end Values

section Steps

variable {name table : String} {text rest : List Char} {value : Toml} {progress final : Progress}
  {root content : Members}

/-- A key that needs no quotes. -/
structure BareKey (name : String) : Prop where
  filled : name.toList ≠ []
  plain : ∀ char ∈ name.toList, isKeyChar char = true

theorem ne_of_isKeyChar {char mark : Char} (plain : isKeyChar char = true)
    (other : isKeyChar mark = false) : char ≠ mark := by
  rintro rfl
  rw [plain] at other
  cases other

/-- The start of a key is no space. -/
theorem BareKey.skipSpaces (key : BareKey name) (rest : List Char) :
    skipSpaces (name.toList ++ rest) = name.toList ++ rest := by
  obtain ⟨first, more, split⟩ := List.exists_cons_of_ne_nil key.filled
  have plain : isKeyChar first = true := key.plain first (split ▸ List.mem_cons_self)
  have blank : isSpace first = false := by
    simp [isSpace, ne_of_isKeyChar plain (show isKeyChar ' ' = false from rfl),
      ne_of_isKeyChar plain (show isKeyChar '\t' = false from rfl)]
  rw [split, List.cons_append, Toml.skipSpaces, List.dropWhile_cons_of_neg (by simp [blank])]

/-- A key is read up to the first character that cannot belong to it. -/
theorem BareKey.readKey? (key : BareKey name)
    (stops : ∀ char ∈ rest.head?, isKeyChar char = false) :
    readKey? (name.toList ++ rest) = some (name, rest) := by
  have span := Text.spanWhile_of_head key.plain stops
  obtain ⟨first, more, split⟩ := List.exists_cons_of_ne_nil key.filled
  have plain : isKeyChar first = true := key.plain first (split ▸ List.mem_cons_self)
  have whole : String.ofList (first :: more) = name := by rw [← split, String.ofList_toList]
  rw [split, List.cons_append] at span ⊢
  have double : first ≠ '"' := ne_of_isKeyChar plain rfl
  have single : first ≠ '\'' := ne_of_isKeyChar plain rfl
  simp [Toml.readKey?, double, single, span, whole]

/-- The name of a setting is read up to its value. -/
theorem readTarget?_settingLine (key : BareKey name) (reads : ReadsAs text value) :
    readTarget? (settingLine name text ++ rest) = some ([name], text ++ '\n' :: rest) := by
  obtain ⟨first, more, split, blank⟩ := reads.starts
  have line : settingLine name text ++ rest =
      name.toList ++ (' ' :: '=' :: ' ' :: (text ++ '\n' :: rest)) := by
    simp [settingLine]
  have value : Toml.skipSpaces (' ' :: (text ++ '\n' :: rest)) = text ++ '\n' :: rest := by
    have inked : ¬first = ' ' ∧ ¬first = '\t' := by simpa [isSpace] using blank
    simp [Toml.skipSpaces, split, isSpace, inked]
  have path : readPath? depthLimit (settingLine name text ++ rest) =
      some ([name], '=' :: ' ' :: (text ++ '\n' :: rest)) := by
    rw [line, depthLimit, readPath?, key.skipSpaces, key.readKey? (by simp; rfl)]
    simp [Toml.skipSpaces, isSpace]
  rw [readTarget?, path]
  simp only [value]

/-- A line with a setting adds a member to the table that is open. -/
theorem member?_settingLine (key : BareKey name) (reads : ReadsAs text value) {origin : Origin}
    (placed : progress.root.descend false (Members.insertAt? [name] value) progress.current
      .header = some (origin, root)) :
    progress.member? (settingLine name text ++ rest) = some ({ progress with root }, rest) := by
  have line : afterLine? ('\n' :: rest) = some rest := rfl
  have read (fuel : Nat) : readValue? depthLimit (fuel + 2) (text ++ '\n' :: rest) =
      some (value, '\n' :: rest) := reads.reads (fuel + 1) rest
  simp [Progress.member?, readTarget?_settingLine key reads, read, line, placed]

theorem settingLine_eq_cons (key : BareKey name) (text : List Char) :
    ∃ first more, settingLine name text = first :: more ∧ isKeyChar first = true := by
  obtain ⟨first, more, split⟩ := List.exists_cons_of_ne_nil key.filled
  refine ⟨first, more ++ " = ".toList ++ text ++ ['\n'], ?_,
    key.plain first (split ▸ List.mem_cons_self)⟩
  rw [settingLine, split]
  rfl

/-- A text is read line by line to the end. -/
def Finishes (progress : Progress) (text : List Char) (final : Progress) : Prop :=
  ∀ fuel, text.length < fuel → readDocument? fuel progress text = some final

theorem finishes_nil (progress : Progress) : Finishes progress [] progress := by
  intro fuel enough
  obtain ⟨fuel, rfl⟩ := Nat.exists_eq_add_one_of_ne_zero (Nat.ne_of_gt enough)
  rfl

theorem Finishes.settingLine (later : Finishes { progress with root } rest final)
    (key : BareKey name) (reads : ReadsAs text value) {origin : Origin}
    (placed : progress.root.descend false (Members.insertAt? [name] value) progress.current
      .header = some (origin, root)) :
    Finishes progress (settingLine name text ++ rest) final := by
  intro fuel enough
  obtain ⟨fuel, rfl⟩ := Nat.exists_eq_add_one_of_ne_zero (show fuel ≠ 0 by omega)
  have member : progress.member? (Config.settingLine name text ++ rest) =
      some ({ progress with root }, rest) := member?_settingLine key reads placed
  obtain ⟨first, more, split, plain⟩ := settingLine_eq_cons key text
  rw [split, List.cons_append] at member enough ⊢
  have shorter : rest.length < fuel := by
    simp only [List.length_cons, List.length_append] at enough
    omega
  have blank : isSpace first = false := by
    simp [isSpace, ne_of_isKeyChar plain (show isKeyChar ' ' = false from rfl),
      ne_of_isKeyChar plain (show isKeyChar '\t' = false from rfl)]
  have comment : first ≠ '#' := ne_of_isKeyChar plain rfl
  have newline : first ≠ '\n' := ne_of_isKeyChar plain rfl
  have carriage : first ≠ '\r' := ne_of_isKeyChar plain rfl
  have bracket : first ≠ '[' := ne_of_isKeyChar plain rfl
  rw [readDocument?.eq_def]
  simp [skipSpaces, blank, comment, newline, carriage, bracket, member, later fuel shorter]

/-- A header opens a table that is new. -/
theorem header?_headerLines (key : BareKey name) (fresh : progress.root.get? name = none) :
    progress.header? (name.toList ++ ']' :: '\n' :: rest) =
      some (⟨progress.root.add name (.table .header []), [name]⟩, rest) := by
  have path : readPath? depthLimit (name.toList ++ ']' :: '\n' :: rest) =
      some ([name], ']' :: '\n' :: rest) := by
    rw [depthLimit, readPath?, key.skipSpaces, key.readKey? (by simp; rfl)]
    simp [skipSpaces, isSpace]
  have line : afterLine? ('\n' :: rest) = some rest := rfl
  have opened : progress.root.openTable? [name] =
      some (progress.root.add name (.table .header [])) := by
    simp [Members.openTable?, Members.descend, fresh]
  obtain ⟨first, more, split⟩ := List.exists_cons_of_ne_nil key.filled
  have plain : isKeyChar first = true := key.plain first (split ▸ List.mem_cons_self)
  have bracket : first ≠ '[' := ne_of_isKeyChar plain rfl
  rw [split, List.cons_append] at path ⊢
  unfold Progress.header?
  simp [bracket, path, line, opened]

theorem Finishes.headerLines
    (later : Finishes ⟨progress.root.add name (.table .header []), [name]⟩ rest final)
    (key : BareKey name) (fresh : progress.root.get? name = none) :
    Finishes progress (headerLines name ++ rest) final := by
  intro fuel enough
  have lines : Config.headerLines name ++ rest =
      '\n' :: '[' :: (name.toList ++ ']' :: '\n' :: rest) := by simp [Config.headerLines]
  rw [lines] at enough ⊢
  simp only [List.length_cons, List.length_append] at enough
  obtain ⟨fuel, rfl⟩ := Nat.exists_eq_add_of_le' (show 2 ≤ fuel by omega)
  have empty : readDocument? (fuel + 2) progress
      ('\n' :: '[' :: (name.toList ++ ']' :: '\n' :: rest)) =
        readDocument? (fuel + 1) progress ('[' :: (name.toList ++ ']' :: '\n' :: rest)) := rfl
  rw [empty, readDocument?.eq_def]
  simp [skipSpaces, isSpace, header?_headerLines key fresh, later fuel (by omega)]

end Steps

end StepRunner.Toml
