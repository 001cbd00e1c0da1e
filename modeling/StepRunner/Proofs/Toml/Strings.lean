import Mathlib.Tactic.SplitIfs
import StepRunner.Toml.Writer

/-!
This file shows that a string is read back from its text, whichever way it is quoted.
-/

namespace StepRunner.Toml

/-- A text does not begin with a mark. -/
def NotFirst (mark : Char) (text : List Char) : Prop :=
  ∀ first ∈ text.head?, first ≠ mark

section Escapes

theorem hexValue?_capitalDigit :
    ∀ value < 16, Json.hexValue? (capitalDigit value) = some value := by
  decide

/-- A character of one byte is read from its hexadecimal digits. -/
theorem charOf?_capitalDigits {char : Char} (small : char.toNat < 128) :
    charOf? ['0', '0', capitalDigit (char.toNat / 16), capitalDigit (char.toNat % 16)] =
      some char := by
  have zero : Json.hexValue? '0' = some 0 := rfl
  have code : 16 * (char.toNat / 16) + char.toNat % 16 = char.toNat := by omega
  have valid : char.toNat.isValidChar := .inl (by omega)
  simp [charOf?, zero, hexValue?_capitalDigit (char.toNat / 16) (by omega),
    hexValue?_capitalDigit (char.toNat % 16) (by omega), code, valid, Char.ofNat_toNat]

/-- A reader of strings understands escapes, and takes a character without an escape as it is. -/
structure Unescapes (read : List Char → Option (List Char × List Char)) : Prop where
  short : ∀ letter char rest, escaped? letter = some char →
    read ('\\' :: letter :: rest) = Json.readChar char (read rest)
  code : ∀ a b c d char rest, charOf? [a, b, c, d] = some char →
    read ('\\' :: 'u' :: a :: b :: c :: d :: rest) = Json.readChar char (read rest)
  plain : ∀ char rest, isControl char = false → char ≠ '"' → char ≠ '\\' →
    read (char :: rest) = Json.readChar char (read rest)

theorem ne_of_escaped? {letter char mark : Char} (escape : escaped? letter = some char)
    (none : escaped? mark = none) : letter ≠ mark := by
  rintro rfl
  rw [none] at escape
  cases escape

theorem unescapes_readBasic? : Unescapes readBasic? where
  short := by
    intro letter char rest escape
    have small : letter ≠ 'u' := ne_of_escaped? escape rfl
    have capital : letter ≠ 'U' := ne_of_escaped? escape rfl
    rw [readBasic?.eq_def]
    simp [small, capital, escape]
  code := by
    intro a b c d char rest code
    rw [readBasic?, code]
  plain := by
    intro char rest printed quote slash
    rw [readBasic?.eq_def]
    simp [slash, printed]

/-- No letter of an escape is white space. -/
theorem joinsLines_eq_false {letter char : Char} (rest : List Char)
    (escape : escaped? letter = some char) : joinsLines (letter :: rest) = false := by
  have blank : isSpace letter = false := by
    simp [isSpace, ne_of_escaped? escape (show escaped? ' ' = none from rfl),
      ne_of_escaped? escape (show escaped? '\t' = none from rfl)]
  have line : letter ≠ '\n' := ne_of_escaped? escape rfl
  have carriage : letter ≠ '\r' := ne_of_escaped? escape rfl
  have same : skipSpaces (letter :: rest) = letter :: rest :=
    List.dropWhile_cons_of_neg (by simp [blank])
  rw [joinsLines, same, afterNewline?.eq_def]
  simp [line, carriage]

theorem unescapes_readBasicLines? : Unescapes (readBasicLines? false) where
  short := by
    intro letter char rest escape
    have small : letter ≠ 'u' := ne_of_escaped? escape rfl
    have capital : letter ≠ 'U' := ne_of_escaped? escape rfl
    rw [readBasicLines?.eq_def]
    simp [small, capital, escape, joinsLines_eq_false rest escape]
  code := by
    intro a b c d char rest code
    rw [readBasicLines?.eq_def]
    simp [code]
  plain := by
    intro char rest printed quote slash
    have line : char ≠ '\n' := by rintro rfl; cases printed
    have carriage : char ≠ '\r' := by rintro rfl; cases printed
    rw [readBasicLines?.eq_def]
    simp [quote, slash, carriage, printed]

variable {read : List Char → Option (List Char × List Char)} {severalLines : Bool}

/-- A character that is no double quote is read back as it is written. -/
theorem Unescapes.escapeChar (unescapes : Unescapes read)
    (lines : severalLines = true → ∀ rest, read ('\n' :: rest) = Json.readChar '\n' (read rest))
    {char : Char} (quote : char ≠ '"') (rest : List Char) :
    read (Toml.escapeChar severalLines char ++ rest) = Json.readChar char (read rest) := by
  unfold Toml.escapeChar
  split_ifs with back tab line several feed carriage slash control
  · exact unescapes.short 'b' char rest (by rw [back]; rfl)
  · exact unescapes.short 't' char rest (by rw [tab]; rfl)
  · rw [line]
    exact lines several rest
  · exact unescapes.short 'n' char rest (by rw [line]; rfl)
  · exact unescapes.short 'f' char rest (by rw [feed]; rfl)
  · exact unescapes.short 'r' char rest (by rw [carriage]; rfl)
  · exact unescapes.short '\\' char rest (by rw [slash]; rfl)
  · refine unescapes.code _ _ _ _ char rest (charOf?_capitalDigits ?_)
    simp only [isControl, Bool.or_eq_true, Bool.and_eq_true, decide_eq_true_eq, beq_iff_eq]
      at control
    omega
  · exact unescapes.plain char rest (by simpa using control) quote slash

end Escapes

section OneLine

/-- A string with escapes is read back up to its closing quote. -/
theorem readBasic?_escapeText (text rest : List Char) (opened : Nat) :
    readBasic? (escapeText false opened text ++ '"' :: rest) = some (text, rest) := by
  induction text generalizing opened with
  | nil => rfl
  | cons char text inductionHypothesis =>
    by_cases quote : char = '"'
    · subst quote
      have short := unescapes_readBasic?.short '"' '"'
        (escapeText false 0 text ++ '"' :: rest) rfl
      simpa [escapeText, inductionHypothesis, Json.readChar] using short
    · have read : readBasic? (escapeChar false char ++ (escapeText false 0 text ++ '"' :: rest)) =
          Json.readChar char (readBasic? (escapeText false 0 text ++ '"' :: rest)) :=
        unescapes_readBasic?.escapeChar (by simp) quote _
      rw [inductionHypothesis] at read
      rw [escapeText, List.append_assoc, read]
      · rfl
      · exact fun same => quote same

/-- A string without escapes is read back up to its closing quote. -/
theorem readLiteral?_append {text : List Char} (free : '\'' ∉ text)
    (printed : ∀ char ∈ text, isControl char = false) (rest : List Char) :
    readLiteral? (text ++ '\'' :: rest) = some (text, rest) := by
  induction text with
  | nil => rfl
  | cons char text inductionHypothesis =>
    obtain ⟨other, free⟩ := not_or.1 (mt List.mem_cons.2 free)
    obtain ⟨clean, printed⟩ := List.forall_mem_cons.1 printed
    rw [List.cons_append, readLiteral?, inductionHypothesis free printed, clean]
    · rfl
    · exact fun same => other same.symm

end OneLine

section SeveralLines

variable {quote : Char} {text rest : List Char}

/-- Up to two quotes before the three that close a string belong to the string. -/
theorem closing_eq (quote : Char) (ends : NotFirst quote rest) :
    closing quote rest = ([], rest) ∧ closing quote (quote :: rest) = ([quote], rest) ∧
      closing quote (quote :: quote :: rest) = ([quote, quote], rest) := by
  cases rest with
  | nil => simp [closing]
  | cons first rest =>
    have other : first ≠ quote := ends first rfl
    cases rest <;> simp [closing, other]

theorem readLiteralLines?_cons {char : Char} (printed : isControl char = false)
    (more : ∀ others, char :: text ≠ '\'' :: '\'' :: '\'' :: others) :
    readLiteralLines? (char :: text) = Json.readChar char (readLiteralLines? text) := by
  have line : char ≠ '\n' := by rintro rfl; cases printed
  have carriage : char ≠ '\r' := by rintro rfl; cases printed
  rw [readLiteralLines?.eq_def]
  split
  · next ends => cases ends
  · next others ends => exact absurd ends (more others)
  · next ends => exact absurd (List.cons.inj ends).1 line
  · next ends => exact absurd (List.cons.inj ends).1 carriage
  · next same =>
    obtain ⟨rfl, rfl⟩ := List.cons.inj same
    rw [printed, if_neg Bool.false_ne_true]

theorem readBasicLines?_quote (more : ∀ others, text ≠ '"' :: '"' :: others) :
    readBasicLines? false ('"' :: text) = Json.readChar '"' (readBasicLines? false text) := by
  rw [readBasicLines?.eq_def]
  simp [more, show isControl '"' = false from rfl]

/-- A run that is open is part of the longest run. -/
theorem le_longestRun (mark : Char) (text : List Char) (opened : Nat) :
    opened ≤ longestRun mark opened text := by
  induction text generalizing opened with
  | nil => exact Nat.le_refl _
  | cons first text inductionHypothesis =>
    rw [longestRun]
    split
    · exact Nat.le_of_succ_le (inductionHypothesis (opened + 1))
    · exact Nat.le_max_left _ _

theorem longestRun_le {more less : Nat} (mark : Char) (text : List Char) (fewer : less ≤ more) :
    longestRun mark less text ≤ longestRun mark more text := by
  induction text generalizing less more with
  | nil => exact fewer
  | cons first text inductionHypothesis =>
    rw [longestRun, longestRun]
    split
    · exact inductionHypothesis (Nat.succ_le_succ fewer)
    · omega

/-- The longest run of a text is none of its rest that is longer. -/
theorem longestRun_tail_le (mark first : Char) (text : List Char) :
    longestRun mark 0 text ≤ longestRun mark 0 (first :: text) := by
  rw [longestRun]
  split
  · exact longestRun_le mark text (Nat.zero_le 1)
  · exact Nat.le_max_right _ _

/-- After a quote come no two others, unless they close the string. -/
theorem cases_of_longestRun_le (tail : List Char) (short : longestRun quote 1 text ≤ 2) :
    text = [] ∨ text = [quote] ∨ ∀ others, text ++ tail ≠ quote :: quote :: others := by
  rcases text with _ | ⟨first, _ | ⟨second, text⟩⟩
  · exact .inl rfl
  · by_cases same : first = quote
    · exact .inr (.inl (by rw [same]))
    · exact .inr (.inr fun others equal => same (List.cons.inj equal).1)
  · refine .inr (.inr fun others equal => ?_)
    obtain ⟨rfl, equal⟩ := List.cons.inj equal
    obtain ⟨rfl, -⟩ := List.cons.inj equal
    rw [longestRun, if_pos rfl, longestRun, if_pos rfl] at short
    have three : 3 ≤ longestRun second (1 + 1 + 1) text := le_longestRun second text 3
    omega

/-- A string of several lines without escapes is read back up to its closing quotes. -/
theorem readLiteralLines?_append (ends : NotFirst '\'' rest)
    (short : longestRun '\'' 0 text ≤ 2)
    (printed : ∀ char ∈ text, isControl char = true → char = '\n') :
    readLiteralLines? (text ++ '\'' :: '\'' :: '\'' :: rest) = some (text, rest) := by
  obtain ⟨none, one, two⟩ := closing_eq '\'' ends
  induction text with
  | nil => exact congrArg some none
  | cons char text inductionHypothesis =>
    obtain ⟨clean, others⟩ := List.forall_mem_cons.1 printed
    have read := inductionHypothesis (Nat.le_trans (longestRun_tail_le _ _ _) short) others
    by_cases quote : char = '\''
    · subst quote
      rw [longestRun, if_pos rfl] at short
      rcases cases_of_longestRun_le ('\'' :: '\'' :: '\'' :: rest) short with rfl | rfl | more
      · exact congrArg some one
      · exact congrArg some two
      · rw [List.cons_append, readLiteralLines?_cons rfl, read]
        · rfl
        · exact fun others equal => more others (List.cons.inj equal).2
    · by_cases line : char = '\n'
      · subst line
        rw [List.cons_append, readLiteralLines?, read]
        rfl
      · have plain : isControl char = false := by simpa using mt clean line
        rw [List.cons_append, readLiteralLines?_cons plain, read]
        · rfl
        · exact fun others equal => quote (List.cons.inj equal).1

/-- A character that is no double quote is not written with one in front. -/
theorem escapeChar_eq_cons (severalLines : Bool) {char : Char} (other : char ≠ '"') :
    ∃ first more, escapeChar severalLines char = first :: more ∧ first ≠ '"' := by
  unfold escapeChar
  split_ifs <;> first | exact ⟨_, _, rfl, by decide⟩ | exact ⟨_, _, rfl, other⟩

/-- After two double quotes, and in a single line, a text with escapes begins otherwise. -/
theorem escapeText_eq_cons {severalLines : Bool} {opened : Nat} (char : Char) (text : List Char)
    (full : char = '"' → ¬(severalLines = true ∧ opened < 2)) :
    ∃ first more, escapeText severalLines opened (char :: text) = first :: more ∧ first ≠ '"' := by
  by_cases quote : char = '"'
  · subst quote
    exact ⟨'\\', _, by rw [escapeText, if_neg (full rfl)], by decide⟩
  · obtain ⟨first, more, split, other⟩ := escapeChar_eq_cons severalLines quote
    refine ⟨first, more ++ escapeText severalLines 0 text, ?_, other⟩
    rw [escapeText, split, List.cons_append]
    exact fun same => quote same

/-- After a double quote come no two others, unless they close the string. -/
theorem cases_of_escapeText (opened : Nat) (text tail : List Char) :
    text = [] ∨ opened = 0 ∧ text = ['"'] ∨
      ∀ others, escapeText true (opened + 1) text ++ tail ≠ '"' :: '"' :: others := by
  rcases text with _ | ⟨first, text⟩
  · exact .inl rfl
  by_cases room : first = '"' ∧ opened = 0
  · obtain ⟨rfl, rfl⟩ := room
    cases text with
    | nil => exact .inr (.inl ⟨rfl, rfl⟩)
    | cons second text =>
      obtain ⟨head, more, split, other⟩ : ∃ head more,
          escapeText true 2 (second :: text) = head :: more ∧ head ≠ '"' :=
        escapeText_eq_cons second text (by simp)
      refine .inr (.inr fun others equal => ?_)
      rw [escapeText, if_pos (by decide), split] at equal
      exact other (List.cons.inj (List.cons.inj equal).2).1
  · have full : first = '"' → ¬(true = true ∧ opened + 1 < 2) := by
      rintro quote ⟨-, few⟩
      exact room ⟨quote, by omega⟩
    obtain ⟨head, more, split, other⟩ := escapeText_eq_cons first text full
    refine .inr (.inr fun others equal => ?_)
    rw [split] at equal
    exact other (List.cons.inj equal).1

/-- A string of several lines with escapes is read back up to its closing quotes. -/
theorem readBasicLines?_escapeText (ends : NotFirst '"' rest) (opened : Nat) :
    readBasicLines? false (escapeText true opened text ++ '"' :: '"' :: '"' :: rest) =
      some (text, rest) := by
  obtain ⟨none, one, two⟩ := closing_eq '"' ends
  induction text generalizing opened with
  | nil => exact congrArg some none
  | cons char text inductionHypothesis =>
    by_cases quote : char = '"'
    · subst quote
      by_cases room : opened < 2
      · rcases cases_of_escapeText opened text ('"' :: '"' :: '"' :: rest) with
          rfl | ⟨rfl, rfl⟩ | more
        · rw [escapeText, if_pos ⟨rfl, room⟩]
          exact congrArg some one
        · exact congrArg some two
        · rw [escapeText, if_pos ⟨rfl, room⟩, List.cons_append, readBasicLines?_quote more,
            inductionHypothesis]
          rfl
      · rw [escapeText, if_neg (by simp [room]), List.cons_append, List.cons_append,
          unescapes_readBasicLines?.short '"' '"' _ rfl, inductionHypothesis]
        rfl
    · have read : readBasicLines? false (escapeChar true char ++
          (escapeText true 0 text ++ '"' :: '"' :: '"' :: rest)) = Json.readChar char
            (readBasicLines? false (escapeText true 0 text ++ '"' :: '"' :: '"' :: rest)) :=
        unescapes_readBasicLines?.escapeChar
          (fun _ more => by rw [readBasicLines?.eq_def]; simp) quote _
      rw [escapeText, List.append_assoc, read, inductionHypothesis]
      · rfl
      · exact fun same => quote same

/-- The line ending after the opening quotes is no part of a string of several lines. -/
theorem skipNewline_opening {newline : Bool}
    (begins : newline = false → NotFirst '\n' text ∧ NotFirst '\r' text) :
    skipNewline ((if newline = true then ['\n'] else []) ++ text) = text := by
  cases newline with
  | true => rfl
  | false =>
    obtain ⟨line, carriage⟩ := begins rfl
    rw [if_neg Bool.false_ne_true, List.nil_append, skipNewline]
    unfold afterNewline?
    split
    · exact absurd rfl (line _ rfl)
    · exact absurd rfl (carriage _ rfl)
    · rfl

end SeveralLines

section Quoted

variable {text rest : List Char}

theorem choose_eq_literal {traits : Traits} (chosen : Quoting.choose traits = .literal) :
    traits.hasControl = false ∧ traits.singles = 0 ∧ traits.hasNewline = false := by
  unfold Quoting.choose at chosen
  simp only at chosen
  split_ifs at chosen
  simp_all

theorem choose_eq_literalLines {traits : Traits} (chosen : Quoting.choose traits = .literalLines) :
    traits.hasControl = false ∧ traits.singles ≤ 2 := by
  unfold Quoting.choose at chosen
  simp only at chosen
  split_ifs at chosen
  simp_all

theorem not_mem_of_longestRun {mark : Char} (none : longestRun mark 0 text = 0) : mark ∉ text := by
  induction text with
  | nil => exact List.not_mem_nil
  | cons first text inductionHypothesis =>
    have fewer := longestRun_tail_le mark first text
    have tail := inductionHypothesis (by omega)
    refine fun present => (List.mem_cons.1 present).elim (fun same => ?_) tail
    rw [longestRun, if_pos same.symm] at none
    have one := le_longestRun mark text (0 + 1)
    omega

theorem eq_newline_of_isControl (clean : (Traits.of text).hasControl = false) :
    ∀ char ∈ text, isControl char = true → char = '\n' := by
  intro char present control
  have kept := List.any_eq_false.1 clean char present
  simpa [control] using kept

theorem newline_not_mem (single : (Traits.of text).hasNewline = false) : '\n' ∉ text := by
  simpa [Traits.of] using single

/-- A character is not written as a line ending unless it is one. -/
theorem escapeChar_eq_cons_of_ne {char : Char} (line : char ≠ '\n') :
    ∃ first more, escapeChar true char = first :: more ∧ first ≠ '\n' ∧ first ≠ '\r' := by
  unfold escapeChar
  split_ifs with back tab feed carriage slash control
  · exact ⟨_, _, rfl, by decide⟩
  · exact ⟨_, _, rfl, by decide⟩
  · exact ⟨_, _, rfl, by decide⟩
  · exact ⟨_, _, rfl, by decide⟩
  · exact ⟨_, _, rfl, by decide⟩
  · exact ⟨_, _, rfl, by decide⟩
  · exact ⟨_, _, rfl, line, carriage⟩

theorem notFirst_escapeText (single : '\n' ∉ text) :
    NotFirst '\n' (escapeText true 0 text ++ '"' :: rest) ∧
      NotFirst '\r' (escapeText true 0 text ++ '"' :: rest) := by
  cases text with
  | nil => simp [escapeText, NotFirst]
  | cons char text =>
    by_cases quote : char = '"'
    · subst quote
      simp [escapeText, NotFirst]
    · obtain ⟨first, more, split, line, carriage⟩ :=
        escapeChar_eq_cons_of_ne fun same => single (same ▸ List.mem_cons_self)
      rw [escapeText, split]
      · simp [NotFirst, line, carriage]
      · exact fun same => quote same

theorem notFirst_literal (single : '\n' ∉ text)
    (printed : ∀ char ∈ text, isControl char = true → char = '\n') :
    NotFirst '\n' (text ++ '\'' :: rest) ∧ NotFirst '\r' (text ++ '\'' :: rest) := by
  cases text with
  | nil => simp [NotFirst]
  | cons char text =>
    have line : char ≠ '\n' := fun same => single (same ▸ List.mem_cons_self)
    have carriage : char ≠ '\r' := by
      rintro rfl
      exact line (printed _ List.mem_cons_self rfl)
    simp [NotFirst, line, carriage]

/-- A string that does not begin with three double quotes is read up to the next one. -/
theorem readString?_basic (more : ∀ others, text ≠ '"' :: '"' :: others) :
    readString? ('"' :: text) =
      (readBasic? text).map fun (chars, rest) => (String.ofList chars, rest) := by
  unfold readString?
  simp

/-- A string that does not begin with three single quotes is read up to the next one. -/
theorem readString?_literal (more : ∀ others, text ≠ '\'' :: '\'' :: others) :
    readString? ('\'' :: text) =
      (readLiteral? text).map fun (chars, rest) => (String.ofList chars, rest) := by
  unfold readString?
  simp

/-- A string is read back from its text, whatever stands after it but another quote. -/
theorem readString?_writeString (text : String) (double : NotFirst '"' rest)
    (one : NotFirst '\'' rest) :
    readString? (writeString text ++ rest) = some (text, rest) := by
  have whole : String.ofList text.toList = text := String.ofList_toList
  unfold writeString
  simp only
  generalize text.toList = chars at whole
  cases chosen : Quoting.choose (Traits.of chars) with
  | basic =>
    have more : ∀ others, escapeText false 0 chars ++ '"' :: rest ≠ '"' :: '"' :: others := by
      intro others equal
      cases chars with
      | nil =>
        rw [escapeText, List.nil_append] at equal
        exact double '"' (by rw [(List.cons.inj equal).2]; rfl) rfl
      | cons char chars =>
        obtain ⟨first, tail, split, other⟩ : ∃ first tail,
            escapeText false 0 (char :: chars) = first :: tail ∧ first ≠ '"' :=
          escapeText_eq_cons char chars (by simp)
        rw [split] at equal
        exact other (List.cons.inj equal).1
    simp only [List.cons_append, List.append_assoc, List.nil_append]
    rw [readString?_basic more, readBasic?_escapeText, ← whole]
    rfl
  | literal =>
    obtain ⟨clean, none, single⟩ := choose_eq_literal chosen
    have free : '\'' ∉ chars := not_mem_of_longestRun none
    have printed : ∀ char ∈ chars, isControl char = false := by
      intro char present
      have line : char ≠ '\n' := fun same => newline_not_mem single (same ▸ present)
      simpa using mt (eq_newline_of_isControl clean char present) line
    have more : ∀ others, chars ++ '\'' :: rest ≠ '\'' :: '\'' :: others := by
      intro others equal
      cases chars with
      | nil => exact one '\'' (by rw [(List.cons.inj equal).2]; rfl) rfl
      | cons char chars => exact free ((List.cons.inj equal).1 ▸ List.mem_cons_self)
    simp only [List.cons_append, List.append_assoc, List.nil_append]
    rw [readString?_literal more, readLiteral?_append free printed, ← whole]
    rfl
  | basicLines =>
    have begins : (Traits.of chars).hasNewline = false →
        NotFirst '\n' (escapeText true 0 chars ++ '"' :: '"' :: '"' :: rest) ∧
          NotFirst '\r' (escapeText true 0 chars ++ '"' :: '"' :: '"' :: rest) :=
      fun single => notFirst_escapeText (newline_not_mem single)
    simp only [List.cons_append, List.append_assoc, List.nil_append]
    simp only [readString?, skipNewline_opening begins, readBasicLines?_escapeText double,
      Option.map_some, whole]
  | literalLines =>
    obtain ⟨clean, short⟩ := choose_eq_literalLines chosen
    have printed := eq_newline_of_isControl clean
    have begins : (Traits.of chars).hasNewline = false →
        NotFirst '\n' (chars ++ '\'' :: '\'' :: '\'' :: rest) ∧
          NotFirst '\r' (chars ++ '\'' :: '\'' :: '\'' :: rest) :=
      fun single => notFirst_literal (newline_not_mem single) printed
    simp only [List.cons_append, List.append_assoc, List.nil_append]
    simp only [readString?, skipNewline_opening begins,
      readLiteralLines?_append one short printed, Option.map_some, whole]

end Quoted

end StepRunner.Toml
