import Mathlib.Algebra.Group.Int.Defs
import Mathlib.Algebra.Group.Nat.Defs
import Mathlib.Tactic.SplitIfs
import StepRunner.Json.Reader
import StepRunner.Proofs.Text.Digits

/-!
This file shows that a value is read back from its text, and first of all a string from its quoted
text.
The text of a value holds no control character, so it stays on one line.
-/

namespace StepRunner.Json

section Characters

variable (kept : Bool) (char : Char) (rest : List Char)

theorem hexValue?_hexDigit : ∀ value < 16, hexValue? (hexDigit value) = some value := by
  decide

theorem hexUnit?_hexDigits {value : Nat} (small : value < 256) :
    hexUnit? '0' '0' (hexDigit (value / 16)) (hexDigit (value % 16)) = some value := by
  have zero : hexValue? '0' = some 0 := rfl
  simp only [hexUnit?, zero, hexValue?_hexDigit (value / 16) (by omega),
    hexValue?_hexDigit (value % 16) (by omega), Option.bind_eq_bind, Option.bind_some,
    Option.pure_def, Option.some.injEq]
  omega

/-- A character that is written as four hexadecimal digits is read back from them. -/
theorem readString?_unicode (control : char.toNat < 0x20) :
    readString? kept (['\\', 'u', '0', '0', hexDigit (char.toNat / 16),
      hexDigit (char.toNat % 16)] ++ rest) = readChar char (readString? kept rest) := by
  have unit := hexUnit?_hexDigits (show char.toNat < 256 by omega)
  have high : isHighUnit char.toNat = false := by simp [isHighUnit]; omega
  have low : isLowUnit char.toNat = false := by simp [isLowUnit]; omega
  simp only [List.cons_append, List.nil_append]
  rw [readString?]
  simp [unit, high, low, Char.ofNat_toNat]

/-- A character that needs no escape is read as it is. -/
theorem readString?_plain (quote : char ≠ '"') (slash : char ≠ '\\')
    (printed : ¬char.toNat < 0x20) :
    readString? kept (char :: rest) = readChar char (readString? kept rest) := by
  rw [readString?.eq_def]
  split
  · next ends => cases ends
  · next ends => exact absurd (List.cons.inj ends).1 quote
  · next escaped => exact absurd (List.cons.inj escaped).1 slash
  · next escaped => exact absurd (List.cons.inj escaped).1 slash
  · next same =>
    obtain ⟨rfl, rfl⟩ := List.cons.inj same
    exact if_neg printed

/-- Every character is read back from its escape. -/
theorem readString?_escape :
    readString? kept (escape char ++ rest) = readChar char (readString? kept rest) := by
  unfold escape
  split_ifs with quote slash back feed line carriage tab control
  · subst quote; rfl
  · subst slash; rfl
  · subst back; rfl
  · subst feed; rfl
  · subst line; rfl
  · subst carriage; rfl
  · subst tab; rfl
  · exact readString?_unicode kept char rest control
  · exact readString?_plain kept char rest quote slash control

end Characters

section Texts

variable {text : List Char} {char : Char}

/-- A string is read back up to its closing quote. -/
theorem readString?_escapes (kept : Bool) (text rest : List Char) :
    readString? kept (text.flatMap escape ++ '"' :: rest) = some (text, rest) := by
  induction text with
  | nil => rfl
  | cons char text inductionHypothesis =>
    rw [List.flatMap_cons, List.append_assoc, readString?_escape, inductionHypothesis]
    rfl

/-- The escape of a character holds no control character. -/
theorem printed_of_mem_escape {letter : Char} (present : letter ∈ escape char) :
    0x20 ≤ letter.toNat := by
  have digits : ∀ value < 16, 0x20 ≤ (hexDigit value).toNat := by decide
  have pair (mark : Char) (printed : 0x20 ≤ mark.toNat) (inside : letter ∈ ['\\', mark]) :
      0x20 ≤ letter.toNat := by
    simp only [List.mem_cons, List.not_mem_nil, or_false] at inside
    obtain rfl | rfl := inside
    · decide
    · exact printed
  unfold escape at present
  split_ifs at present with quote slash back feed line carriage tab control
  · exact pair _ (by decide) present
  · exact pair _ (by decide) present
  · exact pair _ (by decide) present
  · exact pair _ (by decide) present
  · exact pair _ (by decide) present
  · exact pair _ (by decide) present
  · exact pair _ (by decide) present
  · simp only [List.mem_cons, List.not_mem_nil, or_false] at present
    obtain rfl | rfl | rfl | rfl | rfl | rfl := present
    · decide
    · decide
    · decide
    · decide
    · exact digits _ (by omega)
    · exact digits _ (by omega)
  · obtain rfl := List.mem_singleton.1 present
    omega

/-- A quoted string holds no control character. -/
theorem printed_of_mem_quote {content : String} (present : char ∈ quote content) :
    0x20 ≤ char.toNat := by
  simp only [quote, List.cons_append, List.mem_cons, List.mem_append, List.mem_flatMap,
    List.not_mem_nil, or_false] at present
  obtain rfl | ⟨letter, -, escaped⟩ | rfl := present
  · decide
  · exact printed_of_mem_escape escaped
  · decide

end Texts

/-- What stands after a number does not go on with it. -/
def EndsNumber (rest : List Char) : Prop :=
  ∀ next ∈ rest.head?, next.isDigit = false ∧ next ≠ '.' ∧ next ≠ 'e' ∧ next ≠ 'E'

theorem endsNumber_nil : EndsNumber [] := by
  simp [EndsNumber]

theorem endsNumber_cons {next : Char} (rest : List Char) (digit : next.isDigit = false)
    (mark : next ≠ '.' ∧ next ≠ 'e' ∧ next ≠ 'E') : EndsNumber (next :: rest) := by
  simp [EndsNumber, digit, mark]

theorem ne_of_isDigit {char mark : Char} (digit : char.isDigit = true)
    (other : mark.isDigit = false) : char ≠ mark := by
  rintro rfl
  rw [digit] at other
  cases other

section Numbers

variable {kept negative : Bool} {rest : List Char}

/-- A number without fraction and exponent ends after its digits. -/
theorem tail_of_endsNumber (ends : EndsNumber rest) (digits : List Char) :
    readNumber?.tail kept negative digits rest =
      (number? kept negative digits none none).map (·, rest) := by
  have fraction : readFraction? rest = some (none, rest) := by
    unfold readFraction?
    split
    · next places => exact absurd rfl (ends '.' rfl).2.1
    · rfl
  have exponent : readExponent? rest = some (none, rest) := by
    unfold readExponent?
    split
    · next letter places =>
      obtain ⟨-, -, small, capital⟩ := ends letter rfl
      exact if_neg (not_or.2 ⟨small, capital⟩)
    · rfl
  cases read : number? kept negative digits none none <;>
    simp [readNumber?.tail, fraction, exponent, read]

/-- The sign and the digits of an integer are read up to their end. -/
theorem readNumber?_writeInt (ends : EndsNumber rest) (value : Int) :
    readNumber? kept (writeInt value ++ rest) =
      (number? kept (decide (value < 0)) (Text.decimalDigits value.natAbs) none none).map
        (·, rest) := by
  rw [← tail_of_endsNumber ends]
  unfold writeInt readNumber?
  rcases value.natAbs.eq_zero_or_pos with none | positive
  · obtain rfl := Int.natAbs_eq_zero.1 none
    have zero : Text.decimalDigits (Int.natAbs 0) = ['0'] := Nat.toDigits_zero 10
    rw [zero]
    cases rest with
    | nil => rfl
    | cons next rest => simp [(ends next rfl).1]
  · obtain ⟨first, digits, split⟩ :=
      List.exists_cons_of_ne_nil (Text.decimalDigits_ne_nil value.natAbs)
    have front : first ≠ '0' := by
      have front := Text.head?_decimalDigits_ne positive
      rw [split] at front
      simpa using front
    have minus : first ≠ '-' :=
      ne_of_isDigit (Text.isDigit_of_mem_decimalDigits (split ▸ List.mem_cons_self)) rfl
    have span := Text.spanWhile_decimalDigits value.natAbs
      (fun next follows => (ends next follows).1)
    rw [split, List.cons_append] at span
    rw [split]
    split_ifs with negative
    · simp [negative, front, span]
    · simp [negative, minus, front, span]

/-- An integer that fits 64 bits is read back. -/
theorem readNumber?_whole (ends : EndsNumber rest) {value : Int} (least : -2 ^ 63 ≤ value)
    (greatest : value < 2 ^ 64) :
    readNumber? kept (writeInt value ++ rest) = some (whole value, rest) := by
  have number : number? kept (decide (value < 0)) (Text.decimalDigits value.natAbs) none none =
      some (whole value) := by
    simp only [number?, Text.decimalValue_decimalDigits, decide_eq_true_eq]
    by_cases negative : value < 0
    · have fits : value.natAbs ≤ Nat.pow 2 63 := show value.natAbs ≤ 2 ^ 63 by omega
      rw [if_pos negative, if_neg (by omega), if_pos fits,
        Int.ofNat_natAbs_of_nonpos (Int.le_of_lt negative), Int.neg_neg]
    · have fits : value.natAbs < Nat.pow 2 64 := show value.natAbs < 2 ^ 64 by omega
      rw [if_neg negative, if_pos fits, Int.natAbs_of_nonneg (Int.not_lt.1 negative)]
  rw [readNumber?_writeInt ends, number, Option.map_some]

end Numbers

section Starts

theorem isSpace_eq_false {char : Char}
    (plain : char ≠ ' ' ∧ char ≠ '\t' ∧ char ≠ '\n' ∧ char ≠ '\r') : isSpace char = false := by
  simp [isSpace, plain]

/-- An integer begins with a digit or a minus sign. -/
theorem writeInt_eq_cons (value : Int) :
    ∃ first rest, writeInt value = first :: rest ∧ (first = '-' ∨ first.isDigit = true) := by
  obtain ⟨first, digits, split⟩ :=
    List.exists_cons_of_ne_nil (Text.decimalDigits_ne_nil value.natAbs)
  unfold writeInt
  split_ifs
  · exact ⟨_, _, rfl, .inl rfl⟩
  · exact ⟨first, digits, split,
      .inr (Text.isDigit_of_mem_decimalDigits (split ▸ List.mem_cons_self))⟩

/-- The text of a value begins with a sign that neither is a space nor closes a bracket. -/
theorem compact_eq_cons (value : Json) : ∃ first rest, value.compact = first :: rest ∧
    isSpace first = false ∧ first ≠ ']' ∧ first ≠ '\x7d' := by
  have number (value : Int) (more : List Char) : ∃ first rest,
      writeInt value ++ more = first :: rest ∧ isSpace first = false ∧ first ≠ ']' ∧
        first ≠ '\x7d' := by
    obtain ⟨first, digits, split, starts⟩ := writeInt_eq_cons value
    refine ⟨first, digits ++ more, by rw [split, List.cons_append], ?_⟩
    rcases starts with rfl | digit
    · decide
    · exact ⟨isSpace_eq_false ⟨ne_of_isDigit digit rfl, ne_of_isDigit digit rfl,
        ne_of_isDigit digit rfl, ne_of_isDigit digit rfl⟩, ne_of_isDigit digit rfl,
        ne_of_isDigit digit rfl⟩
  cases value with
  | null => exact ⟨_, _, rfl, by decide⟩
  | bool value => cases value <;> exact ⟨_, _, rfl, by decide⟩
  | whole value => simpa [compact] using number value []
  | real mantissa exponent => exact number mantissa _
  | str text => exact ⟨_, _, rfl, by decide⟩
  | arr items => cases items <;> exact ⟨_, _, rfl, by decide⟩
  | obj members => cases members <;> exact ⟨_, _, rfl, by decide⟩

/-- No space stands before the text of a value. -/
theorem dropWhile_compact (value : Json) (rest : List Char) :
    (value.compact ++ rest).dropWhile isSpace = value.compact ++ rest := by
  obtain ⟨first, more, split, plain, -⟩ := compact_eq_cons value
  rw [split, List.cons_append, List.dropWhile_cons_of_neg (by simp [plain])]

end Starts

section Values

variable {kept : Bool} {depth : Nat}

/-- What begins like a number is read as one. -/
theorem readValue?_number {first : Char} (starts : first = '-' ∨ first.isDigit = true)
    (fuel : Nat) (rest : List Char) :
    readValue? kept depth (fuel + 1) (first :: rest) = readNumber? kept (first :: rest) := by
  have other : ∀ mark ∈ ['n', 't', 'f', '"', '[', '\x7b', ' ', '\t', '\n', '\r'], first ≠ mark := by
    rcases starts with rfl | digit
    · simp
    · have letters : ['n', 't', 'f', '"', '[', '\x7b', ' ', '\t', '\n', '\r'].all
          (!·.isDigit) = true := rfl
      intro mark listed
      exact ne_of_isDigit digit (by simpa using List.all_eq_true.1 letters mark listed)
  have plain : isSpace first = false := isSpace_eq_false
    ⟨other _ (by decide), other _ (by decide), other _ (by decide), other _ (by decide)⟩
  rw [readValue?, List.dropWhile_cons_of_neg (by simp [plain])]
  split
  case h_7 => rfl
  all_goals
    next same => exact absurd (List.cons.inj same).1 (other _ (by decide))

/-- A value is read back from its text, whatever stands after it. -/
def Returns (kept : Bool) (depth : Nat) (value : Json) : Prop :=
  ∀ fuel rest, 2 * value.compact.length ≤ fuel + 1 → EndsNumber rest →
    readValue? kept depth (fuel + 1) (value.compact ++ rest) = some (value, rest)

theorem returns_whole {value : Int} (least : -2 ^ 63 ≤ value) (greatest : value < 2 ^ 64) :
    Returns kept depth (whole value) := by
  intro fuel rest enough ends
  obtain ⟨first, digits, split, starts⟩ := writeInt_eq_cons value
  have number : readNumber? kept (writeInt value ++ rest) = some (whole value, rest) :=
    readNumber?_whole ends least greatest
  rw [split, List.cons_append] at number
  rw [compact, split, List.cons_append, readValue?_number starts, number]

theorem returns_str (text : String) : Returns kept depth (str text) := by
  intro fuel rest enough ends
  simp [compact, quote, readValue?, isSpace, readString?_escapes]

theorem endsNumber_compactItems (items : List Json) (rest : List Char) :
    EndsNumber (compactItems items ++ rest) := by
  cases items <;> exact endsNumber_cons _ rfl (by decide)

theorem endsNumber_compactMembers (members : List (String × Json)) (rest : List Char) :
    EndsNumber (compactMembers members ++ rest) := by
  cases members <;> exact endsNumber_cons _ rfl (by decide)

/-- The items of an array are read back together with its closing bracket. -/
theorem readItems?_compactItems {items : List Json} {item : Json}
    (returns : ∀ other ∈ item :: items, Returns kept depth other) {fuel : Nat} (rest : List Char)
    (enough : 2 * (item.compact ++ compactItems items).length ≤ fuel + 1) :
    readItems? kept depth (fuel + 1) (item.compact ++ (compactItems items ++ rest)) =
      some (item :: items, rest) := by
  induction items generalizing item fuel with
  | nil =>
    have length : 2 * item.compact.length + 1 ≤ fuel := by
      simp only [compactItems, List.length_append, List.length_singleton] at enough
      omega
    obtain ⟨fuel, rfl⟩ := Nat.exists_eq_add_one_of_ne_zero (show fuel ≠ 0 by omega)
    have first := returns item List.mem_cons_self fuel (compactItems [] ++ rest) (by omega)
      (endsNumber_compactItems _ _)
    rw [readItems?, first]
    simp [compactItems, isSpace]
  | cons next items inductionHypothesis =>
    have length : 2 * item.compact.length + 1 ≤ fuel ∧
        2 * (next.compact ++ compactItems items).length ≤ fuel := by
      simp only [compactItems, List.length_append, List.length_cons] at enough ⊢
      omega
    obtain ⟨fuel, rfl⟩ := Nat.exists_eq_add_one_of_ne_zero (show fuel ≠ 0 by omega)
    have first := returns item List.mem_cons_self fuel
      (compactItems (next :: items) ++ rest) (by omega) (endsNumber_compactItems _ _)
    have others := inductionHypothesis (fun other listed => returns other (.tail _ listed))
      length.2
    rw [readItems?, first]
    simp [compactItems, isSpace, others]

/-- A member is read up to the end of its value. -/
theorem readMembers?_quote {value : Json} {text rest : List Char} {fuel : Nat} (name : String)
    (read : readValue? kept depth fuel text = some (value, rest)) :
    readMembers? kept depth (fuel + 1) (quote name ++ ':' :: text) =
      match rest.dropWhile isSpace with
      | ',' :: rest =>
        (readMembers? kept depth fuel rest).map fun (members, rest) =>
          ((name, value) :: members, rest)
      | '\x7d' :: rest => some ([(name, value)], rest)
      | _ => none := by
  generalize following : rest.dropWhile isSpace = marks
  split <;> simp_all [readMembers?, quote, isSpace, readString?_escapes]

/-- The members of an object are read back together with its closing brace. -/
theorem readMembers?_compactMembers {members : List (String × Json)} {name : String}
    {value : Json} (returns : ∀ other ∈ (name, value) :: members, Returns kept depth other.2)
    {fuel : Nat} (rest : List Char)
    (enough : 2 * (value.compact ++ compactMembers members).length ≤ fuel + 1) :
    readMembers? kept depth (fuel + 1)
        (quote name ++ ':' :: (value.compact ++ (compactMembers members ++ rest))) =
      some ((name, value) :: members, rest) := by
  have returned : Returns kept depth value := returns (name, value) List.mem_cons_self
  induction members generalizing name value fuel with
  | nil =>
    have length : 2 * value.compact.length + 1 ≤ fuel := by
      simp only [compactMembers, List.length_append, List.length_singleton] at enough
      omega
    obtain ⟨fuel, rfl⟩ := Nat.exists_eq_add_one_of_ne_zero (show fuel ≠ 0 by omega)
    have first := returned fuel (compactMembers [] ++ rest) (by omega)
      (endsNumber_compactMembers _ _)
    rw [readMembers?_quote name first]
    rfl
  | cons next members inductionHypothesis =>
    obtain ⟨label, content⟩ := next
    have length : 2 * value.compact.length + 1 ≤ fuel ∧
        2 * (content.compact ++ compactMembers members).length ≤ fuel := by
      simp only [compactMembers, quote, List.length_append, List.length_cons] at enough ⊢
      omega
    obtain ⟨fuel, rfl⟩ := Nat.exists_eq_add_one_of_ne_zero (show fuel ≠ 0 by omega)
    have first := returned fuel (compactMembers ((label, content) :: members) ++ rest) (by omega)
      (endsNumber_compactMembers _ _)
    have others : readMembers? kept depth (fuel + 1)
        (quote label ++ ':' :: (content.compact ++ (compactMembers members ++ rest))) =
          some ((label, content) :: members, rest) :=
      inductionHypothesis (fun other listed => returns other (.tail _ listed)) length.2
        (returns _ (.tail _ List.mem_cons_self))
    rw [readMembers?_quote name first]
    simp [compactMembers, isSpace, others]

/-- An array whose items are read back is read back. -/
theorem returns_arr {items : List Json} (inside : 0 < depth)
    (returns : ∀ item ∈ items, Returns kept depth item) : Returns kept (depth + 1) (arr items) := by
  intro fuel rest enough ends
  have deep : ¬depth + 1 ≤ 1 := by omega
  cases items with
  | nil => simp [compact, readValue?, isSpace, deep]
  | cons item items =>
    have length : 2 * (item.compact ++ compactItems items).length + 1 ≤ fuel := by
      simp only [compact, List.length_append, List.length_cons] at enough ⊢
      omega
    obtain ⟨fuel, rfl⟩ := Nat.exists_eq_add_one_of_ne_zero (show fuel ≠ 0 by omega)
    have all : readItems? kept depth (fuel + 1)
        (item.compact ++ (compactItems items ++ rest)) = some (item :: items, rest) :=
      readItems?_compactItems returns rest (by omega)
    obtain ⟨first, more, split, plain, bracket, -⟩ := compact_eq_cons item
    have start : (item.compact ++ (compactItems items ++ rest)).dropWhile isSpace =
        first :: (more ++ (compactItems items ++ rest)) := by
      rw [dropWhile_compact, split, List.cons_append]
    rw [split, List.cons_append] at all
    simp [compact, readValue?, isSpace, deep, start, bracket, all]

/-- An object whose members are read back is read back. -/
theorem returns_obj {members : List (String × Json)} (inside : 0 < depth)
    (returns : ∀ member ∈ members, Returns kept depth member.2) :
    Returns kept (depth + 1) (obj members) := by
  intro fuel rest enough ends
  have deep : ¬depth + 1 ≤ 1 := by omega
  cases members with
  | nil => simp [compact, readValue?, isSpace, deep]
  | cons member members =>
    obtain ⟨name, value⟩ := member
    have length : 2 * (value.compact ++ compactMembers members).length + 1 ≤ fuel := by
      simp only [compact, quote, List.length_append, List.length_cons] at enough ⊢
      omega
    obtain ⟨fuel, rfl⟩ := Nat.exists_eq_add_one_of_ne_zero (show fuel ≠ 0 by omega)
    have all : readMembers? kept depth (fuel + 1)
        (quote name ++ ':' :: (value.compact ++ (compactMembers members ++ rest))) =
          some ((name, value) :: members, rest) :=
      readMembers?_compactMembers returns rest (by omega)
    have begun : ∀ text, readValue? kept (depth + 1) (fuel + 2)
        ('\x7b' :: (quote name ++ text)) =
          (readMembers? kept depth (fuel + 1) (quote name ++ text)).map
            fun (members, rest) => (obj members, rest) := by
      simp [quote, readValue?, isSpace, deep]
    simp [compact, begun, all]

/--
A value that text can hold: its numbers are whole and fit 64 bits, and its arrays and objects nest
at most as deep as a bound allows.
-/
inductive Exact : Nat → Json → Prop where
  | null {depth : Nat} : Exact depth null
  | bool {depth : Nat} (value : Bool) : Exact depth (bool value)
  | whole {depth : Nat} {value : Int} (least : -2 ^ 63 ≤ value) (greatest : value < 2 ^ 64) :
      Exact depth (whole value)
  | str {depth : Nat} (text : String) : Exact depth (str text)
  | arr {depth : Nat} {items : List Json} (inside : ∀ item ∈ items, Exact depth item) :
      Exact (depth + 1) (arr items)
  | obj {depth : Nat} {members : List (String × Json)}
      (inside : ∀ member ∈ members, Exact depth member.2) : Exact (depth + 1) (obj members)

/-- A value is read back from its text where the reader may go one level deeper. -/
theorem Exact.returns {value : Json} (exact : Exact depth value) :
    Returns kept (depth + 1) value := by
  induction exact with
  | null => exact fun fuel rest _ _ => by simp [compact, readValue?, isSpace]
  | bool value =>
    intro fuel rest _ _
    cases value <;> simp [compact, readValue?, isSpace]
  | whole least greatest => exact returns_whole least greatest
  | str text => exact returns_str text
  | arr _ inductionHypothesis => exact returns_arr (Nat.succ_pos _) inductionHypothesis
  | obj _ inductionHypothesis => exact returns_obj (Nat.succ_pos _) inductionHypothesis

/-- A deeper bound holds the same values. -/
theorem Exact.deeper {value : Json} (exact : Exact depth value) {bound : Nat}
    (deeper : depth ≤ bound) : Exact bound value := by
  induction exact generalizing bound with
  | null => exact .null
  | bool value => exact .bool value
  | whole least greatest => exact .whole least greatest
  | str text => exact .str text
  | arr _ inductionHypothesis =>
    obtain ⟨bound, rfl⟩ := Nat.exists_eq_add_one_of_ne_zero (show bound ≠ 0 by omega)
    exact .arr fun item listed => inductionHypothesis item listed (Nat.le_of_succ_le_succ deeper)
  | obj _ inductionHypothesis =>
    obtain ⟨bound, rfl⟩ := Nat.exists_eq_add_one_of_ne_zero (show bound ≠ 0 by omega)
    exact .obj fun member listed =>
      inductionHypothesis member listed (Nat.le_of_succ_le_succ deeper)

end Values

section Texts

variable {depth : Nat} {value : Json}

/-- A value is read back from its text, whatever stands after it. -/
theorem readPrefix?_compact (exact : Exact depth value) (shallow : depth < depthLimit)
    {rest : List Char} (ends : EndsNumber rest) :
    readPrefix? (value.compact ++ rest) = some (value, rest) := by
  have deep : Exact 127 value := exact.deeper (Nat.le_of_lt_succ shallow)
  refine deep.returns _ _ ?_ ends
  rw [List.length_append]
  omega

@[simp] theorem toList_text (value : Json) : value.text.toList = value.compact :=
  String.toList_ofList

/-- A value is read back from its text. -/
theorem read?_text (exact : Exact depth value) (shallow : depth < depthLimit) :
    read? value.text = some value := by
  have whole := readPrefix?_compact exact shallow endsNumber_nil
  rw [List.append_nil] at whole
  simp [read?, readChars?, whole]

theorem printed_of_mem_writeInt {char : Char} {value : Int} (present : char ∈ writeInt value) :
    0x20 ≤ char.toNat := by
  have digit : ∀ {value : Nat}, char ∈ Text.decimalDigits value → 0x20 ≤ char.toNat := by
    intro value present
    have digit := Text.isDigit_of_mem_decimalDigits present
    simp only [Char.isDigit, Bool.and_eq_true, decide_eq_true_eq] at digit
    have least : 48 ≤ char.toNat := digit.1
    omega
  unfold writeInt at present
  split at present
  · rcases List.mem_cons.1 present with rfl | present
    · decide
    · exact digit present
  · exact digit present

theorem printed_of_all {text : List Char} {char : Char}
    (printed : text.all (fun char => 0x20 ≤ char.toNat) = true) (present : char ∈ text) :
    0x20 ≤ char.toNat := by
  simpa using List.all_eq_true.1 printed char present

mutual

/-- The text of a value holds no control character. -/
theorem printed_of_mem_compact {char : Char} :
    ∀ {value : Json}, char ∈ value.compact → 0x20 ≤ char.toNat
  | null, present | bool true, present | bool false, present | arr [], present |
    obj [], present => printed_of_all rfl present
  | whole _, present => printed_of_mem_writeInt present
  | real mantissa exponent, present => by
    rw [compact, List.mem_append, List.mem_cons] at present
    obtain present | rfl | present := present
    · exact printed_of_mem_writeInt present
    · decide
    · exact printed_of_mem_writeInt present
  | str _, present => printed_of_mem_quote present
  | arr (item :: items), present => by
    rw [compact, List.cons_append, List.mem_cons, List.mem_append] at present
    obtain rfl | present | present := present
    · decide
    · exact printed_of_mem_compact present
    · exact printed_of_mem_compactItems present
  | obj ((name, value) :: members), present => by
    simp only [compact, List.cons_append, List.append_assoc, List.mem_cons, List.mem_append]
      at present
    obtain rfl | present | rfl | present | present := present
    · decide
    · exact printed_of_mem_quote present
    · decide
    · exact printed_of_mem_compact present
    · exact printed_of_mem_compactMembers present

theorem printed_of_mem_compactItems {char : Char} :
    ∀ {items : List Json}, char ∈ compactItems items → 0x20 ≤ char.toNat
  | [], present => printed_of_all rfl present
  | item :: items, present => by
    rw [compactItems, List.cons_append, List.mem_cons, List.mem_append] at present
    obtain rfl | present | present := present
    · decide
    · exact printed_of_mem_compact present
    · exact printed_of_mem_compactItems present

theorem printed_of_mem_compactMembers {char : Char} :
    ∀ {members : List (String × Json)}, char ∈ compactMembers members → 0x20 ≤ char.toNat
  | [], present => printed_of_all rfl present
  | (name, value) :: members, present => by
    simp only [compactMembers, List.cons_append, List.append_assoc, List.mem_cons,
      List.mem_append] at present
    obtain rfl | present | rfl | present | present := present
    · decide
    · exact printed_of_mem_quote present
    · decide
    · exact printed_of_mem_compact present
    · exact printed_of_mem_compactMembers present

end

/-- The text of a value is a single line. -/
theorem newline_not_mem_text (value : Json) : '\n' ∉ value.text.toList := by
  rw [toList_text]
  exact fun present => absurd (printed_of_mem_compact present) (by decide)

end Texts

end StepRunner.Json
