import StepRunner.Proofs.Text.Spelling
import StepRunner.Proofs.Text.Trimming
import StepRunner.Step.Assertion

/-!
This file states the grammar of checks and shows that texts are read exactly by this grammar.
-/

namespace StepRunner.Assertion

section Operands

variable {text value : List Char}

/-- An operand is a value without quotes, and one quote may stand on either side of it. -/
structure Operand (value text : List Char) : Prop where
  filled : value ≠ []
  bare : '"' ∉ value
  spelled : ∃ opening ∈ [[], ['"']], ∃ closing ∈ [[], ['"']], text = opening ++ value ++ closing

theorem dropOpening_append (text : List Char) :
    ∃ opening ∈ [[], ['"']], text = opening ++ dropOpening text := by
  unfold dropOpening
  split
  · exact ⟨['"'], by simp, rfl⟩
  · exact ⟨[], by simp, rfl⟩

theorem dropClosing_append (text : List Char) :
    ∃ closing ∈ [[], ['"']], text = dropClosing text ++ closing := by
  unfold dropClosing
  split
  · next last => exact ⟨['"'], by simp, (List.dropLast_append_getLast? _ last).symm⟩
  · exact ⟨[], by simp, by simp⟩

/-- The quote before a value is dropped if it is there. -/
theorem dropOpening_of_bare {opening rest : List Char} (optional : opening ∈ [[], ['"']])
    (bare : rest.head? ≠ some '"') : dropOpening (opening ++ rest) = rest := by
  simp only [List.mem_cons, List.not_mem_nil, or_false] at optional
  rcases optional with rfl | rfl
  · rw [List.nil_append]
    unfold dropOpening
    split
    · simp at bare
    · rfl
  · rfl

/-- The quote after a value is dropped if it is there. -/
theorem dropClosing_of_bare {closing : List Char} (optional : closing ∈ [[], ['"']])
    (bare : '"' ∉ value) : dropClosing (value ++ closing) = value := by
  simp only [List.mem_cons, List.not_mem_nil, or_false] at optional
  rcases optional with rfl | rfl
  · have last : value.getLast? ≠ some '"' := fun quote => bare (List.mem_of_getLast? quote)
    simp [dropClosing, last]
  · simp [dropClosing]

theorem operand?_eq_some_iff : operand? text = some (String.ofList value) ↔ Operand value text := by
  constructor
  · intro read
    obtain ⟨opening, first, split⟩ := dropOpening_append text
    obtain ⟨closing, last, join⟩ := dropClosing_append (dropOpening text)
    simp only [operand?, Bool.or_eq_true, List.isEmpty_iff, List.contains_iff_mem,
      Option.ite_none_left_eq_some, not_or, Option.some.injEq, String.ofList_inj] at read
    obtain ⟨⟨filled, bare⟩, rfl⟩ := read
    refine ⟨filled, bare, opening, first, closing, last, ?_⟩
    rw [List.append_assoc, ← join, ← split]
  · rintro ⟨filled, bare, opening, first, closing, last, rfl⟩
    have begins : (value ++ closing).head? ≠ some '"' := by
      obtain ⟨char, rest, rfl⟩ := List.exists_cons_of_ne_nil filled
      rintro quote
      exact bare (by simp_all)
    rw [operand?, List.append_assoc, dropOpening_of_bare first begins,
      dropClosing_of_bare last bare]
    simp [filled, bare]

/-- The value of an operand stands in its text. -/
theorem Operand.mem (operand : Operand value text) : ∀ char ∈ value, char ∈ text := by
  obtain ⟨-, -, opening, -, closing, -, rfl⟩ := operand
  intro char present
  simp [present]

end Operands

section Phrases

variable {phrases : List String} {text rest : List Char}

/-- A text is one of some phrases, with each of its letters in some case. -/
def SpellsAny (phrases : List String) (text : List Char) : Prop :=
  ∃ phrase ∈ phrases, Text.Spells phrase.toList text

/-- The phrases of a check are keywords, and none of them starts or ends with another. -/
structure Distinct (phrases : List String) : Prop where
  small : ∀ phrase ∈ phrases, phrase.toList.all Text.isKeywordChar = true
  starts : ∀ phrase ∈ phrases, ∀ other ∈ phrases, phrase.toList <+: other.toList → phrase = other
  ends : ∀ phrase ∈ phrases, ∀ other ∈ phrases, phrase.toList <:+ other.toList → phrase = other

theorem Distinct.eq_of_lead {phrase other : String} {lead start tail : List Char}
    (distinct : Distinct phrases) (known : phrase ∈ phrases) (listed : other ∈ phrases)
    (spells : Text.Spells phrase.toList lead) (begins : Text.Spells other.toList start)
    (same : lead ++ rest = start ++ tail) : phrase = other := by
  rcases spells.prefix_or (distinct.small phrase known) (distinct.small other listed) begins
    same with shorter | longer
  · exact distinct.starts phrase known other listed shorter
  · exact (distinct.starts other listed phrase known longer).symm

theorem Distinct.eq_of_ending {phrase other : String} {ending last tail : List Char}
    (distinct : Distinct phrases) (known : phrase ∈ phrases) (listed : other ∈ phrases)
    (spells : Text.Spells phrase.toList ending) (closes : Text.Spells other.toList last)
    (same : rest ++ ending = tail ++ last) : phrase = other := by
  rcases spells.suffix_or (distinct.small phrase known) (distinct.small other listed) closes
    same with shorter | longer
  · exact distinct.ends phrase known other listed shorter
  · exact (distinct.ends other listed phrase known longer).symm

/--
A search for one of some phrases in a text finds exactly the phrases that the text is joined from,
if no two phrases are found at once.
-/
theorem findSome?_eq_some_iff {search : String → Option (List Char)}
    (join : List Char → List Char → List Char)
    (found_iff : ∀ phrase ∈ phrases, ∀ rest, search phrase = some rest ↔
      ∃ part, Text.Spells phrase.toList part ∧ text = join part rest)
    (single : ∀ phrase ∈ phrases, ∀ other ∈ phrases, ∀ part again rest tail,
      Text.Spells phrase.toList part → Text.Spells other.toList again →
        join part rest = join again tail → phrase = other) :
    phrases.findSome? search = some rest ↔
      ∃ part, SpellsAny phrases part ∧ text = join part rest := by
  constructor
  · intro first
    obtain ⟨phrase, known, found⟩ := List.exists_of_findSome?_eq_some first
    obtain ⟨part, spells, joined⟩ := (found_iff phrase known rest).1 found
    exact ⟨part, ⟨phrase, known, spells⟩, joined⟩
  · rintro ⟨part, ⟨phrase, known, spells⟩, joined⟩
    have found := (found_iff phrase known rest).2 ⟨part, spells, joined⟩
    have some : (phrases.findSome? search).isSome = true :=
      List.findSome?_isSome_iff.2 ⟨phrase, known, by simp [found]⟩
    obtain ⟨tail, first⟩ := Option.isSome_iff_exists.1 some
    obtain ⟨other, listed, other_found⟩ := List.exists_of_findSome?_eq_some first
    obtain ⟨again, begins, same⟩ := (found_iff other listed tail).1 other_found
    obtain rfl := single phrase known other listed part again rest tail spells begins
      (joined.symm.trans same)
    rw [first, ← other_found, found]

theorem afterAny?_eq_some_iff (distinct : Distinct phrases) :
    afterAny? phrases text = some rest ↔ ∃ lead, SpellsAny phrases lead ∧ text = lead ++ rest := by
  apply findSome?_eq_some_iff (· ++ ·)
  · exact fun phrase known rest =>
      Text.dropKeyword?_eq_some_iff_spells (distinct.small phrase known)
  · exact fun phrase known other listed lead start rest tail spells begins same =>
      distinct.eq_of_lead known listed spells begins same

theorem beforeAny?_eq_some_iff (distinct : Distinct phrases) :
    beforeAny? phrases text = some rest ↔
      ∃ ending, SpellsAny phrases ending ∧ text = rest ++ ending := by
  apply findSome?_eq_some_iff fun ending rest => rest ++ ending
  · exact fun phrase known rest =>
      Text.dropKeywordSuffix?_eq_some_iff_spells (distinct.small phrase known)
  · exact fun phrase known other listed ending last rest tail spells closes same =>
      distinct.eq_of_ending known listed spells closes same

end Phrases

section Checks

variable {phrases : List String} {text value : List Char}

/-- A text is a keyword, or there is none. -/
def SpellsOptional (keyword text : List Char) : Prop :=
  text = [] ∨ Text.Spells keyword text

/-- A check of the page: optional words, a phrase, and an operand with the value. -/
inductive PageCheck (phrases : List String) : List Char → List Char → Prop where
  | intro {article page phrase operand value : List Char}
      (the : SpellsOptional "the ".toList article) (subject : SpellsOptional "page ".toList page)
      (spells : SpellsAny phrases phrase) (names : Operand value operand) :
      PageCheck phrases (article ++ page ++ phrase ++ operand) value

/-- A check of a part of the page: an operand with the value, and a phrase. -/
inductive PartCheck (phrases : List String) : List Char → List Char → Prop where
  | intro {operand phrase value : List Char} (names : Operand value operand)
      (spells : SpellsAny phrases phrase) : PartCheck phrases (operand ++ phrase) value

theorem dropOptional_append {keyword : List Char}
    (small : keyword.all Text.isKeywordChar = true) (text : List Char) :
    ∃ lead, SpellsOptional keyword lead ∧ text = lead ++ dropOptional keyword text := by
  unfold dropOptional
  cases dropped : Text.dropKeyword? keyword text with
  | none => exact ⟨[], .inl rfl, rfl⟩
  | some rest =>
    obtain ⟨lead, spells, split⟩ := (Text.dropKeyword?_eq_some_iff_spells small).1 dropped
    exact ⟨lead, .inr spells, split⟩

/-- An optional keyword is dropped if it is there, and nothing of another one after it. -/
theorem dropOptional_of_spells {keyword other : String} {lead start rest : List Char}
    (distinct : Distinct phrases) (known : keyword ∈ phrases) (listed : other ∈ phrases)
    (differs : keyword ≠ other) (optional : SpellsOptional keyword.toList lead)
    (next : Text.Spells other.toList start) :
    dropOptional keyword.toList (lead ++ (start ++ rest)) = start ++ rest := by
  have small := distinct.small keyword known
  rcases optional with rfl | spells
  · cases dropped : Text.dropKeyword? keyword.toList (start ++ rest) with
    | none => simp [dropOptional, dropped]
    | some tail =>
      obtain ⟨lead, spells, same⟩ := (Text.dropKeyword?_eq_some_iff_spells small).1 dropped
      exact absurd (distinct.eq_of_lead listed known next spells same).symm differs
  · have dropped : Text.dropKeyword? keyword.toList (lead ++ (start ++ rest)) =
        some (start ++ rest) := (Text.dropKeyword?_eq_some_iff_spells small).2 ⟨lead, spells, rfl⟩
    rw [dropOptional, dropped, Option.getD_some]

theorem Distinct.mono {others : List String} (distinct : Distinct phrases)
    (fewer : others ⊆ phrases) : Distinct others where
  small phrase known := distinct.small phrase (fewer known)
  starts phrase known other listed := distinct.starts phrase (fewer known) other (fewer listed)
  ends phrase known other listed := distinct.ends phrase (fewer known) other (fewer listed)

/-- The optional words of a check of the page are dropped where they are there. -/
theorem dropArticle_of_spells {article page phrase operand : List Char}
    (distinct : Distinct ("the " :: "page " :: phrases))
    (new : ("the " :: "page " :: phrases).Nodup)
    (the : SpellsOptional "the ".toList article) (subject : SpellsOptional "page ".toList page)
    (spells : SpellsAny phrases phrase) :
    dropArticle (article ++ page ++ phrase ++ operand) = phrase ++ operand := by
  obtain ⟨known, listed, spelled⟩ := spells
  obtain ⟨notThe, notPage⟩ : "the " ∉ "page " :: phrases ∧ "page " ∉ phrases :=
    ⟨(List.nodup_cons.1 new).1, (List.nodup_cons.1 (List.nodup_cons.1 new).2).1⟩
  have skipped {other : String} (present : other ∈ "page " :: phrases) {start rest : List Char}
      (next : Text.Spells other.toList start) :
      dropOptional "the ".toList (article ++ (start ++ rest)) = start ++ rest :=
    dropOptional_of_spells distinct List.mem_cons_self (List.mem_cons_of_mem _ present)
      (fun same => notThe (same ▸ present)) the next
  have bare : dropOptional "the ".toList (article ++ (page ++ (phrase ++ operand))) =
      page ++ (phrase ++ operand) := by
    rcases subject with rfl | paged
    · rw [List.nil_append]
      exact skipped (List.mem_cons_of_mem _ listed) spelled
    · exact skipped List.mem_cons_self paged
  rw [dropArticle, List.append_assoc, List.append_assoc, bare]
  exact dropOptional_of_spells distinct (by simp) (by simp [listed])
    (fun same => notPage (same ▸ listed)) subject spelled

theorem pageCheck_iff (distinct : Distinct ("the " :: "page " :: phrases))
    (new : ("the " :: "page " :: phrases).Nodup) :
    (afterAny? phrases (dropArticle text)).bind operand? = some (String.ofList value) ↔
      PageCheck phrases text value := by
  have fewer : Distinct phrases := distinct.mono fun phrase known => by simp [known]
  simp only [Option.bind_eq_some_iff, afterAny?_eq_some_iff fewer, operand?_eq_some_iff]
  constructor
  · rintro ⟨operand, ⟨phrase, spells, split⟩, names⟩
    obtain ⟨article, the, cut⟩ := dropOptional_append (distinct.small "the " (by simp)) text
    obtain ⟨page, subject, left⟩ := dropOptional_append (distinct.small "page " (by simp))
      (dropOptional "the ".toList text)
    have whole : text = article ++ page ++ phrase ++ operand := by
      rw [dropArticle] at split
      rw [cut, left, split]
      simp
    rw [whole]
    exact .intro the subject spells names
  · rintro ⟨the, subject, spells, names⟩
    exact ⟨_, ⟨_, spells, dropArticle_of_spells distinct new the subject spells⟩, names⟩

theorem partCheck_iff (distinct : Distinct phrases) :
    (beforeAny? phrases text).bind operand? = some (String.ofList value) ↔
      PartCheck phrases text value := by
  simp only [Option.bind_eq_some_iff, beforeAny?_eq_some_iff distinct, operand?_eq_some_iff]
  constructor
  · rintro ⟨operand, ⟨phrase, spells, rfl⟩, names⟩
    exact .intro names spells
  · rintro ⟨names, spells⟩
    exact ⟨_, ⟨_, spells, rfl⟩, names⟩

/-- The value of a check of the page is not empty, has no quote, and stands in the text. -/
theorem PageCheck.value_mem (check : PageCheck phrases text value) :
    value ≠ [] ∧ '"' ∉ value ∧ ∀ char ∈ value, char ∈ text := by
  obtain ⟨the, subject, spells, names⟩ := check
  exact ⟨names.filled, names.bare, fun char present =>
    List.mem_append_right _ (names.mem char present)⟩

/-- The value of a check of a part is not empty, has no quote, and stands in the text. -/
theorem PartCheck.value_mem (check : PartCheck phrases text value) :
    value ≠ [] ∧ '"' ∉ value ∧ ∀ char ∈ value, char ∈ text := by
  obtain ⟨names, spells⟩ := check
  exact ⟨names.filled, names.bare, fun char present =>
    List.mem_append_left _ (names.mem char present)⟩

end Checks

section Readings

/-- The phrases of a check of the address. -/
def urlPhrases : List String :=
  ["url contains ", "url includes "]

/-- The phrases of a check of the title. -/
def titlePhrases : List String :=
  ["title is "]

/-- The phrases of a check that a part is not seen. -/
def hiddenPhrases : List String :=
  [" is not visible", " is hidden", " is not displayed"]

/-- The phrases of a check that a part is seen. -/
def visiblePhrases : List String :=
  [" is visible", " is displayed", " is shown", " appears"]

/-- The four forms of a text, each with the values that a text of the form has. -/
def forms : List (List Char → List Char → Prop) :=
  [PageCheck urlPhrases, PageCheck titlePhrases, PartCheck hiddenPhrases,
    PartCheck visiblePhrases]

/-- A text is of a form. -/
def Fits (form : List Char → List Char → Prop) (text : List Char) : Prop :=
  ∃ value, form text value

/--
A text is read by the grammar of checks, where the line is the text without the blanks.
The forms are tried in the order of the fields.
-/
structure ReadsBy (text : String) (line : List Char) : Prop where
  trimmed : Text.Trims text.toList line
  url_iff : ∀ value, interpret text = .urlContains (String.ofList value) ↔
    PageCheck urlPhrases line value
  title_iff : ∀ value, interpret text = .titleIs (String.ofList value) ↔
    ¬Fits (PageCheck urlPhrases) line ∧ PageCheck titlePhrases line value
  hidden_iff : ∀ value, interpret text = .hidden (String.ofList value) ↔
    ¬Fits (PageCheck urlPhrases) line ∧ ¬Fits (PageCheck titlePhrases) line ∧
      PartCheck hiddenPhrases line value
  visible_iff : ∀ value, interpret text = .visible (String.ofList value) ↔
    ¬Fits (PageCheck urlPhrases) line ∧ ¬Fits (PageCheck titlePhrases) line ∧
      ¬Fits (PartCheck hiddenPhrases) line ∧ PartCheck visiblePhrases line value
  present_iff : ∀ value, interpret text = .textPresent (String.ofList value) ↔
    (∀ form ∈ forms, ¬Fits form line) ∧ Text.Cuts (· == '"') line value
  value : ∀ form ∈ forms, ∀ value, form line value →
    value ≠ [] ∧ '"' ∉ value ∧ ∀ other, form line other → other = value
  nothing_iff : interpret text = .textPresent "" ↔ ∀ char ∈ line, char = '"'
  negative : ∀ lead ending, line = lead ++ ending → SpellsAny hiddenPhrases ending →
    ∀ value, interpret text ≠ .visible value

theorem distinct_urlPhrases : Distinct ("the " :: "page " :: urlPhrases) := by
  constructor <;> decide

theorem distinct_titlePhrases : Distinct ("the " :: "page " :: titlePhrases) := by
  constructor <;> decide

theorem distinct_endings : Distinct (hiddenPhrases ++ visiblePhrases) := by
  constructor <;> decide

/-- The check that the first of four readings gives, or else the text itself. -/
def firstOf (url title hiddenText visibleText : Option String) (text : String) : Assertion :=
  match url, title, hiddenText, visibleText with
  | some value, _, _, _ => urlContains value
  | none, some value, _, _ => titleIs value
  | none, none, some value, _ => hidden value
  | none, none, none, some value => visible value
  | none, none, none, none => textPresent text

section Order

variable {url title hiddenText visibleText : Option String} {text value : String}

theorem firstOf_eq_urlContains :
    firstOf url title hiddenText visibleText text = .urlContains value ↔ url = some value := by
  cases url <;> cases title <;> cases hiddenText <;> cases visibleText <;> simp [firstOf]

theorem firstOf_eq_titleIs : firstOf url title hiddenText visibleText text = .titleIs value ↔
    url = none ∧ title = some value := by
  cases url <;> cases title <;> cases hiddenText <;> cases visibleText <;> simp [firstOf]

theorem firstOf_eq_hidden : firstOf url title hiddenText visibleText text = .hidden value ↔
    url = none ∧ title = none ∧ hiddenText = some value := by
  cases url <;> cases title <;> cases hiddenText <;> cases visibleText <;> simp [firstOf]

theorem firstOf_eq_visible : firstOf url title hiddenText visibleText text = .visible value ↔
    url = none ∧ title = none ∧ hiddenText = none ∧ visibleText = some value := by
  cases url <;> cases title <;> cases hiddenText <;> cases visibleText <;> simp [firstOf]

theorem firstOf_eq_textPresent :
    firstOf url title hiddenText visibleText text = .textPresent value ↔
      url = none ∧ title = none ∧ hiddenText = none ∧ visibleText = none ∧ text = value := by
  cases url <;> cases title <;> cases hiddenText <;> cases visibleText <;> simp [firstOf]

end Order

/-- A reading tells the values of a form. -/
def Tells (reading : Option String) (form : List Char → List Char → Prop) (line : List Char) :
    Prop :=
  ∀ value, reading = some (String.ofList value) ↔ form line value

variable {line : List Char} {reading : Option String} {form : List Char → List Char → Prop}

theorem Tells.none_iff (tells : Tells reading form line) : reading = none ↔ ¬Fits form line := by
  constructor
  · rintro none ⟨value, fits⟩
    rw [(tells value).2 fits] at none
    cases none
  · intro unfit
    cases read : reading with
    | none => rfl
    | some value =>
      exact absurd ⟨value.toList, (tells value.toList).1 (by simp [read])⟩ unfit

theorem Tells.unique (tells : Tells reading form line) {value other : List Char}
    (fits : form line value) (again : form line other) : other = value := by
  have same := ((tells other).2 again).symm.trans ((tells value).2 fits)
  exact String.ofList_inj.1 (Option.some.inj same)

/-- A text that is all quotes is of no form. -/
theorem not_fits_of_quotes (known : form ∈ forms) (quotes : ∀ char ∈ line, char = '"') :
    ¬Fits form line := by
  rintro ⟨value, fits⟩
  have stands : value ≠ [] ∧ '"' ∉ value ∧ ∀ char ∈ value, char ∈ line := by
    simp only [forms, List.mem_cons, List.not_mem_nil, or_false] at known
    rcases known with rfl | rfl | rfl | rfl
    · exact fits.value_mem
    · exact fits.value_mem
    · exact fits.value_mem
    · exact fits.value_mem
  obtain ⟨filled, bare, mem⟩ := stands
  obtain ⟨char, present⟩ := List.exists_mem_of_ne_nil value filled
  exact bare (quotes char (mem char present) ▸ present)

/-- A text that ends with a phrase of absence ends with no phrase of presence. -/
theorem not_partCheck_visible {lead ending value : List Char}
    (hidden : SpellsAny hiddenPhrases ending) :
    ¬PartCheck visiblePhrases (lead ++ ending) value := by
  generalize split : lead ++ ending = text
  rintro ⟨names, phrase, listed, spells⟩
  obtain ⟨other, known, negates⟩ := hidden
  have same : other = phrase := distinct_endings.eq_of_ending
    (List.mem_append_left _ known) (List.mem_append_right _ listed) negates spells split
  subst same
  have apart : ∀ other ∈ hiddenPhrases, other ∉ visiblePhrases := by decide
  exact apart other known listed

/-- Every text is read exactly by the grammar of checks. -/
theorem interpret_reads (text : String) : ReadsBy text (Text.trim text.toList) := by
  generalize cut : Text.trim text.toList = line
  have url : Tells ((afterAny? urlPhrases (dropArticle line)).bind operand?)
      (PageCheck urlPhrases) line := fun value => pageCheck_iff distinct_urlPhrases (by decide)
  have title : Tells ((afterAny? titlePhrases (dropArticle line)).bind operand?)
      (PageCheck titlePhrases) line := fun value => pageCheck_iff distinct_titlePhrases (by decide)
  have hidden : Tells ((beforeAny? hiddenPhrases line).bind operand?)
      (PartCheck hiddenPhrases) line := fun value =>
    partCheck_iff (distinct_endings.mono (List.subset_append_left _ _))
  have visible : Tells ((beforeAny? visiblePhrases line).bind operand?)
      (PartCheck visiblePhrases) line := fun value =>
    partCheck_iff (distinct_endings.mono (List.subset_append_right _ _))
  have read : interpret text = firstOf ((afterAny? urlPhrases (dropArticle line)).bind operand?)
      ((afterAny? titlePhrases (dropArticle line)).bind operand?)
      ((beforeAny? hiddenPhrases line).bind operand?)
      ((beforeAny? visiblePhrases line).bind operand?)
      (String.ofList (Text.dropBoth (· == '"') line)) := by
    rw [← cut]
    rfl
  have present (value : List Char) : interpret text = .textPresent (String.ofList value) ↔
      (∀ form ∈ forms, ¬Fits form line) ∧ Text.Cuts (· == '"') line value := by
    rw [read, firstOf_eq_textPresent, url.none_iff, title.none_iff, hidden.none_iff,
      visible.none_iff, String.ofList_inj, ← Text.cuts_iff]
    simp only [forms, List.forall_mem_cons, List.not_mem_nil, false_implies, implies_true,
      and_true, and_assoc]
  exact {
    trimmed := cut ▸ Text.trims_trim text.toList
    url_iff value := by rw [read, firstOf_eq_urlContains, url value]
    title_iff value := by rw [read, firstOf_eq_titleIs, url.none_iff, title value]
    hidden_iff value := by
      rw [read, firstOf_eq_hidden, url.none_iff, title.none_iff, hidden value]
    visible_iff value := by
      rw [read, firstOf_eq_visible, url.none_iff, title.none_iff, hidden.none_iff, visible value]
    present_iff := present
    value form known value fits := by
      simp only [forms, List.mem_cons, List.not_mem_nil, or_false] at known
      rcases known with rfl | rfl | rfl | rfl
      · exact ⟨fits.value_mem.1, fits.value_mem.2.1, fun other => url.unique fits⟩
      · exact ⟨fits.value_mem.1, fits.value_mem.2.1, fun other => title.unique fits⟩
      · exact ⟨fits.value_mem.1, fits.value_mem.2.1, fun other => hidden.unique fits⟩
      · exact ⟨fits.value_mem.1, fits.value_mem.2.1, fun other => visible.unique fits⟩
    nothing_iff := by
      rw [← String.ofList_nil, present, Text.cuts_nil_iff]
      simp only [beq_iff_eq, and_iff_right_iff_imp]
      exact fun quotes form known => not_fits_of_quotes known quotes
    negative lead ending split ends value reads := by
      subst split
      rw [← String.ofList_toList (s := value), read, firstOf_eq_visible, visible] at reads
      exact not_partCheck_visible ends reads.2.2.2 }

/-- What is expected to be hidden may itself end like a check of what is visible. -/
example : interpret "\"Save is visible\" is hidden" = .hidden "Save is visible" := by
  decide +kernel

end Readings

end StepRunner.Assertion
