import Mathlib.Data.List.Infix
import StepRunner.Bridge.Address
import StepRunner.Proofs.Text.Trimming

/-!
This file says what address a path of a site stands for.
A path with a scheme stands for itself; every other path is joined to the site by one slash, and it
cannot lead away from the site.
-/

namespace StepRunner.Address

/-- A text of slashes alone. -/
def Slashes (text : String) : Prop := ∀ char ∈ text.toList, char = '/'

/-- The beginnings of a complete address. -/
def schemes : List String := ["http://", "https://"]

/-- An address begins with a scheme. -/
def HasScheme (address : String) : Prop := ∃ scheme ∈ schemes, ∃ rest, address = scheme ++ rest

/-- An address names a site: something besides slashes comes after its scheme. -/
def Sited (address : String) : Prop :=
  ∃ scheme ∈ schemes, ∃ rest, address = scheme ++ rest ∧ ¬Slashes rest

/-- A body is what is left of an address without the slashes at its end. -/
structure Bare (base body : String) : Prop where
  cut : ∃ slashes, Slashes slashes ∧ base = body ++ slashes
  last : body.toList.getLast? ≠ some '/'

/-- A tail is what is left of a path without the slashes at its start. -/
structure Tail (path tail : String) : Prop where
  cut : ∃ slashes, Slashes slashes ∧ path = slashes ++ tail
  first : tail.toList.head? ≠ some '/'

/-- A character after which an address speaks no more of host and port. -/
def endsHost (char : Char) : Bool :=
  char == '/' || char == '?' || char == '#' || char == '\\'

/-- The scheme, the host and the port of an address with a scheme. -/
def origin? (address : String) : Option String :=
  schemes.findSome? fun scheme =>
    (Text.dropPrefix? scheme.toList address.toList).map fun rest =>
      scheme ++ String.ofList (rest.takeWhile fun char => !endsHost char)

/-- What address a path of a site stands for. -/
structure Resolves (base path : String) : Prop where
  complete : HasScheme path → resolve base path = path
  joined : ¬HasScheme path → ∀ body tail, Bare base body → Tail path tail →
    resolve base path = body ++ "/" ++ tail
  bare : ∃! body, Bare base body
  tail : ∃! tail, Tail path tail
  /-- Slashes at the end of the site do not count. -/
  appended : ∀ slashes, Slashes slashes → resolve (base ++ slashes) path = resolve base path
  /-- Slashes at the start of a path do not count. -/
  prepended : ¬HasScheme path → ∀ slashes, Slashes slashes →
    resolve base (slashes ++ path) = resolve base path
  /-- A path leads to no other scheme, host or port. -/
  origin : ¬HasScheme path → Sited base →
    ∃ origin, origin? base = some origin ∧ origin? (resolve base path) = some origin
  again : Sited base → resolve base (resolve base path) = resolve base path
  /-- A site and a site of slashes alone are all for which addresses stay as they are. -/
  again_iff : ¬HasScheme path →
    (resolve base (resolve base path) = resolve base path ↔ Slashes base ∨ Sited base)

section Texts

variable {text front back body tail slashes : List Char}

/-- Nothing but slashes is cut from the end of a text. -/
theorem dropRight_slashes (ends : ∀ char ∈ slashes, char = '/')
    (last : body.getLast? ≠ some '/') : Text.dropRight (· == '/') (body ++ slashes) = body := by
  have behind : ∀ char ∈ slashes.reverse, (char == '/') = true :=
    fun char present => beq_iff_eq.2 (ends char (List.mem_reverse.1 present))
  have stops : ∀ char ∈ body.reverse.head?, (char == '/') = false := by
    intro char first
    rw [List.head?_reverse] at first
    exact beq_false_of_ne fun same => last (same ▸ first)
  rw [Text.dropRight, List.reverse_append, List.dropWhile_append_of_pos behind,
    Text.dropWhile_of_head stops, List.reverse_reverse]

theorem getLast?_dropRight (text : List Char) :
    (Text.dropRight (· == '/') text).getLast? ≠ some '/' := by
  intro last
  rw [Text.dropRight, List.getLast?_reverse] at last
  exact absurd (Text.dropWhile_head (· == '/') text.reverse '/' last) (by decide)

/-- Nothing but slashes is cut from the start of a text. -/
theorem dropWhile_slashes (starts : ∀ char ∈ slashes, char = '/')
    (first : tail.head? ≠ some '/') : (slashes ++ tail).dropWhile (· == '/') = tail := by
  rw [List.dropWhile_append_of_pos fun char present => beq_iff_eq.2 (starts char present)]
  exact Text.dropWhile_of_head fun char begins =>
    beq_false_of_ne fun same => first (same ▸ begins)

theorem head?_dropWhile (text : List Char) :
    (text.dropWhile (· == '/')).head? ≠ some '/' := by
  intro first
  exact absurd (Text.dropWhile_head (· == '/') text '/' first) (by decide)

end Texts

section Parts

variable {base body other path tail slashes : String}

theorem slashes_append (one two : String) :
    Slashes (one ++ two) ↔ Slashes one ∧ Slashes two := by
  simp only [Slashes, String.toList_append, List.mem_append, or_imp, forall_and]

theorem isComplete_iff : isComplete path = true ↔ HasScheme path := by
  have begins (scheme : String) : (Text.dropPrefix? scheme.toList path.toList).isSome = true ↔
      ∃ rest, path = scheme ++ rest := by
    simp only [Option.isSome_iff_exists, Text.dropPrefix?_eq_some_iff]
    constructor
    · rintro ⟨rest, same⟩
      exact ⟨String.ofList rest, String.toList_inj.1 (by simpa using same)⟩
    · rintro ⟨rest, rfl⟩
      exact ⟨rest.toList, String.toList_append⟩
  rw [isComplete, Bool.or_eq_true, begins, begins]
  simp [HasScheme, schemes]

theorem Bare.toList_eq (bare : Bare base body) :
    body.toList = Text.dropRight (· == '/') base.toList := by
  obtain ⟨⟨slashes, ends, rfl⟩, last⟩ := bare
  rw [String.toList_append, dropRight_slashes ends last]

theorem Tail.toList_eq (relative : Tail path tail) :
    tail.toList = path.toList.dropWhile (· == '/') := by
  obtain ⟨⟨slashes, starts, rfl⟩, first⟩ := relative
  rw [String.toList_append, dropWhile_slashes starts first]

theorem existsUnique_bare (base : String) : ∃! body, Bare base body := by
  obtain ⟨after, split, ends⟩ := Text.dropRight_append (· == '/') base.toList
  refine ⟨String.ofList (Text.dropRight (· == '/') base.toList),
    ⟨⟨String.ofList after, ?_, ?_⟩, ?_⟩, ?_⟩
  · intro char present
    exact beq_iff_eq.1 (ends char (by simpa using present))
  · exact String.toList_inj.1 (by simpa using split)
  · simpa using getLast?_dropRight base.toList
  · intro body bare
    exact String.toList_inj.1 (by simpa using bare.toList_eq)

theorem existsUnique_tail (path : String) : ∃! tail, Tail path tail := by
  refine ⟨String.ofList (path.toList.dropWhile (· == '/')),
    ⟨⟨String.ofList (path.toList.takeWhile (· == '/')), ?_, ?_⟩, ?_⟩, ?_⟩
  · intro char present
    rw [String.toList_ofList] at present
    have slash : (char == '/') = true := List.mem_takeWhile_imp (p := (· == '/')) present
    exact beq_iff_eq.1 slash
  · exact String.toList_inj.1 (by simp)
  · simpa using head?_dropWhile path.toList
  · intro tail relative
    exact String.toList_inj.1 (by simpa using relative.toList_eq)

theorem resolve_of_hasScheme (complete : HasScheme path) : resolve base path = path := by
  rw [resolve, if_pos (isComplete_iff.2 complete)]

theorem resolve_of_not_hasScheme (incomplete : ¬HasScheme path) (bare : Bare base body)
    (relative : Tail path tail) : resolve base path = body ++ "/" ++ tail := by
  rw [resolve, if_neg fun complete => incomplete (isComplete_iff.1 complete), ← bare.toList_eq,
    ← relative.toList_eq]
  exact String.toList_inj.1 (by simp)

/-- Nothing is left of slashes alone. -/
theorem Bare.eq_empty_iff (bare : Bare base body) : body = "" ↔ Slashes base := by
  obtain ⟨⟨slashes, ends, rfl⟩, last⟩ := bare
  constructor
  · rintro rfl
    rwa [String.empty_append]
  · intro all
    have every : Slashes body := ((slashes_append _ _).1 all).1
    cases final : body.toList.getLast? with
    | none => exact String.toList_eq_nil_iff.1 (List.getLast?_eq_none_iff.1 final)
    | some char => exact absurd (every char (List.mem_of_getLast? final) ▸ final) last

/-- The tail of an address keeps the last character before the slash that joined its parts. -/
theorem Tail.length_lt {more : String} (later : Tail (body ++ "/" ++ tail) more)
    (last : body.toList.getLast? ≠ some '/') (filled : body ≠ "") : tail.length < more.length := by
  obtain ⟨front, char, split⟩ : ∃ front char, body.toList = front ++ [char] :=
    body.toList.eq_nil_or_concat'.resolve_left fun empty =>
      filled (String.toList_eq_nil_iff.1 empty)
  have solid : char ≠ '/' := by
    rintro rfl
    exact last (by simp [split])
  have kept : (char :: '/' :: tail.toList).dropWhile (· == '/') = char :: '/' :: tail.toList :=
    List.dropWhile_cons_of_neg (by simpa using solid)
  have whole : more.toList = (front ++ char :: '/' :: tail.toList).dropWhile (· == '/') := by
    simpa [split] using later.toList_eq
  have suffix : (char :: '/' :: tail.toList) <:+ more.toList := by
    rw [whole, List.dropWhile_append, kept]
    split
    · exact List.suffix_rfl
    · exact List.suffix_append _ _
  have longer := suffix.length_le
  simp only [List.length_cons, String.length_toList] at longer
  omega

/-- More slashes at the end of an address leave its body as it is. -/
theorem Bare.append (bare : Bare base body) (ends : Slashes slashes) :
    Bare (base ++ slashes) body := by
  obtain ⟨⟨others, all, rfl⟩, last⟩ := bare
  exact ⟨⟨others ++ slashes, (slashes_append _ _).2 ⟨all, ends⟩, String.append_assoc ..⟩, last⟩

/-- More slashes at the start of a path leave its tail as it is. -/
theorem Tail.prepend (relative : Tail path tail) (starts : Slashes slashes) :
    Tail (slashes ++ path) tail := by
  obtain ⟨⟨others, all, rfl⟩, first⟩ := relative
  exact ⟨⟨slashes ++ others, (slashes_append _ _).2 ⟨starts, all⟩,
    (String.append_assoc ..).symm⟩, first⟩

end Parts

section Sites

variable {base body path tail scheme rest : String}

theorem HasScheme.append (complete : HasScheme base) (more : String) :
    HasScheme (base ++ more) := by
  obtain ⟨scheme, listed, rest, rfl⟩ := complete
  exact ⟨scheme, listed, rest ++ more, String.append_assoc ..⟩

/-- A scheme does not come about by slashes in front of a path. -/
theorem not_hasScheme_prepend {slashes : String} (incomplete : ¬HasScheme path)
    (starts : Slashes slashes) : ¬HasScheme (slashes ++ path) := by
  rintro ⟨scheme, listed, rest, same⟩
  have chars := congrArg String.toList same
  rw [String.toList_append, String.toList_append] at chars
  cases before : slashes.toList with
  | nil =>
    rw [String.toList_eq_nil_iff.1 before, String.empty_append] at same
    exact incomplete ⟨scheme, listed, rest, same⟩
  | cons char others =>
    have slash : char = '/' := starts char (before ▸ List.mem_cons_self)
    rw [before, slash] at chars
    simp only [schemes, List.mem_cons, List.not_mem_nil, or_false] at listed
    rcases listed with rfl | rfl <;> simp at chars

/-- The body of a site begins with the scheme of the site. -/
theorem Bare.of_sited (bare : Bare (scheme ++ rest) body) (solid : ¬Slashes rest) :
    ∃ host, body = scheme ++ host ∧ Bare rest host := by
  obtain ⟨host, own, -⟩ := existsUnique_bare rest
  obtain ⟨⟨slashes, ends, split⟩, last⟩ := own
  have filled : host.toList ≠ [] := by
    intro empty
    rw [String.toList_eq_nil_iff.1 empty, String.empty_append] at split
    exact solid (split ▸ ends)
  have whole : Bare (scheme ++ rest) (scheme ++ host) := by
    refine ⟨⟨slashes, ends, ?_⟩, ?_⟩
    · rw [split, String.append_assoc]
    · rwa [String.toList_append, List.getLast?_append_of_ne_nil _ filled]
  exact ⟨host, (existsUnique_bare _).unique bare whole, ⟨slashes, ends, split⟩, last⟩

theorem Bare.hasScheme (bare : Bare base body) (sited : Sited base) : HasScheme body := by
  obtain ⟨scheme, listed, rest, rfl, solid⟩ := sited
  obtain ⟨host, rfl, -⟩ := bare.of_sited solid
  exact ⟨scheme, listed, host, rfl⟩

/-- A scheme ends with a slash. -/
theorem getLast?_scheme (listed : scheme ∈ schemes) : scheme.toList.getLast? = some '/' := by
  simp only [schemes, List.mem_cons, List.not_mem_nil, or_false] at listed
  rcases listed with rfl | rfl <;> simp

/-- Only a site has a body with a scheme, since every scheme ends with a slash. -/
theorem Bare.sited (bare : Bare base body) (complete : HasScheme body) : Sited base := by
  obtain ⟨⟨slashes, ends, rfl⟩, last⟩ := bare
  obtain ⟨scheme, listed, host, rfl⟩ := complete
  refine ⟨scheme, listed, host ++ slashes, String.append_assoc .., fun all => last ?_⟩
  have every : Slashes host := ((slashes_append _ _).1 all).1
  rw [String.toList_append, List.getLast?_append]
  cases final : host.toList.getLast? with
  | none => exact getLast?_scheme listed
  | some char => exact congrArg some (every char (List.mem_of_getLast? final))

/-- A tail brings no scheme with it. -/
theorem hasScheme_of_joined (last : body.toList.getLast? ≠ some '/')
    (first : tail.toList.head? ≠ some '/') (complete : HasScheme (body ++ "/" ++ tail)) :
    HasScheme body := by
  obtain ⟨scheme, listed, rest, same⟩ := complete
  obtain ⟨name, split, plain⟩ : ∃ name : List Char,
      scheme.toList = name ++ ['/', '/'] ∧ '/' ∉ name := by
    simp only [schemes, List.mem_cons, List.not_mem_nil, or_false] at listed
    rcases listed with rfl | rfl
    · exact ⟨['h', 't', 't', 'p', ':'], by simp, by decide⟩
    · exact ⟨['h', 't', 't', 'p', 's', ':'], by simp, by decide⟩
  have chars : body.toList ++ '/' :: tail.toList = name ++ '/' :: '/' :: rest.toList := by
    simpa [split] using congrArg String.toList same
  rcases List.append_eq_append_iff.1 chars with ⟨part, named, slash⟩ | ⟨part, whole, slash⟩
  · -- The slash that joins the parts would stand in the name of the scheme, or start the tail.
    cases part with
    | nil =>
      have begins : tail.toList = '/' :: rest.toList := by simpa using slash
      exact absurd (by simp [begins]) first
    | cons char part =>
      obtain ⟨rfl, -⟩ := List.cons.inj slash
      exact absurd (named ▸ by simp) plain
  · -- The body holds both slashes of the scheme, since neither joins the parts.
    rcases part with _ | ⟨char, _ | ⟨other, host⟩⟩
    · have begins : tail.toList = '/' :: rest.toList := by simpa using slash.symm
      exact absurd (by simp [begins]) first
    · obtain ⟨rfl, -⟩ := List.cons.inj slash
      exact absurd (by simp [whole]) last
    · simp only [List.cons_append, List.cons.injEq] at slash
      obtain ⟨rfl, rfl, -⟩ := slash
      refine ⟨scheme, listed, String.ofList host, String.toList_inj.1 ?_⟩
      simp [split, whole]

theorem takeWhile_append_of_head {test : Char → Bool} {front back : List Char}
    (stops : ∀ char ∈ back.head?, test char = false) :
    (front ++ back).takeWhile test = front.takeWhile test := by
  have nothing : back.takeWhile test = [] := by
    cases back with
    | nil => rfl
    | cons char back => exact List.takeWhile_cons_of_neg (by simp [stops char rfl])
  rw [List.takeWhile_append, nothing, List.append_nil]
  split
  · next whole => exact ((List.takeWhile_prefix test).eq_of_length whole).symm
  · rfl

/-- An address with a scheme has an origin. -/
theorem origin?_append (listed : scheme ∈ schemes) (rest : String) :
    origin? (scheme ++ rest) =
      some (scheme ++ String.ofList (rest.toList.takeWhile fun char => !endsHost char)) := by
  simp only [schemes, List.mem_cons, List.not_mem_nil, or_false] at listed
  rcases listed with rfl | rfl
  · simp [origin?, schemes, Text.dropPrefix?]
  · simp [origin?, schemes, Text.dropPrefix?]

/-- The origin of an address ends before the first slash after its scheme. -/
theorem origin?_of_slash (listed : scheme ∈ schemes) {host more : String}
    (slash : ∀ char ∈ more.toList.head?, char = '/') :
    origin? (scheme ++ (host ++ more)) = origin? (scheme ++ host) := by
  rw [origin?_append listed, origin?_append listed, String.toList_append,
    takeWhile_append_of_head fun char first => by rw [slash char first]; rfl]

/-- A path of a site leads to the origin of the site. -/
theorem origin?_resolve (sited : Sited base) (incomplete : ¬HasScheme path) :
    ∃ origin, origin? base = some origin ∧ origin? (resolve base path) = some origin := by
  obtain ⟨scheme, listed, rest, rfl, solid⟩ := sited
  obtain ⟨body, bare, -⟩ := existsUnique_bare (scheme ++ rest)
  obtain ⟨tail, relative, -⟩ := existsUnique_tail path
  obtain ⟨host, rfl, ⟨slashes, ends, rfl⟩, -⟩ := bare.of_sited solid
  refine ⟨_, origin?_append listed _, ?_⟩
  rw [← origin?_append listed, resolve_of_not_hasScheme incomplete bare relative,
    String.append_assoc, String.append_assoc,
    origin?_of_slash listed fun char first => ends char (List.mem_of_mem_head? first),
    origin?_of_slash listed (by simp)]

/-- An address that was resolved is not resolved any further. -/
theorem resolve_resolve_of_sited (sited : Sited base) (path : String) :
    resolve base (resolve base path) = resolve base path := by
  by_cases complete : HasScheme path
  · rw [resolve_of_hasScheme complete, resolve_of_hasScheme complete]
  · obtain ⟨body, bare, -⟩ := existsUnique_bare base
    obtain ⟨tail, relative, -⟩ := existsUnique_tail path
    rw [resolve_of_not_hasScheme complete bare relative, String.append_assoc]
    exact resolve_of_hasScheme ((bare.hasScheme sited).append _)

/-- Every other site but one of slashes alone is put in front of an address once more. -/
theorem resolve_resolve_iff (incomplete : ¬HasScheme path) :
    resolve base (resolve base path) = resolve base path ↔ Slashes base ∨ Sited base := by
  obtain ⟨body, bare, -⟩ := existsUnique_bare base
  obtain ⟨tail, relative, -⟩ := existsUnique_tail path
  have once := resolve_of_not_hasScheme incomplete bare relative
  by_cases complete : HasScheme body
  · have sited := bare.sited complete
    exact iff_of_true (resolve_resolve_of_sited sited path) (.inr sited)
  · have incompleteJoined : ¬HasScheme (body ++ "/" ++ tail) := fun joined =>
      complete (hasScheme_of_joined bare.last relative.first joined)
    obtain ⟨more, later, -⟩ := existsUnique_tail (body ++ "/" ++ tail)
    have twice := resolve_of_not_hasScheme incompleteJoined bare later
    rw [once, twice]
    constructor
    · intro same
      refine .inl (bare.eq_empty_iff.1 ?_)
      by_contra filled
      have longer := later.length_lt bare.last filled
      rw [String.append_right_inj] at same
      rw [same] at longer
      exact lt_irrefl _ longer
    · rintro (all | sited)
      · obtain rfl := bare.eq_empty_iff.2 all
        have own : Tail tail tail :=
          ⟨⟨"", by simp [Slashes], String.empty_append.symm⟩, relative.first⟩
        rw [(existsUnique_tail _).unique later (own.prepend (by simp [Slashes]))]
      · exact absurd (bare.hasScheme sited) complete

/-- What a path of a site stands for follows from its parts and those of the site. -/
theorem resolves (base path : String) : Resolves base path where
  complete := resolve_of_hasScheme
  joined incomplete _ _ := resolve_of_not_hasScheme incomplete
  bare := existsUnique_bare base
  tail := existsUnique_tail path
  appended slashes ends := by
    by_cases complete : HasScheme path
    · rw [resolve_of_hasScheme complete, resolve_of_hasScheme complete]
    · obtain ⟨body, bare, -⟩ := existsUnique_bare base
      obtain ⟨tail, relative, -⟩ := existsUnique_tail path
      rw [resolve_of_not_hasScheme complete (bare.append ends) relative,
        resolve_of_not_hasScheme complete bare relative]
  prepended incomplete slashes starts := by
    obtain ⟨body, bare, -⟩ := existsUnique_bare base
    obtain ⟨tail, relative, -⟩ := existsUnique_tail path
    rw [resolve_of_not_hasScheme (not_hasScheme_prepend incomplete starts) bare
      (relative.prepend starts), resolve_of_not_hasScheme incomplete bare relative]
  origin incomplete sited := origin?_resolve sited incomplete
  again sited := resolve_resolve_of_sited sited path
  again_iff := resolve_resolve_iff

end Sites

end StepRunner.Address
