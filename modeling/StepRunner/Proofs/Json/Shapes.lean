import StepRunner.Json.Shape
import StepRunner.Proofs.Json.Values

/-!
This file shows that a record is read back from its text when the text has to look like a record.
-/

namespace StepRunner.Json

variable {depth fuel : Nat} {fields : List (String × Shape)} {rest : List Char}

/-- A value of any shape is read back up to its end. -/
theorem readShape_any {value : Json} (exact : Exact depth value)
    (ends : EndsNumber rest) :
    readShape (depth + 1) (fuel + 1) .any (value.compact ++ rest) = .ok (value, rest) := by
  have whole : readValue? true (depth + 1) (2 * (value.compact ++ rest).length + 2)
      (value.compact ++ rest) = some (value, rest) :=
    exact.returns _ _ (by rw [List.length_append]; omega) ends
  rw [readShape, dropWhile_compact]
  simp only [whole, formed]

/-- A field is read up to the end of its value. -/
theorem readRecord_quote {done : List (String × Json)} {name : String} {value : Json}
    {text : List Char} (known : fields.lookup name = some .any)
    (fresh : done.lookup name = none)
    (read : readShape depth fuel .any text = .ok (value, rest)) :
    readRecord depth (fuel + 1) fields done (quote name ++ ':' :: text) =
      match rest.dropWhile isSpace with
      | ',' :: rest => readRecord depth fuel fields (done ++ [(name, value)]) rest
      | '\x7d' :: rest => .ok (obj (done ++ [(name, value)]), rest)
      | _ => .error .form := by
  have colon : readColon (':' :: text) = .ok text := by simp [readColon, isSpace]
  generalize following : rest.dropWhile isSpace = marks
  split <;>
    simp [*, readRecord, quote, isSpace, readString?_escapes, Except.bind, Except.map]

/-- A name that no other member has is not among the members before it. -/
theorem lookup_eq_none {done members : List (String × Json)} {member : String × Json}
    (distinct : ((done ++ member :: members).map Prod.fst).Nodup) :
    done.lookup member.1 = none := by
  rw [List.map_append, List.map_cons, List.nodup_append] at distinct
  refine List.lookup_eq_none_iff.2 fun other listed => ?_
  have apart := distinct.2.2 other.1 (List.mem_map_of_mem listed) member.1 List.mem_cons_self
  simpa using apart.symm

/-- The members of a record are read back when each is a field and none comes twice. -/
theorem readRecord_compactMembers {members done : List (String × Json)} {name : String}
    {value : Json} (rest : List Char)
    (known : ∀ member ∈ (name, value) :: members, fields.lookup member.1 = some .any)
    (distinct : ((done ++ (name, value) :: members).map Prod.fst).Nodup)
    (exact : ∀ member ∈ (name, value) :: members, Exact depth member.2)
    (enough : members.length < fuel) :
    readRecord (depth + 1) (fuel + 1) fields done
        (quote name ++ ':' :: (value.compact ++ (compactMembers members ++ rest))) =
      .ok (obj (done ++ (name, value) :: members), rest) := by
  induction members generalizing name value done fuel with
  | nil =>
    obtain ⟨fuel, rfl⟩ := Nat.exists_eq_add_one_of_ne_zero (show fuel ≠ 0 by omega)
    rw [readRecord_quote (known _ List.mem_cons_self) (lookup_eq_none distinct)
      (readShape_any (exact _ List.mem_cons_self) (endsNumber_compactMembers _ _))]
    rfl
  | cons next members inductionHypothesis =>
    obtain ⟨label, content⟩ := next
    rw [List.length_cons] at enough
    obtain ⟨fuel, rfl⟩ := Nat.exists_eq_add_one_of_ne_zero (show fuel ≠ 0 by omega)
    have others : readRecord (depth + 1) (fuel + 1) fields (done ++ [(name, value)])
        (quote label ++ ':' :: (content.compact ++ (compactMembers members ++ rest))) =
          .ok (obj (done ++ [(name, value)] ++ (label, content) :: members), rest) :=
      inductionHypothesis (fun member listed => known member (.tail _ listed))
        (by rwa [List.append_assoc, List.singleton_append])
        (fun member listed => exact member (.tail _ listed)) (by omega)
    rw [readRecord_quote (known _ List.mem_cons_self) (lookup_eq_none distinct)
      (readShape_any (exact _ List.mem_cons_self) (endsNumber_compactMembers _ _))]
    simp [compactMembers, isSpace, others]

section Kinds

variable {members : List (String × Json)} {names : List String} {value : Json}

/-- A value is read back where it may look any way. -/
theorem Shape.read?_any (exact : Exact depth value) (shallow : depth < depthLimit) :
    Shape.any.read? value.text = some value := by
  have deep : Exact 127 value := exact.deeper (Nat.le_of_lt_succ shallow)
  have whole : readShape depthLimit (2 * value.compact.length + 8) .any value.compact =
      .ok (value, []) := by
    have read : readShape (127 + 1) (2 * value.compact.length + 7 + 1) .any
        (value.compact ++ []) = .ok (value, []) := readShape_any deep endsNumber_nil
    rwa [List.append_nil] at read
  simp [Shape.read?, Shape.readPrefix, whole]

theorem lookup_fields {name : String} (listed : name ∈ names) :
    (names.map fun name => (name, Shape.any)).lookup name = some .any := by
  induction names with
  | nil => cases listed
  | cons first names inductionHypothesis =>
    rw [List.map_cons, List.lookup_cons]
    split
    · rfl
    · next other =>
      exact inductionHypothesis ((List.mem_cons.1 listed).resolve_left (by simpa using other))

theorem length_members_lt (members : List (String × Json)) :
    members.length < (compactMembers members).length := by
  induction members with
  | nil => decide
  | cons member members inductionHypothesis =>
    simp only [compactMembers, List.length_append, List.length_cons]
    omega

/-- An object is read up to its end where its members are fields. -/
theorem readShape_fields (listed : ∀ member ∈ members, member.1 ∈ names)
    (distinct : (members.map Prod.fst).Nodup)
    (exact : ∀ member ∈ members, Exact depth member.2)
    (enough : (obj members).compact.length ≤ fuel) :
    readShape (depth + 2) (fuel + 1) (.fields names) (obj members).compact =
      .ok (obj members, []) := by
  rw [Shape.fields, readShape.eq_def]
  cases members with
  | nil => simp [compact, isSpace]
  | cons member members =>
    obtain ⟨name, value⟩ := member
    have fewer : members.length + 2 ≤ fuel := by
      have fewer := length_members_lt members
      simp only [compact, List.length_append, List.length_cons] at enough
      omega
    obtain ⟨fuel, rfl⟩ := Nat.exists_eq_add_one_of_ne_zero (show fuel ≠ 0 by omega)
    have all : readRecord (depth + 1) (fuel + 1) (names.map fun name => (name, Shape.any)) []
        (quote name ++ ':' :: (value.compact ++ (compactMembers members ++ []))) =
          .ok (obj ([] ++ (name, value) :: members), []) :=
      readRecord_compactMembers [] (fun member present => lookup_fields (listed member present))
        distinct exact (by omega)
    simpa [compact, quote, isSpace] using all

/-- An object is read back where its members are fields. -/
theorem Shape.read?_fields (listed : ∀ member ∈ members, member.1 ∈ names)
    (distinct : (members.map Prod.fst).Nodup)
    (exact : ∀ member ∈ members, Exact depth member.2) (shallow : depth + 1 < depthLimit) :
    (Shape.fields names).read? (obj members).text = some (obj members) := by
  have deep : ∀ member ∈ members, Exact 126 member.2 := fun member present =>
    (exact member present).deeper (Nat.le_of_lt_succ (Nat.lt_of_succ_lt_succ shallow))
  have whole : readShape depthLimit (2 * (obj members).compact.length + 7 + 1) (.fields names)
      (obj members).compact = .ok (obj members, []) :=
    readShape_fields listed distinct deep (by omega)
  simp [Shape.read?, Shape.readPrefix, whole]

end Kinds

end StepRunner.Json
