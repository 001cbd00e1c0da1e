import Mathlib.Algebra.Group.Int.Defs
import Mathlib.Algebra.Group.Nat.Defs
import Mathlib.Data.List.Nodup
import StepRunner.Json.Record

/-!
This file shows which fields the reader of a record finds in an object.
-/

namespace StepRunner.Json

variable {members : List (String × Json)} {names : List String} {name : String} {value : Json}

/-- A name that comes once has one value. -/
theorem valuesOf_eq_toList (distinct : (members.map Prod.fst).Nodup) :
    valuesOf name members = (members.lookup name).toList := by
  induction members with
  | nil => rfl
  | cons member members inductionHypothesis =>
    obtain ⟨label, content⟩ := member
    obtain ⟨apart, distinct⟩ := List.nodup_cons.1 distinct
    have others := inductionHypothesis distinct
    by_cases same : label = name
    · subst same
      have missing : members.lookup label = none :=
        List.lookup_eq_none_iff.2 fun other listed =>
          bne_iff_ne.2 fun same => apart (List.mem_map.2 ⟨other, listed, same.symm⟩)
      rw [missing] at others
      rw [List.lookup_cons_self, valuesOf, List.filter_cons_of_pos (by simp), List.map_cons]
      exact congrArg _ others
    · rw [valuesOf, List.filter_cons_of_neg (by simpa using same), List.lookup_cons,
        beq_false_of_ne (Ne.symm same)]
      exact others

namespace Fields

/-- The fields that an object gives. -/
def given (names : List String) (members : List (String × Json)) : Fields :=
  ⟨false, names.map fun name => (name, members.lookup name)⟩

theorem of?_obj (distinct : (members.map Prod.fst).Nodup) :
    of? names (obj members) = some (given names members) := by
  show ofMembers? names members = some (given names members)
  unfold ofMembers? given
  induction names with
  | nil => rfl
  | cons name names inductionHypothesis =>
    obtain ⟨values, looked, same⟩ := Option.bind_eq_some_iff.1 inductionHypothesis
    have values_eq := (Fields.mk.inj (Option.some.inj same)).2
    rw [List.mapM_cons, valuesOf_eq_toList distinct, looked, values_eq, List.map_cons]
    cases members.lookup name <;> rfl

theorem get?_given (listed : name ∈ names) :
    (given names members).get? name = members.lookup name := by
  unfold get? given
  induction names with
  | nil => cases listed
  | cons first names inductionHypothesis =>
    by_cases same : first = name
    · simp [same]
    · have later := (List.mem_cons.1 listed).resolve_left (Ne.symm same)
      simpa [same] using inductionHypothesis later

variable {Value : Type} {read? : Json → Option Value}

/-- A field that an object gives is read from its value. -/
theorem required?_given (listed : name ∈ names) (found : members.lookup name = some value) :
    (given names members).required? name read? = read? value := by
  rw [required?, get?_given listed, found, Option.bind_some]

theorem optional?_given (listed : name ∈ names) (found : members.lookup name = some value) :
    (given names members).optional? name read? = nullable? read? value := by
  rw [optional?, get?_given listed, found]

/-- A field that an object leaves out is absent. -/
theorem optional?_left_out (listed : name ∈ names) (missing : members.lookup name = none) :
    (given names members).optional? name read? = some none := by
  rw [optional?, get?_given listed, missing]
  rfl

/-- A field with a default is read from its value where an object gives one. -/
theorem defaulted?_given {default : Value} (listed : name ∈ names) :
    (given names members).defaulted? name read? default =
      ((members.lookup name).map read?).getD (some default) := by
  rw [defaulted?, get?_given listed]
  cases members.lookup name <;> rfl

end Fields

section Scalars

/-- An integer fits 64 bits with sign. -/
def FitsInt64 (number : Int) : Prop :=
  -2 ^ 63 ≤ number ∧ number < 2 ^ 63

instance (number : Int) : Decidable (FitsInt64 number) :=
  inferInstanceAs (Decidable (_ ∧ _))

/-- A natural number fits 32 bits. -/
def FitsNat32 (number : Nat) : Prop :=
  number < 2 ^ 32

instance (number : Nat) : Decidable (FitsNat32 number) :=
  inferInstanceAs (Decidable (_ < _))

/-- A natural number fits 64 bits. -/
def FitsNat64 (number : Nat) : Prop :=
  number < 2 ^ 64

instance (number : Nat) : Decidable (FitsNat64 number) :=
  inferInstanceAs (Decidable (_ < _))

@[simp] theorem string?_str (text : String) : (str text).string? = some text :=
  rfl

@[simp] theorem bool?_bool (truth : Bool) : (bool truth).bool? = some truth :=
  rfl

@[simp] theorem name?_str (text : String) : (str text).name? = some text :=
  rfl

theorem int64?_whole {number : Int} (fits : FitsInt64 number) :
    (whole number).int64? = some number :=
  if_pos ⟨fits.1, Int.le_sub_one_of_lt fits.2⟩

theorem nat32?_whole {number : Nat} (fits : FitsNat32 number) :
    (whole number).nat32? = some number := by
  have bounds : (0 : Int) ≤ number ∧ (number : Int) ≤ Int.pow 2 32 - 1 := by
    have small : number < 2 ^ 32 := fits
    exact ⟨Int.natCast_nonneg number, show (number : Int) ≤ 4294967296 - 1 by omega⟩
  rw [nat32?, bounded?, if_pos bounds, Option.map_some, Int.toNat_natCast]

theorem nat64?_whole {number : Nat} (fits : FitsNat64 number) :
    (whole number).nat64? = some number := by
  have bounds : (0 : Int) ≤ number ∧ (number : Int) ≤ Int.pow 2 64 - 1 := by
    have small : number < 2 ^ 64 := fits
    exact ⟨Int.natCast_nonneg number, show (number : Int) ≤ 18446744073709551616 - 1 by omega⟩
  rw [nat64?, bounded?, if_pos bounds, Option.map_some, Int.toNat_natCast]

/-- A number that was read as one of 64 bits fits them. -/
theorem fitsNat64_of_nat64? {value : Json} {number : Nat} (read : value.nat64? = some number) :
    FitsNat64 number := by
  obtain ⟨whole, inside, rfl⟩ := Option.map_eq_some_iff.1 read
  cases value with
  | whole value =>
    obtain ⟨bounds, same⟩ := Option.ite_none_right_eq_some.1 inside
    obtain rfl := Option.some.inj same
    have less : value ≤ 18446744073709551616 - 1 := bounds.2
    show value.toNat < 2 ^ 64
    omega
  | _ => cases inside

/-- A value that null would leave out was read. -/
theorem of_nullable? {Value : Type} {read? : Json → Option Value} {value : Json} {content : Value}
    (read : nullable? read? value = some (some content)) : read? value = some content := by
  unfold nullable? at read
  split at read
  · cases read
  · simpa using read

@[simp] theorem nullable?_ofOption (text : Option String) :
    nullable? string? (.ofOption text) = some text := by
  cases text <;> rfl

theorem nullable?_ofOptionInt {number : Option Int} (fits : ∀ value ∈ number, FitsInt64 value) :
    nullable? int64? (.ofOptionInt number) = some number := by
  cases number with
  | none => rfl
  | some value => exact congrArg (Option.map some) (int64?_whole (fits value rfl))

end Scalars

section Tags

variable {tag kind : String}

/-- A tag that no other member has is split from them. -/
theorem tagged?_obj (apart : tag ∉ members.map Prod.fst) :
    tagged? tag (obj ((tag, str kind) :: members)) = some (kind, obj members) := by
  have other : ∀ name value, (name, value) ∈ members → name ≠ tag :=
    fun name value listed same => apart (List.mem_map.2 ⟨(name, value), listed, same⟩)
  have untagged : members.filter (fun member => member.1 = tag) = [] :=
    List.filter_eq_nil_iff.2 fun member listed => by simpa using other _ _ listed
  simpa [tagged?, valuesOf, untagged] using other

end Tags

end StepRunner.Json
