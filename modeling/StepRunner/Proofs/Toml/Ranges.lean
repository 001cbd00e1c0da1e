import StepRunner.Proofs.Json.Records
import StepRunner.Toml.Reader

/-!
This file shows that every whole number of a TOML document fits 64 bits with sign, wherever in the
document it stands.
-/

namespace StepRunner

namespace Json

/-- Every whole number of a value fits 64 bits with sign. -/
inductive Narrow : Json → Prop where
  | null : Narrow null
  | bool (value : Bool) : Narrow (bool value)
  | whole {value : Int} (fits : FitsInt64 value) : Narrow (whole value)
  | real (mantissa exponent : Int) : Narrow (real mantissa exponent)
  | str (text : String) : Narrow (str text)
  | arr {items : List Json} (inside : ∀ item ∈ items, Narrow item) : Narrow (arr items)
  | obj {members : List (String × Json)} (inside : ∀ member ∈ members, Narrow member.2) :
      Narrow (obj members)

theorem narrow_arr_iff {items : List Json} : Narrow (.arr items) ↔ ∀ item ∈ items, Narrow item := by
  constructor
  · intro narrow
    cases narrow with
    | arr inside => exact inside
  · exact .arr

theorem narrow_obj_iff {members : List (String × Json)} :
    Narrow (.obj members) ↔ ∀ member ∈ members, Narrow member.2 := by
  constructor
  · intro narrow
    cases narrow with
    | obj inside => exact inside
  · exact .obj

section Records

variable {value part : Json} {names : List String} {name : String} {fields : Fields}

theorem exists_of_mem_mapM {Input Output : Type} {read? : Input → Option Output}
    {inputs : List Input} {outputs : List Output} (all : inputs.mapM read? = some outputs)
    {output : Output} (present : output ∈ outputs) :
    ∃ input ∈ inputs, read? input = some output := by
  induction inputs generalizing outputs with
  | nil =>
    obtain rfl := Option.some.inj all
    cases present
  | cons input inputs inductionHypothesis =>
    rw [List.mapM_cons] at all
    obtain ⟨first, read, rest⟩ := Option.bind_eq_some_iff.1 all
    obtain ⟨others, later, same⟩ := Option.bind_eq_some_iff.1 rest
    obtain rfl := Option.some.inj same
    rcases List.mem_cons.1 present with rfl | present
    · exact ⟨input, List.mem_cons_self, read⟩
    · obtain ⟨other, listed, read⟩ := inductionHypothesis later present
      exact ⟨other, List.mem_cons_of_mem _ listed, read⟩

/-- The field of a record is a part of it. -/
theorem Narrow.get? (narrow : value.Narrow) (record : Fields.of? names value = some fields)
    (found : fields.get? name = some part) : part.Narrow := by
  obtain ⟨field, listed, own⟩ := Option.bind_eq_some_iff.1 found
  have present := List.mem_of_find?_eq_some listed
  cases narrow with
  | @obj members inside =>
    obtain ⟨values, looked, same⟩ := Option.bind_eq_some_iff.1 record
    obtain rfl := Option.some.inj same
    obtain ⟨label, -, given⟩ := exists_of_mem_mapM looked present
    have among : part ∈ valuesOf label members := by
      split at given
      · obtain rfl := Option.some.inj given
        cases own
      · next value only =>
        obtain rfl := Option.some.inj given
        obtain rfl := Option.some.inj own
        exact only ▸ List.mem_singleton_self _
      · cases given
    obtain ⟨member, kept, rfl⟩ := List.mem_map.1 among
    exact inside member (List.mem_of_mem_filter kept)
  | arr inside =>
    unfold Fields.of? at record
    obtain ⟨-, same⟩ := Option.ite_none_right_eq_some.1 record
    obtain rfl := Option.some.inj same
    obtain ⟨⟨label, index⟩, -, rfl⟩ := List.mem_map.1 present
    exact inside part (List.mem_of_getElem? own)
  | null | bool | whole | real | str => cases record

end Records

end Json

namespace Toml

/-- Every whole number of a value fits 64 bits with sign. -/
def Narrow (value : Toml) : Prop := value.toJson.Narrow

/-- Every whole number at a key of a table fits 64 bits with sign. -/
def Node.Narrow (node : Node) : Prop := node.toToml.Narrow

/-- Every whole number of a table that is being built fits 64 bits with sign. -/
def Members.Narrow (members : Members) : Prop := ∀ member ∈ members, member.2.Narrow

section Values

theorem itemsToJson_eq_map (items : List Toml) : itemsToJson items = items.map toJson := by
  induction items with
  | nil => rfl
  | cons item items inductionHypothesis => rw [itemsToJson, inductionHypothesis, List.map_cons]

theorem membersToJson_eq_map (members : List (String × Toml)) :
    membersToJson members = members.map fun member => (member.1, member.2.toJson) := by
  induction members with
  | nil => rfl
  | cons member members inductionHypothesis =>
    rw [membersToJson, inductionHypothesis, List.map_cons]

theorem narrow_array_iff {items : List Toml} :
    (array items).Narrow ↔ ∀ item ∈ items, item.Narrow := by
  rw [Narrow, toJson, Json.narrow_arr_iff, itemsToJson_eq_map, List.forall_mem_map]
  rfl

theorem narrow_table_iff {members : List (String × Toml)} :
    (table members).Narrow ↔ ∀ member ∈ members, member.2.Narrow := by
  rw [Narrow, toJson, Json.narrow_obj_iff, membersToJson_eq_map, List.forall_mem_map]
  rfl

theorem membersToToml_eq_map (members : Members) :
    membersToToml members = members.map fun member => (member.1, member.2.toToml) := by
  induction members with
  | nil => rfl
  | cons member members inductionHypothesis =>
    rw [membersToToml, inductionHypothesis, List.map_cons]

theorem elementsToToml_eq_map (elements : List Members) :
    elementsToToml elements = elements.map fun element => .table (membersToToml element) := by
  induction elements with
  | nil => rfl
  | cons element elements inductionHypothesis =>
    rw [elementsToToml, inductionHypothesis, List.map_cons]

variable {members : Members} {elements : List Members} {origin : Origin}

theorem narrow_membersToToml_iff : (table (membersToToml members)).Narrow ↔ members.Narrow := by
  rw [narrow_table_iff, membersToToml_eq_map, List.forall_mem_map]
  rfl

theorem Node.narrow_table_iff : (Node.table origin members).Narrow ↔ members.Narrow := by
  rw [Node.Narrow, toToml, narrow_membersToToml_iff]

theorem Node.narrow_tables_iff :
    (Node.tables elements).Narrow ↔ ∀ element ∈ elements, element.Narrow := by
  rw [Node.Narrow, toToml, narrow_array_iff, elementsToToml_eq_map, List.forall_mem_map]
  exact forall₂_congr fun _ _ => narrow_membersToToml_iff

end Values

section Scalars

variable {text rest : List Char} {value : Toml} {number : Int} {negative : Bool} {size base : Nat}

theorem fits_of_inRange? (ranged : inRange? negative size = some number) :
    Json.FitsInt64 number := by
  have power : Nat.pow 2 63 = 9223372036854775808 := rfl
  unfold inRange? at ranged
  rw [power] at ranged
  unfold Json.FitsInt64
  split at ranged
  · obtain ⟨small, same⟩ := Option.ite_none_right_eq_some.1 ranged
    have := Option.some.inj same
    omega
  · obtain ⟨small, same⟩ := Option.ite_none_right_eq_some.1 ranged
    have := Option.some.inj same
    omega

theorem fits_of_based? (read : based? base text = some number) : Json.FitsInt64 number := by
  obtain ⟨digits, -, ranged⟩ := Option.bind_eq_some_iff.1 read
  exact fits_of_inRange? ranged

theorem fits_of_integer? (read : integer? text = some number) : Json.FitsInt64 number := by
  unfold integer? at read
  split at read
  · exact fits_of_based? read
  · exact fits_of_based? read
  · exact fits_of_based? read
  · obtain ⟨digits, -, ranged⟩ := Option.bind_eq_some_iff.1 read
    exact fits_of_inRange? ranged

theorem narrow_of_scalar? (judged : scalar? text = some value) : value.Narrow := by
  unfold scalar? at judged
  split_ifs at judged
  · obtain rfl := Option.some.inj judged
    exact .bool true
  · obtain rfl := Option.some.inj judged
    exact .bool false
  · obtain rfl := Option.some.inj judged
    exact .obj (List.forall_mem_singleton.2 (.str _))
  · obtain rfl := Option.some.inj judged
    exact .real 0 0
  · obtain ⟨number, read, rfl⟩ := Option.map_eq_some_iff.1 judged
    exact .whole (fits_of_integer? read)

theorem narrow_of_readScalar? (read : readScalar? text = some (value, rest)) : value.Narrow := by
  obtain ⟨_, judged, same⟩ := Option.map_eq_some_iff.1 read
  obtain ⟨rfl, -⟩ := Prod.mk.inj same
  exact narrow_of_scalar? judged

end Scalars

section Tables

variable {members result : Members} {key : String} {node : Node} {origin kind : Origin}
  {change : Origin → Members → Option (Origin × Members)} {path : List String} {dotted : Bool}

theorem Members.narrow_nil : Members.Narrow [] :=
  List.forall_mem_nil _

theorem Members.Narrow.get? (narrow : members.Narrow) (found : members.get? key = some node) :
    node.Narrow := by
  obtain ⟨member, listed, rfl⟩ := Option.map_eq_some_iff.1 found
  exact narrow member (List.mem_of_find?_eq_some listed)

theorem Members.Narrow.add (narrow : members.Narrow) (key : String) (added : node.Narrow) :
    (members.add key node).Narrow :=
  List.forall_mem_append.2 ⟨narrow, List.forall_mem_singleton.2 added⟩

theorem Members.Narrow.replace (narrow : members.Narrow) (key : String) (put : node.Narrow) :
    (members.replace key node).Narrow := by
  refine List.forall_mem_map.2 fun member listed => ?_
  split
  · exact put
  · exact narrow member listed

/-- A change of a table keeps its whole numbers narrow. -/
def Keeps (change : Origin → Members → Option (Origin × Members)) : Prop :=
  ∀ ⦃origin kind members result⦄, change origin members = some (kind, result) → members.Narrow →
    result.Narrow

/-- A change at the end of a path is one of the whole table. -/
theorem Keeps.descend (keeps : Keeps change) (dotted : Bool) (path : List String) :
    Keeps (Members.descend dotted change path) := by
  induction path with
  | nil => exact keeps
  | cons key path inductionHypothesis =>
    intro origin kind members result changed narrow
    rw [Members.descend] at changed
    split at changed
    · obtain ⟨⟨made, content⟩, below, same⟩ := Option.bind_eq_some_iff.1 changed
      obtain ⟨-, rfl⟩ := Prod.mk.inj (Option.some.inj same)
      have inner := inductionHypothesis below Members.narrow_nil
      exact narrow.add key (Node.narrow_table_iff.2 inner)
    · cases changed
    · next elements found =>
      -- An array of tables stands for its last element.
      obtain ⟨last, listed, descended⟩ := Option.bind_eq_some_iff.1 changed
      obtain ⟨⟨kept, content⟩, below, same⟩ := Option.bind_eq_some_iff.1 descended
      obtain ⟨-, rfl⟩ := Prod.mk.inj (Option.some.inj same)
      have every := Node.narrow_tables_iff.1 (narrow.get? found)
      have inner := inductionHypothesis below (every last (List.mem_of_getLast? listed))
      refine narrow.replace key (Node.narrow_tables_iff.2 (List.forall_mem_append.2 ⟨?_, ?_⟩))
      · exact fun element present => every element ((List.dropLast_sublist _).subset present)
      · exact List.forall_mem_singleton.2 inner
    · next made content found =>
      split at changed
      · cases changed
      · obtain ⟨⟨kept, after⟩, below, same⟩ := Option.bind_eq_some_iff.1 changed
        obtain ⟨-, rfl⟩ := Prod.mk.inj (Option.some.inj same)
        have inner := inductionHypothesis below (Node.narrow_table_iff.1 (narrow.get? found))
        exact narrow.replace key (Node.narrow_table_iff.2 inner)

theorem keeps_insert? {value : Toml} (narrow : value.Narrow) (dotted : Bool) (key : String) :
    Keeps (Members.insert? dotted key value) := by
  intro origin kind members result inserted before
  unfold Members.insert? at inserted
  split_ifs at inserted
  obtain ⟨-, rfl⟩ := Prod.mk.inj (Option.some.inj inserted)
  exact before.add key narrow

theorem keeps_insertAt? {value : Toml} (narrow : value.Narrow) (path : List String) :
    Keeps (Members.insertAt? path value) := by
  intro origin kind members result inserted before
  obtain ⟨key, -, inserted⟩ := Option.bind_eq_some_iff.1 inserted
  exact (keeps_insert? narrow _ key).descend _ _ inserted before

theorem Members.Narrow.openTable? (narrow : members.Narrow)
    (opened : members.openTable? path = some result) : result.Narrow := by
  obtain ⟨key, -, opened⟩ := Option.bind_eq_some_iff.1 opened
  obtain ⟨⟨kind, after⟩, below, same⟩ := Option.bind_eq_some_iff.1 opened
  obtain rfl := Option.some.inj same
  refine Keeps.descend ?_ _ _ below narrow
  intro origin kind members result opens before
  dsimp only at opens
  split at opens
  · obtain ⟨-, rfl⟩ := Prod.mk.inj (Option.some.inj opens)
    exact before.add key (Node.narrow_table_iff.2 Members.narrow_nil)
  · next content found =>
    obtain ⟨-, rfl⟩ := Prod.mk.inj (Option.some.inj opens)
    exact before.replace key (Node.narrow_table_iff.2
      (Node.narrow_table_iff.1 (before.get? found)))
  · cases opens

theorem Members.Narrow.openElement? (narrow : members.Narrow)
    (opened : members.openElement? path = some result) : result.Narrow := by
  obtain ⟨key, -, opened⟩ := Option.bind_eq_some_iff.1 opened
  obtain ⟨⟨kind, after⟩, below, same⟩ := Option.bind_eq_some_iff.1 opened
  obtain rfl := Option.some.inj same
  refine Keeps.descend ?_ _ _ below narrow
  intro origin kind members result opens before
  dsimp only at opens
  split at opens
  · obtain ⟨-, rfl⟩ := Prod.mk.inj (Option.some.inj opens)
    exact before.add key (Node.narrow_tables_iff.2 (List.forall_mem_singleton.2 Members.narrow_nil))
  · next elements found =>
    obtain ⟨-, rfl⟩ := Prod.mk.inj (Option.some.inj opens)
    refine before.replace key (Node.narrow_tables_iff.2 (List.forall_mem_append.2 ⟨?_, ?_⟩))
    · exact Node.narrow_tables_iff.1 (before.get? found)
    · exact List.forall_mem_singleton.2 Members.narrow_nil
  · cases opens

end Tables

section Reading

/-- What is read with so many steps holds narrow numbers only. -/
structure ReadsNarrow (fuel : Nat) : Prop where
  value : ∀ {depth text value rest}, readValue? depth fuel text = some (value, rest) →
    value.Narrow
  items : ∀ {depth text items rest}, readItems? depth fuel text = some (items, rest) →
    ∀ item ∈ items, item.Narrow
  members : ∀ {depth text members result rest},
    readMembers? depth fuel text members = some (result, rest) → members.Narrow → result.Narrow

theorem ReadsNarrow.zero : ReadsNarrow 0 where
  value := by
    intro depth text value rest read
    simp [readValue?] at read
  items := by
    intro depth text items rest read
    simp [readItems?] at read
  members := by
    intro depth text members result rest read
    simp [readMembers?] at read

variable {fuel depth : Nat} {text rest : List Char}

theorem ReadsNarrow.value_succ (reads : ReadsNarrow fuel) {value : Toml}
    (read : readValue? depth (fuel + 1) text = some (value, rest)) : value.Narrow := by
  unfold readValue? at read
  split at read
  · split at read
    · cases read
    · obtain ⟨⟨items, after⟩, inner, same⟩ := Option.map_eq_some_iff.1 read
      obtain ⟨rfl, -⟩ := Prod.mk.inj same
      exact narrow_array_iff.2 (reads.items inner)
  · split at read
    · cases read
    · split at read
      · obtain ⟨rfl, -⟩ := Prod.mk.inj (Option.some.inj read)
        exact narrow_table_iff.2 (List.forall_mem_nil _)
      · obtain ⟨⟨members, after⟩, inner, same⟩ := Option.map_eq_some_iff.1 read
        obtain ⟨rfl, -⟩ := Prod.mk.inj same
        exact narrow_membersToToml_iff.2 (reads.members inner Members.narrow_nil)
  · obtain ⟨_, -, same⟩ := Option.map_eq_some_iff.1 read
    obtain ⟨rfl, -⟩ := Prod.mk.inj same
    exact .str _
  · obtain ⟨_, -, same⟩ := Option.map_eq_some_iff.1 read
    obtain ⟨rfl, -⟩ := Prod.mk.inj same
    exact .str _
  · exact narrow_of_readScalar? read

theorem ReadsNarrow.items_succ (reads : ReadsNarrow fuel) {items : List Toml}
    (read : readItems? depth (fuel + 1) text = some (items, rest)) :
    ∀ item ∈ items, item.Narrow := by
  unfold readItems? at read
  split at read
  · obtain ⟨rfl, -⟩ := Prod.mk.inj (Option.some.inj read)
    exact List.forall_mem_nil _
  · split at read
    · cases read
    · next item after first =>
      split at read
      · obtain ⟨⟨others, last⟩, inner, same⟩ := Option.map_eq_some_iff.1 read
        obtain ⟨rfl, -⟩ := Prod.mk.inj same
        exact List.forall_mem_cons.2 ⟨reads.value first, reads.items inner⟩
      · obtain ⟨rfl, -⟩ := Prod.mk.inj (Option.some.inj read)
        exact List.forall_mem_singleton.2 (reads.value first)
      · cases read

theorem ReadsNarrow.members_succ (reads : ReadsNarrow fuel) {members result : Members}
    (read : readMembers? depth (fuel + 1) text members = some (result, rest))
    (narrow : members.Narrow) : result.Narrow := by
  unfold readMembers? at read
  split at read
  · cases read
  · split at read
    · cases read
    · next value after found =>
      split at read
      · cases read
      · next inserted =>
        have extended := keeps_insertAt? (reads.value found) _ inserted narrow
        split at read
        · exact reads.members read extended
        · obtain ⟨rfl, -⟩ := Prod.mk.inj (Option.some.inj read)
          exact extended
        · cases read

/-- Reading comes down to shorter readings, of which there are finitely many. -/
theorem readsNarrow (fuel : Nat) : ReadsNarrow fuel := by
  induction fuel with
  | zero => exact .zero
  | succ fuel inductionHypothesis =>
    exact ⟨inductionHypothesis.value_succ, inductionHypothesis.items_succ,
      inductionHypothesis.members_succ⟩

variable {progress later : Progress}

theorem narrow_of_header? (narrow : progress.root.Narrow)
    (read : progress.header? text = some (later, rest)) : later.root.Narrow := by
  unfold Progress.header? at read
  split at read
  · obtain ⟨⟨path, after⟩, -, closed⟩ := Option.bind_eq_some_iff.1 read
    dsimp only at closed
    split at closed
    · obtain ⟨_, -, opens⟩ := Option.bind_eq_some_iff.1 closed
      obtain ⟨root, opened, same⟩ := Option.bind_eq_some_iff.1 opens
      obtain ⟨rfl, -⟩ := Prod.mk.inj (Option.some.inj same)
      exact narrow.openElement? opened
    · cases closed
  · obtain ⟨⟨path, after⟩, -, closed⟩ := Option.bind_eq_some_iff.1 read
    dsimp only at closed
    split at closed
    · obtain ⟨_, -, opens⟩ := Option.bind_eq_some_iff.1 closed
      obtain ⟨root, opened, same⟩ := Option.bind_eq_some_iff.1 opens
      obtain ⟨rfl, -⟩ := Prod.mk.inj (Option.some.inj same)
      exact narrow.openTable? opened
    · cases closed

theorem narrow_of_member? (narrow : progress.root.Narrow)
    (read : progress.member? text = some (later, rest)) : later.root.Narrow := by
  obtain ⟨⟨path, _⟩, -, valued⟩ := Option.bind_eq_some_iff.1 read
  obtain ⟨⟨value, _⟩, found, ended⟩ := Option.bind_eq_some_iff.1 valued
  obtain ⟨_, -, placed⟩ := Option.bind_eq_some_iff.1 ended
  obtain ⟨⟨kind, root⟩, descended, same⟩ := Option.bind_eq_some_iff.1 placed
  obtain ⟨rfl, -⟩ := Prod.mk.inj (Option.some.inj same)
  have inserts := keeps_insertAt? ((readsNarrow _).value found) path
  exact inserts.descend _ _ descended narrow

/-- Every line of a document keeps what is read so far narrow. -/
theorem narrow_of_readDocument? (narrow : progress.root.Narrow)
    (read : readDocument? fuel progress text = some later) : later.root.Narrow := by
  induction fuel generalizing progress text with
  | zero => simp [readDocument?] at read
  | succ fuel inductionHypothesis =>
    unfold readDocument? at read
    split at read
    · exact Option.some.inj read ▸ narrow
    · obtain ⟨after, -, goes⟩ := Option.bind_eq_some_iff.1 read
      exact inductionHypothesis narrow goes
    · obtain ⟨after, -, goes⟩ := Option.bind_eq_some_iff.1 read
      exact inductionHypothesis narrow goes
    · obtain ⟨after, -, goes⟩ := Option.bind_eq_some_iff.1 read
      exact inductionHypothesis narrow goes
    · obtain ⟨⟨middle, after⟩, opened, goes⟩ := Option.bind_eq_some_iff.1 read
      exact inductionHypothesis (narrow_of_header? narrow opened) goes
    · obtain ⟨⟨middle, after⟩, added, goes⟩ := Option.bind_eq_some_iff.1 read
      exact inductionHypothesis (narrow_of_member? narrow added) goes

theorem narrow_of_read? {text : String} {document : Toml} (read : read? text = some document) :
    document.Narrow := by
  obtain ⟨progress, found, rfl⟩ := Option.map_eq_some_iff.1 read
  exact narrow_membersToToml_iff.2 (narrow_of_readDocument? Members.narrow_nil found)

end Reading

end Toml

end StepRunner
