import StepRunner.Proofs.Settings.Lines

/-!
This file shows that a document is read back from its text.
A document has settings of its own, and after them groups of settings under headers.
-/

namespace StepRunner.Toml

open Config (settingLine headerLines)

/-- A setting with the text of its value. -/
structure Setting where
  name : String
  text : List Char
  value : Toml

/-- Settings under a header. -/
structure Group where
  name : String
  settings : List Setting

/-- Settings that are followed by groups. -/
structure Document where
  settings : List Setting
  groups : List Group

namespace Setting

/-- The line of a setting. -/
def line (setting : Setting) : List Char :=
  settingLine setting.name setting.text

/-- What a setting adds to the table that is open. -/
def member (setting : Setting) : String × Node :=
  (setting.name, .value setting.value)

/-- What a setting is in the finished table. -/
def entry (setting : Setting) : String × Toml :=
  (setting.name, setting.value)

/-- The line of a setting is read as its value. -/
structure Legible (setting : Setting) : Prop where
  key : BareKey setting.name
  reads : ReadsAs setting.text setting.value

end Setting

namespace Group

/-- The lines of a group. -/
def lines (group : Group) : List Char :=
  headerLines group.name ++ group.settings.flatMap Setting.line

/-- What a group adds to a document. -/
def member (group : Group) : String × Node :=
  (group.name, .table .header (group.settings.map Setting.member))

/-- What a group is in the finished document. -/
def entry (group : Group) : String × Toml :=
  (group.name, .table (group.settings.map Setting.entry))

/-- The settings of a group can be read, and each comes once. -/
structure Legible (group : Group) : Prop where
  key : BareKey group.name
  settings : ∀ setting ∈ group.settings, setting.Legible
  distinct : (group.settings.map Setting.name).Nodup

end Group

namespace Document

/-- The text of a document. -/
def lines (document : Document) : List Char :=
  document.settings.flatMap Setting.line ++ document.groups.flatMap Group.lines

/-- The finished document. -/
def value (document : Document) : Toml :=
  .table (document.settings.map Setting.entry ++ document.groups.map Group.entry)

/-- The settings and the groups of a document can be read, and each name comes once. -/
structure Legible (document : Document) : Prop where
  settings : ∀ setting ∈ document.settings, setting.Legible
  groups : ∀ group ∈ document.groups, group.Legible
  distinct : (document.settings.map Setting.name ++ document.groups.map Group.name).Nodup

end Document

section Tables

variable {members content before : Members} {table name : String} {node : Node}

theorem Members.get?_eq_none (fresh : name ∉ members.map Prod.fst) :
    members.get? name = none := by
  rw [Members.get?, Option.map_eq_none_iff, List.find?_eq_none]
  intro member present
  have named : member.1 ∈ members.map Prod.fst := List.mem_map_of_mem present
  simpa using ne_of_mem_of_not_mem named fresh

theorem Members.get?_add_self (fresh : members.get? name = none) :
    (members.add name node).get? name = some node := by
  rw [Members.get?, Option.map_eq_none_iff] at fresh
  rw [Members.get?, Members.add, List.find?_append, fresh]
  simp

/-- The member that was added last can be replaced. -/
theorem Members.replace_add_self {old : Node} (fresh : members.get? name = none) :
    (members.add name old).replace name node = members.add name node := by
  rw [Members.get?, Option.map_eq_none_iff, List.find?_eq_none] at fresh
  have kept : members.map (fun member => if member.1 = name then (name, node) else member) =
      members := by
    refine (List.map_congr_left fun member present => ?_).trans (List.map_id' members)
    exact if_neg (by simpa using fresh member present)
  rw [Members.replace, Members.add, Members.add, List.map_append, kept]
  simp

/-- New members of the table at a path end up in a place of the document. -/
def Hosts (path : List String) (place : Members → Members) : Prop :=
  ∀ (content : Members) (name : String) (value : Toml), content.get? name = none →
    (place content).descend false (Members.insertAt? [name] value) path .header =
      some (.header, place (content.add name (.value value)))

theorem insertAt?_single (value : Toml) (unused : content.get? name = none) :
    Members.insertAt? [name] value .header content =
      some (.header, content.add name (.value value)) := by
  simp [Members.insertAt?, Members.descend, Members.insert?, unused]

theorem hosts_root : Hosts [] id :=
  fun _ _ value unused => insertAt?_single value unused

/-- The table that was opened last takes new members. -/
theorem hosts_table (fresh : before.get? table = none) :
    Hosts [table] fun content => before.add table (.table .header content) := by
  intro content name value unused
  simp [Members.descend, Members.get?_add_self fresh, Members.replace_add_self fresh,
    insertAt?_single value unused]

theorem membersToToml_append (front back : Members) :
    membersToToml (front ++ back) = membersToToml front ++ membersToToml back := by
  induction front with
  | nil => rfl
  | cons member front inductionHypothesis =>
    simp [membersToToml, inductionHypothesis]

theorem membersToToml_settings (settings : List Setting) :
    membersToToml (settings.map Setting.member) = settings.map Setting.entry := by
  induction settings with
  | nil => rfl
  | cons setting settings inductionHypothesis =>
    simp [membersToToml, Setting.member, Setting.entry, Node.toToml, inductionHypothesis]

theorem membersToToml_groups (groups : List Group) :
    membersToToml (groups.map Group.member) = groups.map Group.entry := by
  induction groups with
  | nil => rfl
  | cons group groups inductionHypothesis =>
    simp [membersToToml, Group.member, Group.entry, Node.toToml, membersToToml_settings,
      inductionHypothesis]

end Tables

section Texts

variable {before : Members} {current path : List String} {place : Members → Members}
  {rest : List Char} {final : Progress}

theorem names_of_settings (settings : List Setting) :
    (settings.map Setting.member).map Prod.fst = settings.map Setting.name := by
  simp [Setting.member]

theorem names_of_groups (groups : List Group) :
    (groups.map Group.member).map Prod.fst = groups.map Group.name := by
  simp [Group.member]

/-- The lines of settings add a member each to the table that is open. -/
theorem Finishes.settings {settings : List Setting} (content : Members) (hosts : Hosts path place)
    (later : Finishes ⟨place (content ++ settings.map Setting.member), path⟩ rest final)
    (legible : ∀ setting ∈ settings, setting.Legible)
    (distinct : ((content ++ settings.map Setting.member).map Prod.fst).Nodup) :
    Finishes ⟨place content, path⟩ (settings.flatMap Setting.line ++ rest) final := by
  induction settings generalizing content with
  | nil => simpa using later
  | cons setting settings inductionHypothesis =>
    obtain ⟨first, others⟩ := List.forall_mem_cons.1 legible
    have split : content ++ (setting :: settings).map Setting.member =
        content.add setting.name (.value setting.value) ++ settings.map Setting.member := by
      simp [Members.add, Setting.member]
    have unused : content.get? setting.name = none := by
      refine Members.get?_eq_none fun present => ?_
      rw [List.map_append] at distinct
      exact (List.nodup_append.1 distinct).2.2 _ present _ (by simp [Setting.member]) rfl
    rw [split] at later distinct
    rw [List.flatMap_cons, List.append_assoc]
    exact .settingLine (inductionHypothesis _ later others distinct) first.key first.reads
      (hosts content setting.name setting.value unused)

/-- The lines of groups add a table each to the document. -/
theorem Finishes.groups {groups : List Group} (legible : ∀ group ∈ groups, group.Legible)
    (distinct : ((before ++ groups.map Group.member).map Prod.fst).Nodup) :
    ∃ last, Finishes ⟨before, current⟩ (groups.flatMap Group.lines)
      ⟨before ++ groups.map Group.member, last⟩ := by
  induction groups generalizing before current with
  | nil => exact ⟨current, by simpa using finishes_nil _⟩
  | cons group groups inductionHypothesis =>
    obtain ⟨first, others⟩ := List.forall_mem_cons.1 legible
    have fresh : before.get? group.name = none := by
      refine Members.get?_eq_none fun present => ?_
      rw [List.map_append] at distinct
      exact (List.nodup_append.1 distinct).2.2 _ present _ (by simp [Group.member]) rfl
    have split : before ++ (group :: groups).map Group.member =
        before.add group.name (.table .header (group.settings.map Setting.member)) ++
          groups.map Group.member := by
      simp [Members.add, Group.member]
    rw [split] at distinct ⊢
    have own : (([] ++ group.settings.map Setting.member).map Prod.fst).Nodup := by
      rw [List.nil_append, names_of_settings]
      exact first.distinct
    obtain ⟨last, later⟩ := inductionHypothesis others distinct
    refine ⟨last, ?_⟩
    rw [List.flatMap_cons, Group.lines, List.append_assoc]
    have opened := Finishes.settings [] (hosts_table fresh) later first.settings own
    exact .headerLines opened first.key fresh

theorem skipMark_cons {first : Char} (other : first ≠ '\uFEFF') (more : List Char) :
    skipMark (first :: more) = first :: more := by
  simp [skipMark, other]

/-- No mark stands before the text of a document. -/
theorem skipMark_lines {document : Document} (legible : document.Legible) :
    skipMark document.lines = document.lines := by
  obtain ⟨settings, groups⟩ := document
  cases settings with
  | cons setting settings =>
    have first : setting.Legible := legible.settings setting List.mem_cons_self
    obtain ⟨char, more, line, plain⟩ := settingLine_eq_cons first.key setting.text
    rw [Document.lines, List.flatMap_cons, Setting.line, line]
    exact skipMark_cons (ne_of_isKeyChar plain (by decide)) _
  | nil =>
    cases groups with
    | nil => rfl
    | cons group groups => exact skipMark_cons (by decide) _

/-- A document is read back from its text. -/
theorem Document.read?_lines {document : Document} (legible : document.Legible) :
    read? (String.ofList document.lines) = some document.value := by
  have distinct : ((document.settings.map Setting.member ++
      document.groups.map Group.member).map Prod.fst).Nodup := by
    rw [List.map_append, names_of_settings, names_of_groups]
    exact legible.distinct
  obtain ⟨last, groups⟩ := Finishes.groups legible.groups distinct
  rw [List.map_append] at distinct
  have finishes : Finishes {} document.lines
      ⟨document.settings.map Setting.member ++ document.groups.map Group.member, last⟩ :=
    Finishes.settings [] hosts_root groups legible.settings (List.nodup_append.1 distinct).1
  rw [read?, String.toList_ofList, skipMark_lines legible]
  simp only [finishes _ (Nat.lt_succ_self _), Option.map_some, membersToToml_append,
    membersToToml_settings, membersToToml_groups, Document.value]

end Texts

end StepRunner.Toml
