import Mathlib.Data.List.Nodup
import SchemaSql.Proofs.Outcome
import SchemaSql.Schema.Declaration

/-!
# Declared schemas

What a declaration that passes its checks guarantees: the fields of a table differ in name, and so
do the joins of a schema, whose names are identifiers.
-/

namespace SchemaSql

/-! ## Finding by name -/

/-- Nothing is found under a name that no element has. -/
theorem find?_eq_none_iff_not_mem {α : Type} {name : α → String} {as : List α} {wanted : String} :
    as.find? (fun a ↦ name a == wanted) = none ↔ wanted ∉ as.map name := by
  simp

/-- Of elements that differ in name, the one that is found under a name is the only one of it. -/
theorem find?_eq_some_iff_of_nodup {α : Type} {name : α → String} {as : List α}
    (hnodup : (as.map name).Nodup) {wanted : String} {a : α} :
    as.find? (fun b ↦ name b == wanted) = some a ↔ a ∈ as ∧ name a = wanted := by
  constructor
  · intro hfound
    exact ⟨List.mem_of_find?_eq_some hfound, by simpa using List.find?_some hfound⟩
  · rintro ⟨ha, rfl⟩
    cases hfound : as.find? (fun b ↦ name b == name a) with
    | none => exact absurd (beq_self_eq_true _) (List.find?_eq_none.1 hfound a ha)
    | some b =>
      have hsame : name b = name a := by simpa using List.find?_some hfound
      rw [List.inj_on_of_nodup_map hnodup (List.mem_of_find?_eq_some hfound) ha hsame]

/-! ## Declarations that pass -/

/-- The table of a schema that some declaration builds. -/
def Table.Declared (t : Table) : Prop :=
  ∃ (d : SchemaDecl) (s : Schema), d.build = .ok s ∧ s.toTable = t

/-- Some declaration builds the schema, and its joined tables were declared before. -/
def Schema.Declared (s : Schema) : Prop :=
  ∃ d : SchemaDecl, d.build = .ok s ∧ ∀ j ∈ d.joins, j.table.Declared

/-! ## Fields -/

namespace SchemaDecl

/-- Fields that pass differ in name from each other and from those that were seen before. -/
theorem nodup_of_checkFields {table : Identifier} {seen : List String} {ds : List FieldDecl}
    {fs : List Field} (h : checkFields table seen ds = .ok fs) :
    (fs.map Field.name).Nodup ∧ ∀ name ∈ seen, name ∉ fs.map Field.name := by
  induction ds generalizing seen fs with
  | nil =>
    obtain rfl := Except.ok.inj h
    exact ⟨.nil, by simp⟩
  | cons d ds ih =>
    obtain ⟨f, _, h⟩ := Outcome.bind_eq_ok_iff.1 h
    dsimp only at h
    split at h
    · cases h
    · rename_i hseen
      obtain ⟨fs, hfs, h⟩ := Outcome.bind_eq_ok_iff.1 h
      obtain rfl := Except.ok.inj h
      obtain ⟨hnodup, hfresh⟩ := ih hfs
      have hunseen : f.name ∉ seen := by simpa using hseen
      refine ⟨List.nodup_cons.2 ⟨hfresh f.name List.mem_cons_self, hnodup⟩, ?_⟩
      intro name hname hmem
      rcases List.mem_cons.1 hmem with hsame | hmem
      · exact hunseen (hsame ▸ hname)
      · exact hfresh name (List.mem_cons_of_mem f.name hname) hmem

/-! ## Joins -/

/-- A join that passes has the declared name, which is a fresh identifier, and the declared
table. -/
theorem join_of_checkJoin {table : Identifier} {fields : List Field} {taken : List String}
    {d : JoinDecl} {j : Join} (h : checkJoin table fields taken d = .ok j) :
    j.name = d.name ∧ j.table = d.table ∧ Identifier.fault? j.name = none ∧
      j.name ∉ taken := by
  unfold checkJoin at h
  by_cases hfault : (Identifier.fault? d.name).isSome = true
  · rw [if_pos hfault] at h
    cases h
  · rw [if_neg hfault] at h
    dsimp only at h
    by_cases htaken : taken.contains d.name = true
    · rw [if_pos htaken] at h
      cases h
    · rw [if_neg htaken] at h
      split at h
      · obtain rfl := Except.ok.inj h
        exact ⟨rfl, rfl, by simpa using hfault, by simpa using htaken⟩
      · cases h

/-- Joins that pass are named by identifiers, which differ from each other and from the names that
were taken before. -/
theorem nodup_of_checkJoins {table : Identifier} {fields : List Field} {taken : List String}
    {ds : List JoinDecl} {js : List Join} (h : checkJoins table fields taken ds = .ok js) :
    (js.map Join.name).Nodup ∧ (∀ name ∈ taken, name ∉ js.map Join.name) ∧
      (∀ j ∈ js, Identifier.fault? j.name = none) ∧ js.map Join.table = ds.map JoinDecl.table := by
  induction ds generalizing taken js with
  | nil =>
    obtain rfl := Except.ok.inj h
    exact ⟨.nil, by simp, by simp, rfl⟩
  | cons d ds ih =>
    obtain ⟨j, hj, h⟩ := Outcome.bind_eq_ok_iff.1 h
    obtain ⟨js, hjs, h⟩ := Outcome.bind_eq_ok_iff.1 h
    obtain rfl := Except.ok.inj h
    obtain ⟨_, htable, hfaultless, huntaken⟩ := join_of_checkJoin hj
    obtain ⟨hnodup, hfresh, hidentifiers, htables⟩ := ih hjs
    refine ⟨List.nodup_cons.2 ⟨hfresh j.name List.mem_cons_self, hnodup⟩, ?_,
      List.forall_mem_cons.2 ⟨hfaultless, hidentifiers⟩, ?_⟩
    · intro name hname hmem
      rcases List.mem_cons.1 hmem with hsame | hmem
      · exact huntaken (hsame ▸ hname)
      · exact hfresh name (List.mem_cons_of_mem j.name hname) hmem
    · rw [List.map_cons, List.map_cons, htable, htables]

/-- The parts of a schema that was built have passed their checks. -/
theorem checked_of_build {d : SchemaDecl} {s : Schema} (h : d.build = .ok s) :
    checkFields s.name [] d.fields = .ok s.fields ∧
      checkJoins s.name s.fields (s.fields.map Field.name) d.joins = .ok s.joins := by
  obtain ⟨name, _, h⟩ := Outcome.bind_eq_ok_iff.1 h
  obtain ⟨space, _, h⟩ := Outcome.bind_eq_ok_iff.1 h
  obtain ⟨key, _, h⟩ := Outcome.bind_eq_ok_iff.1 h
  obtain ⟨fields, hfields, h⟩ := Outcome.bind_eq_ok_iff.1 h
  obtain ⟨joins, hjoins, h⟩ := Outcome.bind_eq_ok_iff.1 h
  obtain ⟨_, _, h⟩ := Outcome.bind_eq_ok_iff.1 h
  obtain rfl := Except.ok.inj h
  exact ⟨hfields, hjoins⟩

end SchemaDecl

/-! ## What is guaranteed -/

/-- Fields of a declared table differ in name. -/
theorem Table.Declared.names_nodup {t : Table} (h : t.Declared) :
    (t.fields.map Field.name).Nodup := by
  obtain ⟨d, s, hbuild, rfl⟩ := h
  exact (SchemaDecl.nodup_of_checkFields (SchemaDecl.checked_of_build hbuild).1).1

namespace Schema.Declared

variable {s : Schema}

theorem table_declared (h : s.Declared) : s.toTable.Declared := by
  obtain ⟨d, hbuild, _⟩ := h
  exact ⟨d, s, hbuild, rfl⟩

/-- The joined tables of a declared schema are declared. -/
theorem joins_declared (h : s.Declared) : ∀ j ∈ s.joins, j.table.Declared := by
  obtain ⟨d, hbuild, htables⟩ := h
  obtain ⟨_, _, _, hsame⟩ :=
    SchemaDecl.nodup_of_checkJoins (SchemaDecl.checked_of_build hbuild).2
  intro j hj
  have hmem : j.table ∈ d.joins.map JoinDecl.table := hsame ▸ List.mem_map_of_mem hj
  obtain ⟨dj, hdj, htable⟩ := List.mem_map.1 hmem
  exact htable ▸ htables dj hdj

/-- Joins of a declared schema differ in name. -/
theorem join_names_nodup (h : s.Declared) : (s.joins.map Join.name).Nodup := by
  obtain ⟨d, hbuild, _⟩ := h
  exact (SchemaDecl.nodup_of_checkJoins (SchemaDecl.checked_of_build hbuild).2).1

theorem join_names_faultless (h : s.Declared) :
    ∀ j ∈ s.joins, Identifier.fault? j.name = none := by
  obtain ⟨d, hbuild, _⟩ := h
  exact (SchemaDecl.nodup_of_checkJoins (SchemaDecl.checked_of_build hbuild).2).2.2.1

/-- No join of a declared schema has the name of a field, whether this is selected or not. -/
theorem join_name_ne (h : s.Declared) {j : Join} (hj : j ∈ s.joins) {f : Field}
    (hf : f ∈ s.fields) : j.name ≠ f.name := by
  obtain ⟨d, hbuild, _⟩ := h
  obtain ⟨_, hfresh, _⟩ := SchemaDecl.nodup_of_checkJoins (SchemaDecl.checked_of_build hbuild).2
  intro hsame
  exact hfresh f.name (List.mem_map_of_mem hf) (hsame ▸ List.mem_map_of_mem hj)

end Schema.Declared

/-! ## Schemas of members, teams, notes, games, albums and accounts -/

/-- A field of a type, named as its column is. -/
def Field.plain (column : Identifier) (type : FieldType) : Field where
  name := column.text
  column
  type
  isArray := false
  options := none
  selectable := true
  insertable := true
  updatable := true
  nullable := false
  encoder := none
  decoder := none
  keys := none

def Table.teams : Table where
  space := none
  name := ⟨"teams", by decide⟩
  key := ⟨"id", by decide⟩
  fields := [.plain ⟨"id", by decide⟩ .int, .plain ⟨"title", by decide⟩ .string]
  constraints := []

/-- Members, each of whom may be in a team. -/
def Schema.members : Schema where
  space := none
  name := ⟨"members", by decide⟩
  key := ⟨"id", by decide⟩
  fields := [.plain ⟨"id", by decide⟩ .int, .plain ⟨"name", by decide⟩ .string,
    .plain ⟨"team_id", by decide⟩ .int]
  constraints := []
  joins := [⟨"team", .teams, "team_id", ⟨"team_id", by decide⟩⟩]

theorem Table.teams_declared : Table.teams.Declared :=
  ⟨{ name := "teams", fields := [{ name := "id", type := .int }, { name := "title" }] },
    { toTable := .teams, joins := [] }, rfl, rfl⟩

theorem Schema.members_declared : Schema.members.Declared :=
  ⟨{ name := "members"
     fields := [{ name := "id", type := .int }, { name := "name" },
      { name := "team_id", type := .int }]
     joins := [⟨"team", .teams, "team_id"⟩] }, rfl, by simpa using Table.teams_declared⟩

/-- Notes with details in JSON, each by a member. -/
def Schema.notes : Schema where
  space := none
  name := ⟨"notes", by decide⟩
  key := ⟨"id", by decide⟩
  fields := [.plain ⟨"id", by decide⟩ .int,
    { Field.plain ⟨"details", by decide⟩ .json with keys := some ["color"] },
    .plain ⟨"author_id", by decide⟩ .int]
  constraints := []
  joins := [⟨"author", Schema.members.toTable, "author_id", ⟨"author_id", by decide⟩⟩]

theorem Schema.notes_declared : Schema.notes.Declared :=
  ⟨{ name := "notes"
     fields := [{ name := "id", type := .int },
      { name := "details", type := .json, keys := some ["color"] },
      { name := "author_id", type := .int }]
     joins := [⟨"author", Schema.members.toTable, "author_id"⟩] }, rfl,
    by simpa using Schema.members_declared.table_declared⟩

/-- Games between two teams, one of them at home. -/
def Schema.games : Schema where
  space := none
  name := ⟨"games", by decide⟩
  key := ⟨"id", by decide⟩
  fields := [.plain ⟨"id", by decide⟩ .int, .plain ⟨"home_id", by decide⟩ .int,
    .plain ⟨"away_id", by decide⟩ .int]
  constraints := []
  joins := [⟨"home", .teams, "home_id", ⟨"home_id", by decide⟩⟩,
    ⟨"away", .teams, "away_id", ⟨"away_id", by decide⟩⟩]

theorem Schema.games_declared : Schema.games.Declared :=
  ⟨{ name := "games"
     fields := [{ name := "id", type := .int }, { name := "home_id", type := .int },
      { name := "away_id", type := .int }]
     joins := [⟨"home", .teams, "home_id"⟩, ⟨"away", .teams, "away_id"⟩] }, rfl,
    by simpa using Table.teams_declared⟩

/-- Albums with tags, each on a label or on none. -/
def Table.albums : Table where
  space := none
  name := ⟨"albums", by decide⟩
  key := ⟨"id", by decide⟩
  fields := [.plain ⟨"id", by decide⟩ .int,
    { Field.plain ⟨"label_id", by decide⟩ .int with nullable := true },
    { Field.plain ⟨"tags", by decide⟩ .string with isArray := true }]
  constraints := []

theorem Table.albums_declared : Table.albums.Declared :=
  ⟨{ name := "albums"
     fields := [{ name := "id", type := .int },
      { name := "label_id", type := .int, nullable := true },
      { name := "tags", isArray := true }] },
    { toTable := .albums, joins := [] }, rfl, rfl⟩

/-- Accounts with a password that is not selected, a role out of two, and levels out of three, each
in a team. -/
def SchemaDecl.accounts : SchemaDecl where
  name := "accounts"
  fields := [{ name := "id", type := .int }, { name := "email", column := some "address" },
    { name := "password", selectable := false },
    { name := "role", options := some [.string "admin", .string "guest"] },
    { name := "levels", type := .int, isArray := true, nullable := true,
      options := some [.int 1, .string " 2 ", .bool false] },
    { name := "team_id", type := .int }]
  joins := [⟨"team", .teams, "team_id"⟩]
  constraints := [("accounts_login_key", "id"), ("accounts_login_key", "email")]

def Schema.accounts : Schema where
  space := none
  name := ⟨"accounts", by decide⟩
  key := ⟨"id", by decide⟩
  fields := [.plain ⟨"id", by decide⟩ .int,
    { Field.plain ⟨"address", by decide⟩ .string with name := "email" },
    { Field.plain ⟨"password", by decide⟩ .string with selectable := false },
    { Field.plain ⟨"role", by decide⟩ .string with options := some ["admin", "guest"] },
    { Field.plain ⟨"levels", by decide⟩ .int with
      isArray := true, nullable := true, options := some ["1", "2", "0"] },
    .plain ⟨"team_id", by decide⟩ .int]
  constraints := [("accounts_login_key", "id"), ("accounts_login_key", "email")]
  joins := [⟨"team", .teams, "team_id", ⟨"team_id", by decide⟩⟩]

theorem SchemaDecl.build_accounts : SchemaDecl.accounts.build = .ok .accounts := by
  rfl

theorem Schema.accounts_declared : Schema.accounts.Declared :=
  ⟨.accounts, SchemaDecl.build_accounts, by
    simpa [SchemaDecl.accounts] using Table.teams_declared⟩

end SchemaSql
