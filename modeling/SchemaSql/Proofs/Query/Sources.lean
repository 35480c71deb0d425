import SchemaSql.Proofs.Query.FilterText
import SchemaSql.Proofs.Query.Orderable
import SchemaSql.Proofs.Query.ReservedSlots
import SchemaSql.Repository.Statements

/-!
# Sources of a selection

A selection takes rows from the first table and from each joined one, and refers to their columns by
the name of the table alone. Such references are clear exactly if the tables differ in name. This is
not among what a declaration is checked for: joins differ in name, but may join one table twice.
-/

namespace SchemaSql

/-! ## Quoted names -/

namespace Identifier

theorem eq_of_text_eq {a b : Identifier} (h : a.text = b.text) : a = b := by
  cases a
  cases b
  congr 1

/-- A name ends at the first quote after it. -/
theorem quoted_append_inj {a b : Identifier} {rest rest' : List Char}
    (h : a.quoted.toList ++ rest = b.quoted.toList ++ rest') : a = b ∧ rest = rest' := by
  have hquote (i : Identifier) : ∀ c ∈ i.text.toList, (c != '"') = true := by
    intro c hc
    exact bne_iff_ne.2 fun hsame ↦ not_mem_text (by decide) (by decide) i (hsame ▸ hc)
  have hstop (rest : List Char) : ∀ c ∈ ('"' :: rest).head?, (c != '"') = false := by simp
  have hchars (i : Identifier) (rest : List Char) :
      i.quoted.toList ++ rest = '"' :: (i.text.toList ++ '"' :: rest) := by simp [quoted]
  rw [hchars, hchars] at h
  have htail := (List.cons.inj h).2
  have htake := congrArg (List.takeWhile (· != '"')) htail
  have hdrop := congrArg (List.dropWhile (· != '"')) htail
  rw [Text.takeWhile_run (hquote a) (hstop rest), Text.takeWhile_run (hquote b) (hstop rest')]
    at htake
  rw [Text.dropWhile_run (hquote a) (hstop rest), Text.dropWhile_run (hquote b) (hstop rest')]
    at hdrop
  exact ⟨eq_of_text_eq (String.toList_inj.1 htake), (List.cons.inj hdrop).2⟩

theorem quoted_inj {a b : Identifier} (h : a.quoted = b.quoted) : a = b := by
  have hchars : a.quoted.toList ++ [] = b.quoted.toList ++ [] := by rw [h]
  exact (quoted_append_inj hchars).1

theorem toList_dotted (outer inner : Identifier) :
    (dotted outer inner).toList = outer.quoted.toList ++ '.' :: inner.quoted.toList := by
  simp [dotted]

/-- A dotted name tells both of its parts. -/
theorem dotted_inj {a b c d : Identifier} (h : dotted a b = dotted c d) : a = c ∧ b = d := by
  have hchars := congrArg String.toList h
  rw [toList_dotted, toList_dotted] at hchars
  obtain ⟨houter, hinner⟩ := quoted_append_inj hchars
  exact ⟨houter, quoted_inj (String.toList_inj.1 (List.cons.inj hinner).2)⟩

theorem quoted_ne_dotted (a outer inner : Identifier) : a.quoted ≠ dotted outer inner := by
  intro h
  have hchars := congrArg String.toList h
  rw [toList_dotted, ← List.append_nil a.quoted.toList] at hchars
  cases (quoted_append_inj hchars).2

end Identifier

/-! ## Sources -/

/-- The name by which a source is referred to: that of the table, whatever space the table is in. -/
inductive Introduces (name : Identifier) : String → Prop where
  | plain : Introduces name name.quoted
  | within (space : Identifier) : Introduces name (Identifier.dotted space name)

/-- A source is referred to by one name only. -/
theorem Introduces.eq {a b : Identifier} {source : String} (ha : Introduces a source)
    (hb : Introduces b source) : a = b := by
  cases ha with
  | plain =>
    generalize hsource : a.quoted = text at hb
    cases hb with
    | plain => exact Identifier.quoted_inj hsource
    | within space => exact absurd hsource (Identifier.quoted_ne_dotted _ _ _)
  | within space =>
    generalize hsource : Identifier.dotted space a = text at hb
    cases hb with
    | plain => exact absurd hsource.symm (Identifier.quoted_ne_dotted _ _ _)
    | within other => exact (Identifier.dotted_inj hsource).2

theorem Table.introduces_qualifiedName (t : Table) (space : Option Identifier) :
    Introduces t.name (t.qualifiedName space) := by
  unfold qualifiedName
  split
  · exact .within _
  · exact .plain

def Schema.tables (s : Schema) : List Table :=
  s.toTable :: s.joins.map Join.table

/-! ## What declarations are checked for -/

namespace SchemaDecl

/-- The declaration with other tables joined under the same names. -/
def retabled (d : SchemaDecl) (table : JoinDecl → Table) : SchemaDecl :=
  { d with joins := d.joins.map fun j ↦ { j with table := table j } }

theorem WellFormed.retabled {d : SchemaDecl} (h : d.WellFormed) (table : JoinDecl → Table) :
    (d.retabled table).WellFormed := by
  have hnames : (d.retabled table).joinNames = d.joinNames := by
    simp [SchemaDecl.retabled, joinNames, Function.comp_def]
  refine ⟨h.name_matches, h.space_matches, h.key_matches, h.fields_wellFormed,
    h.field_names_nodup, ?_, hnames ▸ h.join_names_nodup, ?_, ?_, h.constraint_fields_declared⟩
  · exact List.forall_mem_map.2 h.join_names_match
  · exact List.forall_mem_map.2 h.join_names_fresh
  · exact List.forall_mem_map.2 h.join_fields_declared

theorem Declares.map_tables {d : SchemaDecl} {s : Schema} (h : d.Declares s) :
    s.joins.map Join.table = d.joins.map JoinDecl.table :=
  Outcome.map_eq_map_of_forall₂ (fun _ _ hj ↦ hj.table_eq) h.joins_rel

/-- Whatever tables are joined instead, a declaration that passes still passes, and gives a schema
of just these tables. -/
theorem exists_build_retabled {d : SchemaDecl} {s : Schema} (h : d.build = .ok s)
    (table : JoinDecl → Table) :
    ∃ s', (d.retabled table).build = .ok s' ∧
      s'.tables.map Table.name = s.name :: d.joins.map fun j ↦ (table j).name := by
  obtain ⟨hwell, hdeclares⟩ := d.justified_build.of_eq_ok h
  cases hbuild : (d.retabled table).build with
  | error fault =>
    exact absurd (hwell.retabled table) ((justified_build _).of_eq_error hbuild).not_wellFormed
  | ok s' =>
    have hdeclares' := ((justified_build _).of_eq_ok hbuild).2
    have hname : s'.name = s.name :=
      Identifier.eq_of_text_eq (hdeclares'.name_eq.trans hdeclares.name_eq.symm)
    have htables : s'.joins.map Join.table = d.joins.map table := by
      rw [hdeclares'.map_tables, SchemaDecl.retabled, List.map_map]
      rfl
    refine ⟨s', rfl, ?_⟩
    rw [Schema.tables, htables, List.map_cons, List.map_map, hname]
    rfl

end SchemaDecl

namespace JoinPlan

/-- What comes after `LEFT JOIN`. -/
def joinSource (p : JoinPlan) (j : Join) : String :=
  j.table.qualifiedName p.space

/-- What comes after `ON`. -/
def joinCondition (p : JoinPlan) (j : Join) : String :=
  j.table.keyColumn ++ "=" ++ Identifier.dotted p.schema.name j.column

def sources (p : JoinPlan) (first : String) : List String :=
  first :: p.schema.joins.map p.joinSource

/-- A selection takes from its first source, and joins the others to it one after another. -/
theorem toList_selectFrom (p : JoinPlan) (first : String) :
    (p.selectFrom first).toList =
      ("SELECT " ++ p.selectList ++ " FROM " ++ first).toList ++ p.schema.joins.flatMap fun j ↦
        (" LEFT JOIN " ++ p.joinSource j ++ " ON " ++ p.joinCondition j).toList := by
  have hspaced (text : List Char) (texts : List (List Char)) :
      ' ' :: [' '].intercalate (text :: texts) = (text :: texts).flatMap (' ' :: ·) := by
    induction texts generalizing text with
    | nil => simp
    | cons other texts ih =>
      rw [List.intercalate_cons_cons, List.flatMap_cons, ← ih other]
      simp
  have hjoin (j : Join) : ' ' :: (p.joinSql j).toList =
      (" LEFT JOIN " ++ p.joinSource j ++ " ON " ++ p.joinCondition j).toList := by
    simp [joinSql, joinSource, joinCondition]
  have hjoins : p.joinsSql.toList = [' '].intercalate (p.schema.joins.map fun j ↦
      (p.joinSql j).toList) := by
    simp [joinsSql, String.toList_intercalate, Function.comp_def]
  simp only [← hjoin]
  unfold selectFrom
  cases hall : p.schema.joins with
  | nil => simp [joinsSql, hall]
  | cons j js =>
    rw [hall, List.map_cons] at hjoins
    have hrest := hspaced (p.joinSql j).toList (js.map fun j ↦ (p.joinSql j).toList)
    rw [← hjoins] at hrest
    have hsome : p.joinsSql.isEmpty = false := by
      by_contra hempty
      rw [Bool.not_eq_false, String.isEmpty_iff] at hempty
      simp [hempty, joinSql] at hrest
    dsimp only
    rw [hsome]
    simpa [List.flatMap_map] using hrest

/-- The sources of a selection from a table are known by the names of the tables. -/
theorem forall₂_introduces_iff {p : JoinPlan} {first : String}
    (hfirst : Introduces p.schema.name first) {names : List Identifier} :
    List.Forall₂ Introduces names (p.sources first) ↔ names = p.schema.tables.map Table.name := by
  have hall : List.Forall₂ Introduces (p.schema.tables.map Table.name) (p.sources first) := by
    rw [Schema.tables, sources, List.map_cons, List.map_map]
    apply List.Forall₂.cons hfirst
    rw [List.forall₂_map_left_iff, List.forall₂_map_right_iff, List.forall₂_same]
    exact fun j _ ↦ j.table.introduces_qualifiedName p.space
  constructor
  · intro h
    exact List.left_unique_forall₂' (fun _ _ _ ha hb ↦ ha.eq hb) h hall
  · rintro rfl
    exact hall

end JoinPlan

/-! ## References -/

/-- A reference denotes a source by its place if it is to a column of the name of the source. -/
def Schema.Denotes (s : Schema) (reference : String) (place : Nat) : Prop :=
  ∃ t column, s.tables[place]? = some t ∧ reference = Identifier.dotted t.name column

namespace JoinPlan

/-- A reference to a column, wherever a selection or what follows it has one. -/
inductive Refers (p : JoinPlan) : String → Prop where
  | selected {g reference} (stretch : g ∈ tableStretches p.schema p.schema.joins)
      (entry : reference ∈ g.columns) : Refers p reference
  | joinedKey {j} (joins : j ∈ p.schema.joins) : Refers p j.table.keyColumn
  | joiningColumn {j} (joins : j ∈ p.schema.joins) :
      Refers p (Identifier.dotted p.schema.name j.column)
  | soughtKey : Refers p p.schema.keyColumn
  | asked {payload groups group q} (asks : p.predicateGroups payload = .ok groups)
      (among : group ∈ groups) (predicate : q ∈ group) : Refers p q.column
  | ordered {request o} (orders : p.order request = .ok o) : Refers p o.column
  | orderedByKey {method o} (orders : p.schema.keyOrder method = .ok o) : Refers p o.column

variable {p : JoinPlan}

/-- The columns of each table in the order of the tables. -/
theorem map_columns_tableStretches (s : Schema) :
    (tableStretches s s.joins).map Stretch.columns = s.tables.map Table.selectColumns := by
  rw [tableStretches, Schema.tables, List.map_cons, List.map_cons, List.map_map, List.map_map]
  rfl

theorem exists_of_asksFor {t : Table} {payload : Json} {ps : List Predicate}
    (h : t.AsksFor payload ps) {q : Predicate} (hq : q ∈ ps) :
    ∃ f, q.column = t.columnOf f := by
  obtain ⟨asked, _, rfl⟩ := h
  obtain ⟨a, _, hq⟩ := List.mem_flatMap.1 hq
  obtain ⟨c, _, rfl⟩ := List.mem_map.1 hq
  exact ⟨a.field, rfl⟩

/-- Every reference is to a column of one of the tables. -/
theorem Refers.exists_table {reference : String} (h : p.Refers reference) :
    ∃ t ∈ p.schema.tables, ∃ column, reference = Identifier.dotted t.name column := by
  have hfirst : p.schema.toTable ∈ p.schema.tables := List.mem_cons_self
  have hjoined {j : Join} (hj : j ∈ p.schema.joins) : j.table ∈ p.schema.tables :=
    List.mem_cons_of_mem _ (List.mem_map_of_mem hj)
  cases h with
  | @selected g _ stretch entry =>
    have hcolumns := List.mem_map_of_mem (f := Stretch.columns) stretch
    rw [map_columns_tableStretches] at hcolumns
    obtain ⟨t, ht, hsame⟩ := List.mem_map.1 hcolumns
    rw [← hsame] at entry
    obtain ⟨f, _, rfl⟩ := List.mem_map.1 entry
    exact ⟨t, ht, f.column, rfl⟩
  | @joinedKey j joins => exact ⟨j.table, hjoined joins, j.table.key, rfl⟩
  | @joiningColumn j joins => exact ⟨_, hfirst, j.column, rfl⟩
  | soughtKey => exact ⟨_, hfirst, p.schema.key, rfl⟩
  | @asked payload groups group q asks among predicate =>
    cases asks_of_predicateGroups asks with
    | absent => cases among
    | null => cases among
    | payload root_asks joins_ask =>
      rcases List.mem_cons.1 among with rfl | among
      · obtain ⟨f, hf⟩ := exists_of_asksFor root_asks predicate
        exact ⟨_, hfirst, f.column, hf⟩
      · obtain ⟨j, hj, hasks⟩ := Outcome.exists_mem_of_forall₂ joins_ask.flip among
        split at hasks
        · subst hasks
          cases predicate
        · obtain ⟨_, _, hasks⟩ := hasks
          obtain ⟨f, hf⟩ := exists_of_asksFor hasks predicate
          exact ⟨j.table, hjoined hj, f.column, hf⟩
  | ordered orders =>
    obtain ⟨t, _, ht, hterm⟩ := exists_of_order_eq_ok orders
    obtain ⟨f, _, _, _, _, rfl⟩ := Table.exists_of_orderTerm_eq_ok hterm
    rcases ht with rfl | ⟨j, hj, rfl⟩
    · exact ⟨_, hfirst, f.column, rfl⟩
    · exact ⟨j.table, hjoined hj, f.column, rfl⟩
  | orderedByKey orders =>
    obtain ⟨_, _, hterm⟩ := Outcome.bind_eq_ok_iff.1 orders
    obtain rfl := Except.ok.inj hterm
    exact ⟨_, hfirst, p.schema.key, rfl⟩

/-! ## Clear references -/

/-- Tables that differ in name are denoted by their own columns only. -/
theorem existsUnique_denotes {s : Schema} (h : (s.tables.map Table.name).Nodup) {t : Table}
    (ht : t ∈ s.tables) (column : Identifier) :
    ∃! place, s.Denotes (Identifier.dotted t.name column) place := by
  obtain ⟨place, hplace⟩ := List.getElem?_of_mem ht
  refine ⟨place, ⟨t, column, hplace, rfl⟩, ?_⟩
  rintro other ⟨u, _, hother, hsame⟩
  have hname := (Identifier.dotted_inj hsame).1
  have hlt : other < (s.tables.map Table.name).length := by
    rw [List.length_map]
    exact (List.getElem?_eq_some_iff.1 hother).1
  apply (List.getElem?_inj hlt h).1
  rw [List.getElem?_map, List.getElem?_map, hother, hplace, Option.map_some, Option.map_some, hname]

/-- All references are clear exactly if the tables differ in name. -/
theorem forall_existsUnique_denotes_iff :
    (∀ reference, p.Refers reference → ∃! place, p.schema.Denotes reference place) ↔
      (p.schema.tables.map Table.name).Nodup := by
  constructor
  · intro h
    rw [List.nodup_iff_getElem?_ne_getElem?]
    intro place further hlt hbound hsame
    -- The further table is not the first one, so that its key is referred to where it is joined.
    cases further with
    | zero => exact Nat.not_lt_zero place hlt
    | succ further =>
      have hbound' : further < p.schema.joins.length := by simpa [Schema.tables] using hbound
      have hfurther : p.schema.tables[further + 1]? = some p.schema.joins[further].table := by
        simp [Schema.tables, hbound']
      rw [List.getElem?_map, List.getElem?_map, hfurther, Option.map_some] at hsame
      obtain ⟨t, ht, hname⟩ := Option.map_eq_some_iff.1 hsame
      have hunique := h _ (.joinedKey (List.getElem_mem hbound'))
      have hother : p.schema.Denotes p.schema.joins[further].table.keyColumn place :=
        ⟨t, _, ht, by rw [hname, Table.keyColumn]⟩
      have heq := hunique.unique hother ⟨_, _, hfurther, rfl⟩
      exact Nat.ne_of_lt hlt heq
  · intro h reference hrefers
    obtain ⟨t, ht, column, rfl⟩ := hrefers.exists_table
    exact existsUnique_denotes h ht column

/-- The columns of tables that differ in name differ. -/
theorem pairwise_disjoint_columns {s : Schema} (h : (s.tables.map Table.name).Nodup) :
    ((tableStretches s s.joins).map Stretch.columns).Pairwise List.Disjoint := by
  rw [map_columns_tableStretches, List.pairwise_map]
  apply (List.pairwise_map.1 h).imp
  intro t u hne entry ht hu
  obtain ⟨f, _, rfl⟩ := List.mem_map.1 ht
  obtain ⟨g, _, hsame⟩ := List.mem_map.1 hu
  exact hne (Identifier.dotted_inj hsame).1.symm

/-- A selection from a table, or from the statement before it that is named as the table, has the
tables of the schema as its sources. Each reference of it is clear exactly if they differ in name,
and then no entry of one table is an entry of another. That they differ is nothing that a schema is
checked for: the declaration that it was built from passes with any other tables joined. -/
theorem references_clear_iff (r : Repository) {p : JoinPlan} (hp : Prepared r.schema p) :
    (∀ first, first = r.source ∨ first = r.schema.name.quoted →
      (p.selectFrom first).toList =
        ("SELECT " ++ p.selectList ++ " FROM " ++ first).toList ++ p.schema.joins.flatMap (fun j ↦
          (" LEFT JOIN " ++ p.joinSource j ++ " ON " ++ p.joinCondition j).toList) ∧
      ∀ names, List.Forall₂ Introduces names (p.sources first) ↔
        names = r.schema.tables.map Table.name) ∧
    ((∀ reference, p.Refers reference → ∃! place, r.schema.Denotes reference place) ↔
      (r.schema.tables.map Table.name).Nodup) ∧
    p.selectList = ", ".intercalate (Stretch.columnsOf
      (tableStretches r.schema r.schema.joins ++ reservedStretches p.reserved)) ∧
    ((r.schema.tables.map Table.name).Nodup →
      ((tableStretches r.schema r.schema.joins).map Stretch.columns).Pairwise List.Disjoint) ∧
    ∀ d : SchemaDecl, d.build = .ok r.schema → ∀ table : JoinDecl → Table,
      ∃ s, (d.retabled table).build = .ok s ∧
        s.tables.map Table.name = r.schema.name :: d.joins.map fun j ↦ (table j).name := by
  obtain ⟨hlaid, hschema⟩ := hp.laidOut
  refine ⟨?_, ?_, ?_, pairwise_disjoint_columns, fun _ ↦ SchemaDecl.exists_build_retabled⟩
  · intro first hfirst
    have hname : Introduces p.schema.name first := by
      rw [hschema]
      rcases hfirst with rfl | rfl
      · exact r.schema.introduces_qualifiedName r.config.space
      · exact .plain
    refine ⟨p.toList_selectFrom first, fun names ↦ ?_⟩
    rw [forall₂_introduces_iff hname, hschema]
  · rw [← hschema]
    exact forall_existsUnique_denotes_iff
  · rw [hlaid.selectList_eq, entries, stretches_eq, hschema]

/-- The tables of members and teams differ in name, so that `"id"` of a team is not that of a
member. To join members to themselves under the name of the team would pass as well. -/
theorem references_clear_iff_members :
    Prepared .members (ofSchema .members none) ∧ (Schema.members.tables.map Table.name).Nodup ∧
      (∃! place, Schema.members.Denotes "\"teams\".\"id\"" place) ∧
      ((tableStretches .members Schema.members.joins).map Stretch.columns).Pairwise
        List.Disjoint ∧
      ∃ (d : SchemaDecl) (s : Schema), d.build = .ok .members ∧
        (d.retabled fun _ ↦ Schema.members.toTable).build = .ok s ∧
        s.tables.map Table.name = [Schema.members.name, Schema.members.name] := by
  have hp : Prepared .members (ofSchema .members none) := .ofSchema none
  have hnames : (Schema.members.tables.map Table.name).Nodup := by decide
  obtain ⟨_, hclear, _, hdisjoint, hretabled⟩ := references_clear_iff ⟨.members, {}⟩ hp
  have hkey : (ofSchema .members none).Refers Table.teams.keyColumn :=
    .joinedKey (j := ⟨"team", .teams, "team_id", ⟨"team_id", by decide⟩⟩) List.mem_cons_self
  have htext : Table.teams.keyColumn = "\"teams\".\"id\"" := by decide +kernel
  have hunique := hclear.2 hnames Table.teams.keyColumn hkey
  rw [htext] at hunique
  have hmembers : SchemaDecl.build
      { name := "members"
        fields := [{ name := "id", type := .int }, { name := "name" },
          { name := "team_id", type := .int }]
        joins := [⟨"team", .teams, "team_id"⟩] } = .ok .members := rfl
  obtain ⟨s, hbuild, htables⟩ := hretabled _ hmembers fun _ ↦ Schema.members.toTable
  exact ⟨hp, hnames, hunique, hdisjoint hnames, _, s, hmembers, hbuild, htables⟩

/-- The teams of a game are joined under one name: their columns are selected by the same texts, and
what either of them is joined on may be the key of the other. -/
theorem games_not_clear :
    Schema.games.Declared ∧ ¬ (Schema.games.tables.map Table.name).Nodup ∧
      (ofSchema .games none).selectList =
        "\"games\".\"id\", \"games\".\"home_id\", \"games\".\"away_id\", " ++
        "\"teams\".\"id\", \"teams\".\"title\", \"teams\".\"id\", \"teams\".\"title\"" ∧
      (ofSchema .games none).joinsSql =
        "LEFT JOIN \"teams\" ON \"teams\".\"id\"=\"games\".\"home_id\" " ++
        "LEFT JOIN \"teams\" ON \"teams\".\"id\"=\"games\".\"away_id\"" ∧
      (ofSchema .games none).Refers Table.teams.keyColumn ∧
      Schema.games.Denotes Table.teams.keyColumn 1 ∧
      Schema.games.Denotes Table.teams.keyColumn 2 := by
  refine ⟨Schema.games_declared, by decide, by decide +kernel, by decide +kernel, ?_, ?_, ?_⟩
  · exact .joinedKey (j := ⟨"home", .teams, "home_id", ⟨"home_id", by decide⟩⟩) List.mem_cons_self
  · exact ⟨.teams, Table.teams.key, rfl, rfl⟩
  · exact ⟨.teams, Table.teams.key, rfl, rfl⟩

end JoinPlan

end SchemaSql
