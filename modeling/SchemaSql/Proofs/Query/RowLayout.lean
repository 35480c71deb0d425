import SchemaSql.Proofs.Row.Layout
import SchemaSql.Proofs.Row.Reading
import SchemaSql.Query.JoinPlan

/-!
# The row layout of a plan

The text of a selection, the slices of the cursor and the reading of rows are worked out apart from
each other, yet they follow one layout: the columns of the first table, those of each join, and the
reserved expressions. Every step that leads to a plan keeps it, also that of hydrating a row, so
that each value is read by the field whose column is selected at its position.
-/

namespace SchemaSql

/-! ## Lists of texts -/

namespace JoinPlan

theorem intercalate_cons_intercalate {sep : String} {xs : List String} (hxs : xs ≠ [])
    (ys : List String) :
    sep.intercalate (sep.intercalate xs :: ys) = sep.intercalate (xs ++ ys) := by
  have hlists (xs : List (List Char)) (hxs : xs ≠ []) (ys : List (List Char)) :
      sep.toList.intercalate (sep.toList.intercalate xs :: ys) =
        sep.toList.intercalate (xs ++ ys) := by
    induction xs with
    | nil => exact absurd rfl hxs
    | cons x xs ih =>
      cases xs with
      | nil => simp
      | cons z xs =>
        have hrest := ih (by simp)
        cases ys with
        | nil => simp
        | cons y ys =>
          simp only [List.cons_append, List.intercalate_cons_cons] at hrest ⊢
          rw [← hrest]
          simp only [List.append_assoc]
  rw [← String.toList_inj]
  simp only [String.toList_intercalate, List.map_cons, List.map_append]
  exact hlists _ (by simpa using hxs) _

/-- Texts that are not empty all stand in a list. -/
theorem commaList_eq {texts : List String} (h : ∀ t ∈ texts, t ≠ "") :
    commaList texts = ", ".intercalate texts := by
  rw [commaList, List.filter_eq_self.2]
  intro t ht
  simpa using h t ht

theorem commaList_ne_empty {texts : List String} (h : ∀ t ∈ texts, t ≠ "") (hsome : texts ≠ []) :
    commaList texts ≠ "" := by
  rw [commaList_eq h]
  intro hempty
  cases texts with
  | nil => exact hsome rfl
  | cons t texts =>
    have hchars : t.toList ≠ [] := by simpa using h t List.mem_cons_self
    have hlist := congrArg String.toList hempty
    rw [String.toList_intercalate, List.map_cons] at hlist
    cases texts with
    | nil => exact hchars (by simpa using hlist)
    | cons u texts =>
      rw [List.map_cons, List.intercalate_cons_cons] at hlist
      simp at hlist

/-- A list before others continues into them. -/
theorem commaList_cons_commaList {texts others : List String} (h : ∀ t ∈ texts, t ≠ "")
    (hothers : ∀ t ∈ others, t ≠ "") :
    commaList (commaList texts :: others) = ", ".intercalate (texts ++ others) := by
  by_cases hnone : texts = []
  · subst hnone
    have hempty : commaList (commaList [] :: others) = commaList others := rfl
    rw [hempty, commaList_eq hothers, List.nil_append]
  · rw [commaList_eq (List.forall_mem_cons.2 ⟨commaList_ne_empty h hnone, hothers⟩),
      commaList_eq h, intercalate_cons_intercalate hnone]

/-! ## Stretches -/

def stretches (p : JoinPlan) : List Stretch :=
  ⟨rootSlice, p.schema.selectColumns⟩ ::
    p.schema.joins.map (fun j ↦ ⟨j.name, j.table.selectColumns⟩) ++
    p.reserved.map fun r ↦ ⟨reservedSlice r.1, [r.2]⟩

/-- What is selected, position by position. -/
def entries (p : JoinPlan) : List String :=
  Stretch.columnsOf p.stretches

/-- A plan of a schema as a program comes by it: rendered from nothing but the schema, with any
expressions reserved, and with any rows hydrated. -/
inductive Prepared (s : Schema) : JoinPlan → Prop where
  | ofSchema (space : Option Identifier) : Prepared s (.ofSchema s space)
  | reserve {p} (prepared : Prepared s p) (name : String) {expression : String}
      (given : expression ≠ "") : Prepared s (p.reserve name expression)
  | withTotal {p} (prepared : Prepared s p) : Prepared s p.withTotal
  | hydrate {p} (prepared : Prepared s p) (row : List Json) : Prepared s (p.hydrate row).1

/-- The cursor of a plan lays out the stretches, none of them with an empty expression. -/
structure LaidOut (p : JoinPlan) : Prop where
  lays_out : p.cursor.LaysOut p.stretches
  given : ∀ r ∈ p.reserved, r.2 ≠ ""

theorem lays_out_foldl (joins : List Join) {c : Cursor} {gs : List Stretch} (h : c.LaysOut gs) :
    (joins.foldl (fun c j ↦ c.register j.name j.table.width) c).LaysOut
      (gs ++ joins.map fun j ↦ ⟨j.name, j.table.selectColumns⟩) := by
  induction joins generalizing c gs with
  | nil => simpa using h
  | cons j joins ih =>
    have hj := h.register j.name j.table.selectColumns
    rw [Table.length_selectColumns] at hj
    have hrest := ih hj
    rwa [List.append_assoc] at hrest

theorem laidOut_ofSchema (s : Schema) (space : Option Identifier) :
    (ofSchema s space).LaidOut where
  lays_out := by
    have hempty : ({} : Cursor).LaysOut [] := ⟨rfl, rfl⟩
    have hroot := hempty.register rootSlice s.selectColumns
    rw [Table.length_selectColumns] at hroot
    simpa [stretches, ofSchema] using lays_out_foldl s.joins hroot
  given := by simp [ofSchema]

theorem LaidOut.reserve {p : JoinPlan} (h : p.LaidOut) (name : String) {expression : String}
    (hgiven : expression ≠ "") : (p.reserve name expression).LaidOut where
  lays_out := by
    have hreserved := h.lays_out.register (reservedSlice name) [expression]
    simpa [stretches, JoinPlan.reserve] using hreserved
  given := by
    intro r hr
    rcases List.mem_append.1 hr with hr | hr
    · exact h.given r hr
    · rw [List.mem_singleton.1 hr]
      exact hgiven

theorem LaidOut.hydrate {p : JoinPlan} (h : p.LaidOut) (row : List Json) :
    (p.hydrate row).1.LaidOut := by
  unfold JoinPlan.hydrate
  split
  · exact h
  · rename_i cursor hload
    exact ⟨(h.lays_out.load hload).1, h.given⟩

/-- Every plan that a program comes by is laid out, and it is one of its schema. -/
theorem Prepared.laidOut {s : Schema} {p : JoinPlan} (h : Prepared s p) :
    p.LaidOut ∧ p.schema = s := by
  induction h with
  | ofSchema space => exact ⟨laidOut_ofSchema s space, rfl⟩
  | reserve _ name given ih => exact ⟨ih.1.reserve name given, ih.2⟩
  | withTotal _ ih => exact ⟨ih.1.reserve total (by decide), ih.2⟩
  | @hydrate p _ row ih =>
    refine ⟨ih.1.hydrate row, ?_⟩
    unfold JoinPlan.hydrate
    split
    · exact ih.2
    · exact ih.2

/-! ## Selected columns -/

theorem columnOf_ne_empty (t : Table) (f : Field) : t.columnOf f ≠ "" := by
  rw [Table.columnOf, Identifier.dotted, Identifier.quoted]
  simp [← String.toList_inj]

/-- The text of a selection is its entries with a comma between two of them. -/
theorem LaidOut.selectList_eq {p : JoinPlan} (h : p.LaidOut) :
    p.selectList = ", ".intercalate p.entries := by
  have hcolumns : ∀ t ∈ p.schema.selectColumns ++ p.schema.joins.flatMap fun j ↦
      j.table.selectColumns, t ≠ "" := by
    intro t ht
    rcases List.mem_append.1 ht with ht | ht
    · obtain ⟨f, _, rfl⟩ := List.mem_map.1 ht
      exact columnOf_ne_empty _ f
    · obtain ⟨j, _, ht⟩ := List.mem_flatMap.1 ht
      obtain ⟨f, _, rfl⟩ := List.mem_map.1 ht
      exact columnOf_ne_empty _ f
  have hexpressions : ∀ t ∈ p.reserved.map Prod.snd, t ≠ "" := by
    intro t ht
    obtain ⟨r, hr, rfl⟩ := List.mem_map.1 ht
    exact h.given r hr
  have hreserved : (p.reserved.flatMap fun r ↦ [r.2]) = p.reserved.map Prod.snd :=
    List.map_eq_flatMap.symm
  calc
    p.selectList = commaList (p.columnList :: p.reserved.map Prod.snd) := rfl
    _ = ", ".intercalate (p.schema.selectColumns ++ (p.schema.joins.flatMap fun j ↦
          j.table.selectColumns) ++ p.reserved.map Prod.snd) :=
      commaList_cons_commaList hcolumns hexpressions
    _ = ", ".intercalate p.entries := by
      simp [entries, stretches, Stretch.columnsOf, List.flatMap_map, hreserved]

/-! ## Reading -/

/-- A join of a row: it has no record exactly if every value of its slice is null, and else the one
that is read from its slice. -/
structure JoinReads (p : JoinPlan) (row : List Json) (j : Join)
    (joined : String × Option Record) : Prop where
  name_eq : joined.1 = j.name
  reads : ∃ slice, p.cursor.slice? j.name = some slice ∧ slice.count = j.table.width ∧
    (joined.2 = none ↔ ∀ v ∈ (row.drop slice.start).take slice.count, v.isNull = true) ∧
    ∀ record, joined.2 = some record → j.table.ReadsAt p.entries row slice.start record

/-- The record of a row: each table is read from its own slice, and there is one record or none for
each join, in their order. -/
structure Reads (p : JoinPlan) (row : List Json) (record : Record) : Prop where
  root : ∃ slice, p.cursor.slice? rootSlice = some slice ∧ slice.count = p.schema.width ∧
    p.schema.ReadsAt p.entries row slice.start record
  joins : List.Forall₂ (p.JoinReads row) p.schema.joins record.joins

variable {s : Schema} {p : JoinPlan} {row : List Json}

/-- The slice of the first table covers its columns. -/
theorem LaidOut.root_slice (h : p.LaidOut) :
    ∃ slice, p.cursor.slice? rootSlice = some slice ∧ slice.count = p.schema.width ∧
      (p.entries.drop slice.start).take slice.count = p.schema.selectColumns := by
  have hsplit : p.stretches = [] ++ ⟨rootSlice, p.schema.selectColumns⟩ ::
      (p.schema.joins.map (fun j ↦ ⟨j.name, j.table.selectColumns⟩) ++
        p.reserved.map fun r ↦ ⟨reservedSlice r.1, [r.2]⟩) := rfl
  have hlays := h.lays_out
  rw [hsplit] at hlays
  refine ⟨_, hlays.slice?_eq (by simp), Table.length_selectColumns _, ?_⟩
  rw [entries, hsplit]
  exact Stretch.take_drop_columnsOf _ _ _

def tableStretches (s : Schema) (joins : List Join) : List Stretch :=
  ⟨rootSlice, s.selectColumns⟩ :: joins.map fun j ↦ ⟨j.name, j.table.selectColumns⟩

/-- The stretches of a plan, split at a join. -/
theorem stretches_of_joins {before after : List Join} {j : Join}
    (hjoins : p.schema.joins = before ++ j :: after) :
    p.stretches = tableStretches p.schema before ++ ⟨j.name, j.table.selectColumns⟩ ::
      (after.map (fun j ↦ ⟨j.name, j.table.selectColumns⟩) ++
        p.reserved.map fun r ↦ ⟨reservedSlice r.1, [r.2]⟩) := by
  simp [stretches, tableStretches, hjoins]

/-- The slice of a join comes after the columns of the tables before it, as its name is neither
that of another join nor that of the first table's slice. -/
theorem LaidOut.slice?_join (hs : p.schema.Declared) (h : p.LaidOut) {before after : List Join}
    {j : Join} (hjoins : p.schema.joins = before ++ j :: after) :
    p.cursor.slice? j.name =
      some ⟨(Stretch.columnsOf (tableStretches p.schema before)).length, j.table.width⟩ := by
  have hj : j ∈ p.schema.joins := by simp [hjoins]
  have hfresh : j.name ∉ before.map Join.name := by
    have hnodup := hs.join_names_nodup
    rw [hjoins, List.map_append, List.map_cons] at hnodup
    intro hmem
    exact List.disjoint_of_nodup_append hnodup hmem List.mem_cons_self
  have hroot : j.name ≠ rootSlice := by
    intro heq
    have hfaultless := hs.join_names_faultless j hj
    rw [heq] at hfaultless
    revert hfaultless
    decide
  have hname : (⟨j.name, j.table.selectColumns⟩ : Stretch).name ∉
      (tableStretches p.schema before).map Stretch.name := by
    intro hmem
    rcases List.mem_cons.1 hmem with heq | hmem
    · exact hroot heq
    · rw [List.map_map] at hmem
      exact hfresh hmem
  have hlays := h.lays_out
  rw [stretches_of_joins hjoins] at hlays
  rw [← Table.length_selectColumns]
  exact hlays.slice?_eq hname

/-- It covers the columns of its own table. -/
theorem LaidOut.join_slice (hs : p.schema.Declared) (h : p.LaidOut) {j : Join}
    (hj : j ∈ p.schema.joins) :
    ∃ slice, p.cursor.slice? j.name = some slice ∧ slice.count = j.table.width ∧
      (p.entries.drop slice.start).take slice.count = j.table.selectColumns := by
  obtain ⟨before, after, hjoins⟩ := List.append_of_mem hj
  refine ⟨_, h.slice?_join hs hjoins, rfl, ?_⟩
  rw [entries, stretches_of_joins hjoins, ← Table.length_selectColumns]
  exact Stretch.take_drop_columnsOf _ _ ⟨j.name, j.table.selectColumns⟩

/-- A row that is loaded has the values of each slice in the place where the slice lies. -/
theorem LaidOut.values_of_load (h : p.LaidOut) {loaded : Cursor}
    (hload : p.cursor.load row = .ok loaded) {name : String} {slice : Slice}
    (hslice : p.cursor.slice? name = some slice) :
    loaded.values name = .ok ((row.drop slice.start).take slice.count) := by
  obtain ⟨hlays, hrow, hwide⟩ := h.lays_out.load hload
  have hloaded : loaded.slice? name = some slice := by
    calc
      loaded.slice? name = (Stretch.slicesFrom 0 p.stretches).lookup name := by
        rw [Cursor.slice?, hlays.slices_eq]
      _ = p.cursor.slice? name := by rw [Cursor.slice?, h.lays_out.slices_eq]
      _ = some slice := hslice
  exact Cursor.values_eq_ok hrow hloaded (Nat.le_trans (h.lays_out.stop_le hslice) hwide)

/-- A row that is read was loaded, and stays loaded. -/
theorem load_of_hydrate {record : Record} (hok : (p.hydrate row).2 = .ok record) :
    p.cursor.load row = .ok (p.hydrate row).1.cursor := by
  unfold hydrate at hok ⊢
  split at hok
  · cases hok
  · assumption

/-- The parts of a hydrated record: the values of the first table, and what is read from the slice
of each join. -/
theorem parts_of_hydrate (h : (p.hydrate row).2 = .ok record) :
    ∃ slice root, (p.hydrate row).1.cursor.values rootSlice = .ok slice ∧
      p.schema.hydrate slice = .ok root ∧ record.values = root.values ∧
      List.Forall₂ (fun j joined ↦ hydrateJoin (p.hydrate row).1.cursor j = .ok joined)
        p.schema.joins record.joins := by
  unfold hydrate at h ⊢
  cases hload : p.cursor.load row with
  | error e =>
    rw [hload] at h
    cases h
  | ok loaded =>
    rw [hload] at h
    obtain ⟨slice, hslice, h⟩ := Outcome.bind_eq_ok_iff.1 h
    obtain ⟨root, hroot, h⟩ := Outcome.bind_eq_ok_iff.1 h
    obtain ⟨joins, hjoins, h⟩ := Outcome.bind_eq_ok_iff.1 h
    obtain rfl := Except.ok.inj h
    exact ⟨slice, root, hslice, hroot, rfl, Outcome.mapM_eq_ok_iff.1 hjoins⟩

/-- What is read of a join: nothing if all values of its slice are null, and else its record. -/
theorem joined_of_hydrateJoin {c : Cursor} {j : Join} {joined : String × Option Record}
    (h : hydrateJoin c j = .ok joined) :
    joined.1 = j.name ∧ ∃ slice, c.values j.name = .ok slice ∧
      (isUnmatched slice = true ∧ joined.2 = none ∨
        isUnmatched slice = false ∧ ∃ r, joined.2 = some r ∧ j.table.hydrate slice = .ok r) := by
  obtain ⟨slice, hslice, h⟩ := Outcome.bind_eq_ok_iff.1 h
  split at h
  · rename_i hnone
    obtain rfl := Except.ok.inj h
    exact ⟨rfl, slice, hslice, .inl ⟨hnone, rfl⟩⟩
  · rename_i hsome
    obtain ⟨r, hr, h⟩ := Outcome.bind_eq_ok_iff.1 h
    obtain rfl := Except.ok.inj h
    exact ⟨rfl, slice, hslice, .inr ⟨by simpa using hsome, r, rfl, hr⟩⟩

theorem LaidOut.values_of_hydrate (h : p.LaidOut) {record : Record}
    (hok : (p.hydrate row).2 = .ok record) {name : String} {slice : Slice}
    (hslice : p.cursor.slice? name = some slice) :
    (p.hydrate row).1.cursor.values name = .ok ((row.drop slice.start).take slice.count) :=
  h.values_of_load (load_of_hydrate hok) hslice

theorem joinReads_of_hydrateJoin (hs : p.schema.Declared) (h : p.LaidOut) {record : Record}
    (hok : (p.hydrate row).2 = .ok record) {j : Join} (hj : j ∈ p.schema.joins)
    {joined : String × Option Record}
    (hread : hydrateJoin (p.hydrate row).1.cursor j = .ok joined) : p.JoinReads row j joined := by
  obtain ⟨slice, hslice, hcount, hcovers⟩ := h.join_slice hs hj
  obtain ⟨hname, values, hvalues, hcases⟩ := joined_of_hydrateJoin hread
  obtain rfl := Except.ok.inj ((h.values_of_hydrate hok hslice).symm.trans hvalues)
  rcases hcases with ⟨hnull, hnone⟩ | ⟨hsome, r, hjoined, hr⟩
  · refine ⟨hname, slice, hslice, hcount, ?_, by simp [hnone]⟩
    simpa [isUnmatched, hnone] using hnull
  · refine ⟨hname, slice, hslice, hcount, ?_, ?_⟩
    · simpa [isUnmatched, hjoined] using hsome
    · intro _ hread
      obtain rfl := Option.some.inj (hjoined.symm.trans hread)
      rw [hcount] at hcovers hr
      exact Table.readsAt_of_hydrate (hs.joins_declared j hj) hcovers hr

theorem reads_of_hydrate (hs : p.schema.Declared) (h : p.LaidOut) {record : Record}
    (hok : (p.hydrate row).2 = .ok record) : p.Reads row record := by
  obtain ⟨values, root, hvalues, hroot, hsame, hjoins⟩ := parts_of_hydrate hok
  obtain ⟨slice, hslice, hcount, hcovers⟩ := h.root_slice
  obtain rfl := Except.ok.inj ((h.values_of_hydrate hok hslice).symm.trans hvalues)
  refine ⟨⟨slice, hslice, hcount, ?_⟩, ?_⟩
  · rw [hcount] at hcovers hroot
    have hreads := Table.readsAt_of_hydrate hs.table_declared hcovers hroot
    refine ⟨hsame ▸ hreads.names, ?_⟩
    simpa only [Record.get?, hsame] using hreads.reads
  · have hjoined := (List.forall₂_and_left _ _).2
      ⟨fun j (hj : j ∈ p.schema.joins) ↦ hj, hjoins⟩
    apply hjoined.imp
    intro j joined hj
    exact joinReads_of_hydrateJoin hs h hok hj.1 hj.2

/-- A row that is too short leaves the plan as it is, with the row that it holds. -/
theorem hydrate_eq_of_short (h : row.length < p.width) :
    p.hydrate row = (p, .error (.hydration (.shortRow row.length p.width))) := by
  have hload : p.cursor.load row = .error (.hydration (.shortRow row.length p.width)) :=
    if_pos (show row.length < p.cursor.width from h)
  rw [hydrate, hload]

theorem hydrate_of_short (h : row.length < p.width) :
    (p.hydrate row).2 = .error (.hydration (.shortRow row.length p.width)) :=
  congrArg Prod.snd (hydrate_eq_of_short h)

/-- What is selected, where the slices lie and what a row is read as agree for every plan that a
program comes by: the slices lie back to back, each over the selected columns of its own table or
over its expression, and each value of a record is decoded from the position of its own column. -/
theorem row_layout (hs : s.Declared) (hp : Prepared s p) :
    p.schema = s ∧ p.selectList = ", ".intercalate p.entries ∧ p.entries.length = p.width ∧
      p.cursor.slices = Stretch.slicesFrom 0 p.stretches ∧
      (∀ (i : Nat) (g : Stretch), p.stretches[i]? = some g →
        ∃ slice, p.cursor.slices[i]? = some (g.name, slice) ∧
          (p.entries.drop slice.start).take slice.count = g.columns) ∧
      ∀ row : List Json,
        (row.length < p.width →
          (p.hydrate row).2 = .error (.hydration (.shortRow row.length p.width))) ∧
        ∀ record, (p.hydrate row).2 = .ok record → p.Reads row record := by
  obtain ⟨hlaid, rfl⟩ := hp.laidOut
  have hslices := hlaid.lays_out.slices_eq
  refine ⟨rfl, hlaid.selectList_eq, hlaid.lays_out.width_eq.symm, hslices, ?_, ?_⟩
  · intro i g hg
    rw [hslices]
    exact Stretch.slicesFrom_covers [] hg
  · intro row
    refine ⟨hydrate_of_short, ?_⟩
    intro record hok
    exact reads_of_hydrate hs hlaid hok

/-- A row of a member without a team, read after another one. -/
theorem row_layout_members :
    ∃ p record, Prepared .members p ∧
      p.selectList = "\"members\".\"id\", \"members\".\"name\", \"members\".\"team_id\", " ++
        "\"teams\".\"id\", \"teams\".\"title\", COUNT(*) OVER()" ∧
      (p.hydrate [.int 1, .string "ann", .null, .null, .null, .int 9]).2 = .ok record ∧
      record.get? "name" = some (.string "ann") ∧
      p.Reads [.int 1, .string "ann", .null, .null, .null, .int 9] record := by
  let p : JoinPlan := ((ofSchema .members none).withTotal.hydrate
    [.int 2, .string "bob", .int 3, .int 3, .string "red", .int 9]).1
  have hp : Prepared .members p := ((Prepared.ofSchema none).withTotal).hydrate _
  have hok : (p.hydrate [.int 1, .string "ann", .null, .null, .null, .int 9]).2 = .ok _ := rfl
  obtain ⟨_, hselect, _, _, _, hrows⟩ := row_layout Schema.members_declared hp
  exact ⟨p, _, hp, hselect.trans (by decide +kernel), hok, rfl, (hrows _).2 _ hok⟩

end JoinPlan

end SchemaSql
