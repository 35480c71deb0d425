import SchemaSql.Proofs.Query.RowLayout

/-!
# Reserved expressions

The slices of reserved expressions come after those of the tables, one column wide each, and are
found under names that begin with a mark. The mark keeps them apart from all joins, whose names are
identifiers, but the slice of the first table has such a name as well: an expression that is
reserved under the name `root` is taken for the first column of the table. Every other expression
is read from the position at which it is selected.
-/

namespace SchemaSql

def joinedWidth : List Join → Nat
  | [] => 0
  | j :: joins => j.table.width + joinedWidth joins

def Schema.columnCount (s : Schema) : Nat :=
  s.width + joinedWidth s.joins

namespace JoinPlan

/-! ## Names of slices -/

theorem toList_reservedSlice (name : String) :
    (reservedSlice name).toList = '@' :: name.toList := by
  simp [reservedSlice]

theorem reservedSlice_inj {a b : String} (h : reservedSlice a = reservedSlice b) : a = b := by
  have hlist := congrArg String.toList h
  rw [toList_reservedSlice, toList_reservedSlice] at hlist
  exact String.toList_inj.1 (List.cons.inj hlist).2

/-- The first table is the only one whose slice can be taken for that of an expression. -/
theorem reservedSlice_eq_rootSlice_iff {name : String} :
    reservedSlice name = rootSlice ↔ name = "root" :=
  ⟨fun h ↦ reservedSlice_inj (h.trans rfl), fun h ↦ h ▸ rfl⟩

/-- An identifier does not begin with the mark of a reserved name. -/
theorem reservedSlice_ne_of_faultless {name other : String}
    (h : Identifier.fault? other = none) : reservedSlice name ≠ other := by
  intro heq
  obtain ⟨c, cs, hother, hstarts, _⟩ := Identifier.fault?_eq_none_iff.1 h
  rw [← heq, toList_reservedSlice] at hother
  obtain ⟨rfl, _⟩ := List.cons.inj hother
  revert hstarts
  decide

/-! ## Places of slices -/

variable {s : Schema} {p : JoinPlan} {row : List Json}

def reservedStretches (reserved : List (String × String)) : List Stretch :=
  reserved.map fun r ↦ ⟨reservedSlice r.1, [r.2]⟩

theorem stretches_eq (p : JoinPlan) :
    p.stretches = tableStretches p.schema p.schema.joins ++ reservedStretches p.reserved := rfl

theorem length_columnsOf_tableStretches (s : Schema) (joins : List Join) :
    (Stretch.columnsOf (tableStretches s joins)).length = s.width + joinedWidth joins := by
  have hjoins :
      (Stretch.columnsOf (joins.map fun j ↦ ⟨j.name, j.table.selectColumns⟩)).length =
        joinedWidth joins := by
    induction joins with
    | nil => rfl
    | cons j joins ih =>
      rw [List.map_cons, Stretch.columnsOf, List.flatMap_cons, List.length_append,
        Table.length_selectColumns, joinedWidth, ← ih, Stretch.columnsOf]
  rw [tableStretches, Stretch.columnsOf, List.flatMap_cons, List.length_append,
    Table.length_selectColumns, ← hjoins, Stretch.columnsOf]

theorem columnsOf_reservedStretches (reserved : List (String × String)) :
    Stretch.columnsOf (reservedStretches reserved) = reserved.map Prod.snd := by
  rw [reservedStretches, Stretch.columnsOf, List.flatMap_map]
  exact List.map_eq_flatMap.symm

/-- No table of a declared schema has its slice under the name of a reserved expression, unless
that name is `root`. -/
theorem reservedSlice_not_mem_tableStretches (hs : s.Declared) {name : String}
    (hroot : name ≠ "root") :
    reservedSlice name ∉ (tableStretches s s.joins).map Stretch.name := by
  intro hmem
  rcases List.mem_cons.1 hmem with heq | hmem
  · exact hroot (reservedSlice_eq_rootSlice_iff.1 heq)
  · rw [List.map_map] at hmem
    obtain ⟨j, hj, heq⟩ := List.mem_map.1 hmem
    exact reservedSlice_ne_of_faultless (hs.join_names_faultless j hj) heq.symm

/-- The slice of a reserved expression is its own column, after those of the tables and of the
expressions before it. -/
theorem LaidOut.slice?_reserved (hs : p.schema.Declared) (h : p.LaidOut)
    (hnames : (p.reserved.map Prod.fst).Nodup) {i : Nat} {name expression : String}
    (hi : p.reserved[i]? = some (name, expression)) (hroot : name ≠ "root") :
    p.cursor.slice? (reservedSlice name) = some ⟨p.schema.columnCount + i, 1⟩ := by
  obtain ⟨hlt, hget⟩ := List.getElem?_eq_some_iff.1 hi
  have hsplit : p.reserved =
      p.reserved.take i ++ (name, expression) :: p.reserved.drop (i + 1) := by
    rw [← hget, ← List.drop_eq_getElem_cons hlt, List.take_append_drop]
  have hstretches : p.stretches =
      (tableStretches p.schema p.schema.joins ++ reservedStretches (p.reserved.take i)) ++
        ⟨reservedSlice name, [expression]⟩ :: reservedStretches (p.reserved.drop (i + 1)) := by
    rw [stretches_eq, hsplit, reservedStretches, List.map_append, List.map_cons,
      List.append_assoc, ← hsplit, reservedStretches, reservedStretches]
  -- The names before it differ, so that neither side of the split has the slice's name earlier.
  have hbefore :
      reservedSlice name ∉ (reservedStretches (p.reserved.take i)).map Stretch.name := by
    intro hmem
    rw [reservedStretches, List.map_map] at hmem
    obtain ⟨r, hr, heq⟩ := List.mem_map.1 hmem
    rw [hsplit, List.map_append, List.map_cons] at hnames
    exact List.disjoint_of_nodup_append hnames
      (List.mem_map.2 ⟨r, hr, reservedSlice_inj heq⟩) List.mem_cons_self
  have hlays := h.lays_out
  rw [hstretches] at hlays
  calc
    p.cursor.slice? (reservedSlice name) =
        some ⟨(Stretch.columnsOf (tableStretches p.schema p.schema.joins ++
          reservedStretches (p.reserved.take i))).length, 1⟩ := by
      apply hlays.slice?_eq
      rw [List.map_append, List.mem_append]
      exact not_or.2 ⟨reservedSlice_not_mem_tableStretches hs hroot, hbefore⟩
    _ = some ⟨p.schema.columnCount + i, 1⟩ := by
      rw [Stretch.columnsOf_append, List.length_append, length_columnsOf_tableStretches,
        columnsOf_reservedStretches, List.length_map, List.length_take,
        Nat.min_eq_left (Nat.le_of_lt hlt), Schema.columnCount]

/-- Behind the columns of the tables each reserved expression is selected at its own position. -/
theorem entries_reserved {i : Nat} {name expression : String}
    (hi : p.reserved[i]? = some (name, expression)) :
    p.entries[p.schema.columnCount + i]? = some expression := by
  rw [entries, stretches_eq, Stretch.columnsOf_append, columnsOf_reservedStretches,
    Schema.columnCount, ← length_columnsOf_tableStretches,
    List.getElem?_append_right (Nat.le_add_right _ _), Nat.add_sub_cancel_left,
    List.getElem?_map, hi]
  rfl

/-! ## Loaded rows -/

/-- A row that is read has a value at the position of each reserved expression, and this is the
value that the name of the expression stands for. -/
theorem LaidOut.reservedValue_eq (hs : p.schema.Declared) (h : p.LaidOut)
    (hnames : (p.reserved.map Prod.fst).Nodup) {record : Record}
    (hok : (p.hydrate row).2 = .ok record) {i : Nat} {name expression : String}
    (hi : p.reserved[i]? = some (name, expression)) (hroot : name ≠ "root") :
    ∃ v, row[p.schema.columnCount + i]? = some v ∧
      (p.hydrate row).1.reservedValue name = .ok v := by
  have hwide : p.schema.columnCount + i < row.length := by
    have hentry := (List.getElem?_eq_some_iff.1 (entries_reserved hi)).1
    obtain ⟨_, _, hwidth⟩ := h.lays_out.load (load_of_hydrate hok)
    rw [h.lays_out.width_eq] at hwidth
    exact Nat.lt_of_lt_of_le hentry hwidth
  refine ⟨row[p.schema.columnCount + i], List.getElem?_eq_getElem hwide, ?_⟩
  have hvalues := h.values_of_hydrate hok (h.slice?_reserved hs hnames hi hroot)
  rw [reservedValue, Cursor.value, hvalues, List.drop_eq_getElem_cons hwide]
  rfl

/-- Expressions that are reserved under different names, none of them `root`, are each read from
the position at which it is selected, and the slices of the tables lie where they lie without
them. -/
theorem reserved_resolves (hs : s.Declared) (hp : Prepared s p)
    (hnames : (p.reserved.map Prod.fst).Nodup) :
    p.selectList = ", ".intercalate p.entries ∧
      ∀ (row : List Json) (record : Record), (p.hydrate row).2 = .ok record →
        (∀ (i : Nat) (name expression : String), p.reserved[i]? = some (name, expression) →
          name ≠ "root" →
            p.entries[s.columnCount + i]? = some expression ∧
            ∃ v, row[s.columnCount + i]? = some v ∧
              (p.hydrate row).1.reservedValue name = .ok v) ∧
        (p.hydrate row).1.cursor.values rootSlice = .ok (row.take s.width) ∧
        ∀ (before : List Join) (j : Join) (after : List Join), s.joins = before ++ j :: after →
          (p.hydrate row).1.cursor.values j.name =
            .ok ((row.drop (s.width + joinedWidth before)).take j.table.width) := by
  obtain ⟨hlaid, rfl⟩ := hp.laidOut
  refine ⟨hlaid.selectList_eq, ?_⟩
  intro row record hok
  refine ⟨?_, ?_, ?_⟩
  · intro i name expression hi hroot
    exact ⟨entries_reserved hi, hlaid.reservedValue_eq hs hnames hok hi hroot⟩
  · have hlays := hlaid.lays_out
    rw [stretches_eq, tableStretches, List.cons_append, ← List.nil_append (_ :: _)] at hlays
    have hslice := hlays.slice?_eq (by simp)
    rw [hlaid.values_of_hydrate hok hslice, Table.length_selectColumns]
    rfl
  · intro before j after hjoins
    have hslice := hlaid.slice?_join hs hjoins
    rw [length_columnsOf_tableStretches] at hslice
    exact hlaid.values_of_hydrate hok hslice

/-- A count of all rows and a rank, behind a member and the team of the member. -/
theorem reserved_resolves_members :
    ∃ p row record, Prepared .members p ∧ (p.reserved.map Prod.fst).Nodup ∧
      row = [.int 1, .string "ann", .int 3, .int 3, .string "red", .int 9, .int 4] ∧
      (p.hydrate row).2 = .ok record ∧ (p.hydrate row).1.reservedValue "rank" = .ok (.int 4) := by
  let p : JoinPlan := ((ofSchema .members none).withTotal).reserve "rank" "RANK() OVER ()"
  let row : List Json :=
    [.int 1, .string "ann", .int 3, .int 3, .string "red", .int 9, .int 4]
  have hp : Prepared .members p := ((Prepared.ofSchema none).withTotal).reserve "rank" (by decide)
  have hnames : (p.reserved.map Prod.fst).Nodup := by decide
  have hok : (p.hydrate row).2 = .ok _ := rfl
  obtain ⟨_, hrows⟩ := reserved_resolves Schema.members_declared hp hnames
  obtain ⟨v, hv, hvalue⟩ := ((hrows row _ hok).1 1 "rank" _ rfl (by decide)).2
  obtain rfl : Json.int 4 = v := Option.some.inj hv
  exact ⟨p, row, _, hp, hnames, rfl, hok, hvalue⟩

/-- Under the name `root` an expression is not read from its own position, the sixth one, but from
the first column of the table. -/
theorem reserved_root_misread :
    ∃ p row record, Prepared .members p ∧ (p.reserved.map Prod.fst).Nodup ∧
      p.reserved[0]? = some ("root", "COUNT(*) OVER()") ∧ Schema.members.columnCount = 5 ∧
      (p.hydrate row).2 = .ok record ∧ row[5]? = some (.int 9) ∧
      (p.hydrate row).1.reservedValue "root" = .ok (.int 1) :=
  ⟨(ofSchema .members none).reserve "root" "COUNT(*) OVER()",
    [.int 1, .string "ann", .int 3, .int 3, .string "red", .int 9], _,
    (Prepared.ofSchema none).reserve "root" (by decide), by decide, rfl, rfl, rfl, rfl, rfl⟩

end JoinPlan

end SchemaSql
