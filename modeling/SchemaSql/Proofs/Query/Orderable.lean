import SchemaSql.Proofs.Schema.WellFormed
import SchemaSql.Proofs.Text.Runs
import SchemaSql.Query.JoinPlan

/-!
# What rows can be ordered by

An order is asked for by a name: that of a field, that of a JSON field and one of its keys after a
dot, and either of them after the name of a join and a dot. Whatever text is asked for, the term
that comes of it is put together from names that were declared; and whatever was declared can be
asked for. No dotted name can be read both ways, as names of fields and joins have no dots and
differ from each other.
-/

namespace SchemaSql

/-! ## Declared names -/

namespace Table.Declared

variable {t : Table} {f : Field}

/-- Each field of a declared table is one that a well-formed declaration declares. -/
theorem field_declared (h : t.Declared) (hf : f ∈ t.fields) :
    ∃ d : FieldDecl, d.WellFormed ∧ d.Declares f := by
  obtain ⟨d, s, hbuild, rfl⟩ := h
  obtain ⟨hwell, hdeclares⟩ := d.justified_build.of_eq_ok hbuild
  obtain ⟨e, he, hfield⟩ := Outcome.exists_mem_of_forall₂ hdeclares.fields_rel.flip hf
  exact ⟨e, hwell.fields_wellFormed e he, hfield⟩

theorem name_given (h : t.Declared) (hf : f ∈ t.fields) : f.name ≠ "" := by
  obtain ⟨d, hwell, hdeclares⟩ := h.field_declared hf
  rw [hdeclares.name_eq]
  exact hwell.name_given

theorem name_undotted (h : t.Declared) (hf : f ∈ t.fields) : '.' ∉ f.name.toList := by
  obtain ⟨d, hwell, hdeclares⟩ := h.field_declared hf
  rw [hdeclares.name_eq]
  exact hwell.name_undotted

theorem isKey_of_mem (h : t.Declared) (hf : f ∈ t.fields) {keys : List String}
    (hkeys : f.keys = some keys) {key : String} (hkey : key ∈ keys) : FieldDecl.IsKey key := by
  obtain ⟨d, hwell, hdeclares⟩ := h.field_declared hf
  exact (hwell.keys_suit keys (hdeclares.keys_eq.symm.trans hkeys)).2 key hkey

theorem field?_eq_some_iff (h : t.Declared) {name : String} :
    t.field? name = some f ↔ f ∈ t.fields ∧ f.name = name :=
  find?_eq_some_iff_of_nodup h.names_nodup

end Table.Declared

namespace Schema.Declared

variable {s : Schema} {j : Join}

theorem join_name_undotted (h : s.Declared) (hj : j ∈ s.joins) : '.' ∉ j.name.toList := by
  obtain ⟨c, cs, hname, hfirst, hfurther⟩ :=
    Identifier.fault?_eq_none_iff.1 (h.join_names_faultless j hj)
  rw [hname]
  intro hmem
  rcases List.mem_cons.1 hmem with rfl | hmem
  · exact absurd hfirst (by decide)
  · exact absurd (hfurther _ hmem) (by decide)

theorem join?_eq_some_iff (h : s.Declared) {name : String} :
    s.join? name = some j ↔ j ∈ s.joins ∧ j.name = name :=
  find?_eq_some_iff_of_nodup h.join_names_nodup

end Schema.Declared

/-! ## Dotted names -/

namespace OrderRequest

theorem forall_ne_dot {name : String} (h : '.' ∉ name.toList) :
    ∀ c ∈ name.toList, (c != '.') = true := by
  intro c hc
  exact bne_iff_ne.2 fun hdot ↦ h (hdot ▸ hc)

theorem splitDot_undotted {name : String} (h : '.' ∉ name.toList) :
    splitDot name = (name, none) := by
  have hnil : name.toList.dropWhile (· != '.') = [] :=
    List.dropWhile_eq_nil_iff.2 (forall_ne_dot h)
  rw [splitDot, hnil]

/-- A name without dots before the first dot is what it is split at. -/
theorem splitDot_dotted {head : String} (h : '.' ∉ head.toList) (rest : String) :
    splitDot (head ++ "." ++ rest) = (head, some rest) := by
  have hrest : ∀ c ∈ ('.' :: rest.toList).head?, (c != '.') = false := by simp
  have htext : (head ++ "." ++ rest).toList = head.toList ++ '.' :: rest.toList := by simp
  rw [splitDot, htext, Text.dropWhile_run (forall_ne_dot h) hrest,
    Text.takeWhile_run (forall_ne_dot h) hrest]
  simp

/-- Names without dots that go on to the same dotted name are the same. -/
theorem eq_of_dotted_eq {a b : String} (ha : '.' ∉ a.toList) (hb : '.' ∉ b.toList)
    {restA restB : String} (h : a ++ "." ++ restA = b ++ "." ++ restB) : a = b := by
  have hsplit := splitDot_dotted ha restA
  rw [h, splitDot_dotted hb restB] at hsplit
  exact (congrArg Prod.fst hsplit).symm

end OrderRequest

/-! ## Texts -/

/-- `"t"."c"`, then `->'k'` if there is a key, then ` ASC` or ` DESC` if there is a direction. -/
def orderSql (table column : Identifier) (key : Option String) (direction : Option Direction) :
    String :=
  "\"" ++ table.text ++ "\".\"" ++ column.text ++ "\"" ++
    (match key with
      | none => ""
      | some k => "->'" ++ k ++ "'") ++
    match direction with
    | none => ""
    | some .ascending => " ASC"
    | some .descending => " DESC"

/-- A field is ordered by one of its declared keys if it is of JSON, and else as a whole. -/
inductive Field.OrderedBy (f : Field) : Option String → Prop where
  | whole (h : f.type ≠ .json) : OrderedBy f none
  | within {keys key} (h : f.type = .json) (hkeys : f.keys = some keys) (hkey : key ∈ keys) :
    OrderedBy f (some key)

/-- A field of the table or of a joined one, perhaps with a key, that rows can be ordered by. -/
structure Schema.Orderable (s : Schema) (t : Table) (f : Field) (key : Option String) : Prop where
  table_mem : t = s.toTable ∨ ∃ j ∈ s.joins, t = j.table
  field_mem : f ∈ t.fields
  ordered_by : f.OrderedBy key

inductive Schema.OrderText (s : Schema) : String → Prop where
  | field {t f key} (h : s.Orderable t f key) (direction : Option Direction) :
    OrderText s (orderSql t.name f.column key direction)

/-- A key that rows can be ordered by holds no quote, nor anything else but letters, numbers,
underscores and hyphens. -/
theorem Schema.Orderable.isKey {s : Schema} (hs : s.Declared) {t : Table} {f : Field}
    {key : String} (h : s.Orderable t f (some key)) : FieldDecl.IsKey key := by
  have ht : t.Declared := by
    rcases h.table_mem with rfl | ⟨j, hj, rfl⟩
    · exact hs.table_declared
    · exact hs.joins_declared j hj
  cases h.ordered_by with
  | within _ hkeys hkey => exact ht.isKey_of_mem h.field_mem hkeys hkey

theorem sql_dotted (table column : Identifier) (key : Option String)
    (direction : Option Direction) :
    (⟨Identifier.dotted table column, key, direction⟩ : OrderTerm).sql =
      orderSql table column key direction := by
  have hcolumn : Identifier.dotted table column =
      "\"" ++ table.text ++ "\".\"" ++ column.text ++ "\"" := by
    apply String.toList_inj.1
    simp [Identifier.dotted, Identifier.quoted]
  unfold OrderTerm.sql orderSql
  dsimp only
  rw [hcolumn]
  cases direction with
  | none => rfl
  | some direction => cases direction <;> rfl

/-! ## What is asked for -/

/-- A key is taken exactly if it is the one that is asked for and the field is ordered by it. -/
theorem Field.orderKey_eq_ok_iff {f : Field} {requested : String} {asked key : Option String} :
    f.orderKey requested asked = .ok key ↔ key = asked ∧ f.OrderedBy key := by
  constructor
  · intro h
    unfold orderKey at h
    split at h
    · rename_i htype
      split at h
      · cases h
      · cases h
      · rename_i keys k hkeys
        split at h
        · rename_i hmem
          obtain rfl := Except.ok.inj h
          exact ⟨rfl, .within htype hkeys (by simpa using hmem)⟩
        · cases h
    · rename_i htype
      split at h
      · obtain rfl := Except.ok.inj h
        exact ⟨rfl, .whole htype⟩
      · cases h
  · rintro ⟨rfl, hkey⟩
    unfold orderKey
    cases hkey with
    | whole htype => rw [if_neg htype]
    | within htype hkeys hkey =>
      rw [if_pos htype, hkeys]
      dsimp only
      rw [if_pos (by simpa using hkey)]

namespace Table

variable {t : Table}

/-- An order that is accepted is by a field of the table, and by a key of the field if it is of
JSON. -/
theorem exists_of_orderTerm_eq_ok {request : OrderRequest} {o : OrderTerm}
    (h : t.orderTerm request = .ok o) :
    ∃ f key direction, f ∈ t.fields ∧ f.OrderedBy key ∧ o = ⟨t.columnOf f, key, direction⟩ := by
  unfold orderTerm at h
  split at h
  · cases h
  · dsimp only at h
    split at h
    · cases h
    · rename_i f hf
      obtain ⟨key, hkey, h⟩ := Outcome.bind_eq_ok_iff.1 h
      obtain ⟨direction, _, h⟩ := Outcome.bind_eq_ok_iff.1 h
      exact ⟨f, key, direction, List.mem_of_find?_eq_some hf, (Field.orderKey_eq_ok_iff.1 hkey).2,
        (Except.ok.inj h).symm⟩

end Table

def Field.orderName (f : Field) : Option String → String
  | none => f.name
  | some key => f.name ++ "." ++ key

def Direction.method? : Option Direction → Option String
  | none => none
  | some .ascending => some "asc"
  | some .descending => some "desc"

theorem mapM_ofMethod_method? (field : String) (direction : Option Direction) :
    (OrderRequest.given (Direction.method? direction)).mapM (Direction.ofMethod field) =
      .ok direction := by
  cases direction with
  | none => rfl
  | some direction => cases direction <;> rfl

theorem Field.splitDot_orderName {f : Field} (h : '.' ∉ f.name.toList) (key : Option String) :
    OrderRequest.splitDot (f.orderName key) = (f.name, key) := by
  cases key with
  | none => exact OrderRequest.splitDot_undotted h
  | some key => exact OrderRequest.splitDot_dotted h key

theorem Field.orderName_ne_empty {f : Field} (h : f.name ≠ "") (key : Option String) :
    f.orderName key ≠ "" := by
  cases key with
  | none => exact h
  | some key =>
    intro hempty
    have hchars := congrArg String.toList hempty
    simp [orderName] at hchars

/-- A field of a declared table can be asked for by its name, in every direction. -/
theorem Table.Declared.orderTerm_eq_ok {t : Table} (h : t.Declared) {f : Field}
    (hf : f ∈ t.fields) {key : Option String} (hkey : f.OrderedBy key)
    (direction : Option Direction) :
    t.orderTerm ⟨some (f.orderName key), Direction.method? direction⟩ =
      .ok ⟨t.columnOf f, key, direction⟩ := by
  have hrequested : (some (f.orderName key)).filter (fun f ↦ !f.isEmpty) =
      some (f.orderName key) := by
    have hgiven := Field.orderName_ne_empty (h.name_given hf) key
    simp [Option.filter, hgiven]
  have hfield : t.field? f.name = some f := h.field?_eq_some_iff.2 ⟨hf, rfl⟩
  rw [Table.orderTerm]
  dsimp only
  rw [hrequested]
  dsimp only
  rw [Field.splitDot_orderName (h.name_undotted hf)]
  dsimp only
  rw [hfield]
  dsimp only
  rw [Field.orderKey_eq_ok_iff.2 ⟨rfl, hkey⟩, mapM_ofMethod_method?]
  rfl

namespace JoinPlan

variable {p : JoinPlan}

/-- An order that is accepted is one of the first table or of a joined one. -/
theorem exists_of_order_eq_ok {request : OrderRequest} {o : OrderTerm}
    (h : p.order request = .ok o) :
    ∃ t request', (t = p.schema.toTable ∨ ∃ j ∈ p.schema.joins, t = j.table) ∧
      t.orderTerm request' = .ok o := by
  unfold order at h
  split at h
  · split at h
    · rename_i j hj
      exact ⟨j.table, _, .inr ⟨j, List.mem_of_find?_eq_some hj, rfl⟩, h⟩
    · exact ⟨p.schema.toTable, request, .inl rfl, h⟩
  · exact ⟨p.schema.toTable, request, .inl rfl, h⟩

/-- The text of an order is put together from what rows can be ordered by. -/
theorem orderText_of_order {request : OrderRequest} {o : OrderTerm}
    (h : p.order request = .ok o) : p.schema.OrderText o.sql := by
  obtain ⟨t, request', ht, hterm⟩ := exists_of_order_eq_ok h
  obtain ⟨f, key, direction, hf, hkey, rfl⟩ := Table.exists_of_orderTerm_eq_ok hterm
  rw [Table.columnOf, sql_dotted]
  exact .field ⟨ht, hf, hkey⟩ direction

/-- Whatever rows can be ordered by can be asked for, in every direction. -/
theorem exists_order_eq_ok (hs : p.schema.Declared) {t : Table} {f : Field} {key : Option String}
    (h : p.schema.Orderable t f key) (direction : Option Direction) :
    ∃ name, p.order ⟨some name, Direction.method? direction⟩ =
      .ok ⟨t.columnOf f, key, direction⟩ := by
  rcases h.table_mem with rfl | ⟨j, hj, rfl⟩
  · refine ⟨f.orderName key, ?_⟩
    have hterm := hs.table_declared.orderTerm_eq_ok h.field_mem h.ordered_by direction
    have hsplit := Field.splitDot_orderName (hs.table_declared.name_undotted h.field_mem) key
    rw [order, Option.map_some, hsplit]
    cases key with
    | none => exact hterm
    | some key =>
      -- No join takes the name, as none is named as a field.
      have hnone : p.schema.join? f.name = none := by
        apply find?_eq_none_iff_not_mem.2
        intro hmem
        obtain ⟨j, hj, hname⟩ := List.mem_map.1 hmem
        exact hs.join_name_ne hj h.field_mem hname
      dsimp only
      rw [hnone]
      exact hterm
  · refine ⟨j.name ++ "." ++ f.orderName key, ?_⟩
    have hjoin : p.schema.join? j.name = some j := hs.join?_eq_some_iff.2 ⟨hj, rfl⟩
    rw [order, Option.map_some, OrderRequest.splitDot_dotted (hs.join_name_undotted hj)]
    dsimp only
    rw [hjoin]
    exact (hs.joins_declared j hj).orderTerm_eq_ok h.field_mem h.ordered_by direction

end JoinPlan

end SchemaSql
