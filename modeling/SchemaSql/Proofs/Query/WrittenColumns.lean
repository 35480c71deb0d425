import SchemaSql.Proofs.Json.Members
import SchemaSql.Proofs.Query.Sources
import SchemaSql.Proofs.Query.Writing

/-!
# Columns that are written

A declaration is checked for fields of one name, not for fields of one column. So a statement names
each column once exactly if no two of the fields that it writes share a column, and all statements
of a table do so exactly if no two fields share one that are open to be written at all. Fields that
keep their names as columns never do.
-/

namespace SchemaSql

/-- Some value is accepted for the field. -/
def Field.Assignable (f : Field) : Prop :=
  ∃ v p, f.coerce v = .ok p

namespace Writing

variable {w : Writing} {t : Table} {payload : Json}

/-! ## One statement -/

theorem mem_fields_iff {f : Field} :
    f ∈ w.fields t payload ↔ f ∈ t.fields ∧ w.allows f = true ∧ ∃ v, payload.get? f.name = some v := by
  rw [fields, List.mem_filter, Bool.and_eq_true, Option.isSome_iff_exists]

/-- Something is written if there are fields to write and each of them accepts its value. -/
theorem exists_clause (hsome : w.fields t payload ≠ [])
    (hcoerced : ∀ f ∈ w.fields t payload, ∃ p, f.coerce (f.valueIn payload) = .ok p) :
    ∃ c, w.clause t payload = .ok c := by
  have hwrites := w.writes_clause t payload
  cases hclause : w.clause t payload with
  | ok c => exact ⟨c, rfl⟩
  | error e =>
    rw [hclause] at hwrites
    cases hwrites with
    | nothing hnone => exact absurd hnone hsome
    | @refused before f after fault split _ fails =>
      obtain ⟨p, hp⟩ := hcoerced f (by simp [split])
      cases fails.symm.trans hp

/-- A field that is written accepts some value. -/
theorem assignable_of_clause {c : Clause} (h : w.clause t payload = .ok c) {f : Field}
    (hf : f ∈ w.fields t payload) : f.Assignable := by
  obtain ⟨p, _, hp⟩ := Outcome.exists_mem_of_forall₂ (parts_of_clause h).2 hf
  exact ⟨_, p, hp⟩

/-- Each column is named once exactly if no two of the fields that are written share one. -/
theorem fragments_nodup_iff_of_clause (ht : t.Declared) {c : Clause}
    (h : w.clause t payload = .ok c) :
    c.fragments.Nodup ↔
      ∀ f ∈ w.fields t payload, ∀ g ∈ w.fields t payload, f.column = g.column → f = g := by
  have hfields : (w.fields t payload).Nodup := (ht.names_nodup.of_map _).filter _
  rw [(parts_of_clause h).1, List.nodup_map_iff_inj_on hfields]
  refine forall₄_congr fun f _ g _ ↦ imp_congr_left ?_
  exact ⟨Identifier.quoted_inj, congrArg Identifier.quoted⟩

/-! ## All statements of a table -/

/-- No two fields share a column if both are open to be written and accept some value. -/
def Separates (w : Writing) (t : Table) : Prop :=
  ∀ f ∈ t.fields, ∀ g ∈ t.fields, w.allows f = true → w.allows g = true →
    f.Assignable → g.Assignable → f.column = g.column → f = g

/-- Two fields that are open to be written and accept some value are written by one statement. -/
theorem exists_clause_of_pair (ht : t.Declared) {f g : Field} (hf : f ∈ t.fields)
    (hg : g ∈ t.fields) (hne : f ≠ g) (hfopen : w.allows f = true) (hgopen : w.allows g = true)
    (hfsome : f.Assignable) (hgsome : g.Assignable) :
    ∃ payload c, w.clause t payload = .ok c ∧
      f ∈ w.fields t payload ∧ g ∈ w.fields t payload := by
  obtain ⟨v, p, hp⟩ := hfsome
  obtain ⟨u, q, hq⟩ := hgsome
  have hinj := List.inj_on_of_nodup_map ht.names_nodup
  let payload : Json := .ofMembers [(f.name, v), (g.name, u)]
  have hlookup (name : String) : payload.get? name = [(g.name, u), (f.name, v)].lookup name :=
    Json.get?_ofMembers _ name
  have hfmem : f ∈ w.fields t payload := by
    have hnames : f.name ≠ g.name := fun hsame ↦ hne (hinj hf hg hsame)
    refine mem_fields_iff.2 ⟨hf, hfopen, v, ?_⟩
    rw [hlookup, List.lookup_cons, beq_false_of_ne hnames, List.lookup_cons_self]
  have hgmem : g ∈ w.fields t payload :=
    mem_fields_iff.2 ⟨hg, hgopen, u, (hlookup g.name).trans List.lookup_cons_self⟩
  obtain ⟨c, hc⟩ : ∃ c, w.clause t payload = .ok c := by
    apply exists_clause (List.ne_nil_of_mem hfmem)
    intro k hk
    obtain ⟨hkt, _, x, hx⟩ := mem_fields_iff.1 hk
    rw [Field.valueIn, hx, Option.getD_some]
    -- the payload has nothing for further fields
    have hgiven := mem_of_lookup_eq_some ((hlookup k.name).symm.trans hx)
    rw [List.mem_pair, Prod.mk.injEq, Prod.mk.injEq] at hgiven
    rcases hgiven with ⟨hsame, rfl⟩ | ⟨hsame, rfl⟩
    · exact ⟨q, hinj hkt hg hsame ▸ hq⟩
    · exact ⟨p, hinj hkt hf hsame ▸ hp⟩
  exact ⟨payload, c, hc, hfmem, hgmem⟩

/-- A statement names each of its columns once exactly if no two of the fields that it writes share
one. All insertions into a declared table, or all updates of it, do so exactly if no two fields
share a column that are open to it and accept some value at all; and so they do where each field
that is open to it has its own name as its column. -/
theorem fragments_nodup_iff (ht : t.Declared) (w : Writing) :
    (∀ payload c, w.clause t payload = .ok c →
      (c.fragments.Nodup ↔
        ∀ f ∈ w.fields t payload, ∀ g ∈ w.fields t payload, f.column = g.column → f = g)) ∧
      ((∀ payload c, w.clause t payload = .ok c → c.fragments.Nodup) ↔ w.Separates t) ∧
      ((∀ f ∈ t.fields, w.allows f = true → f.column.text = f.name) → w.Separates t) := by
  refine ⟨fun payload c h ↦ fragments_nodup_iff_of_clause ht h, ?_, ?_⟩
  · constructor
    · intro hall f hf g hg hfopen hgopen hfsome hgsome hcolumn
      by_contra hne
      obtain ⟨payload, c, hc, hfmem, hgmem⟩ :=
        exists_clause_of_pair ht hf hg hne hfopen hgopen hfsome hgsome
      exact hne ((fragments_nodup_iff_of_clause ht hc).1 (hall payload c hc) f hfmem g hgmem hcolumn)
    · intro hseparates payload c hc
      rw [fragments_nodup_iff_of_clause ht hc]
      intro f hfmem g hgmem hcolumn
      obtain ⟨hf, hfopen, _⟩ := mem_fields_iff.1 hfmem
      obtain ⟨hg, hgopen, _⟩ := mem_fields_iff.1 hgmem
      exact hseparates f hf g hg hfopen hgopen (assignable_of_clause hc hfmem)
        (assignable_of_clause hc hgmem) hcolumn
  · intro hkept f hf g hg hfopen hgopen _ _ hcolumn
    apply List.inj_on_of_nodup_map ht.names_nodup hf hg
    rw [← hkept f hf hfopen, hcolumn, hkept g hg hgopen]

/-- The email of an account keeps its column to itself, though the column is named otherwise. -/
theorem fragments_nodup_accounts :
    ∃ c, update.clause Schema.accounts.toTable
        (.object [("email", .string "ann@x"), ("role", .string "guest")]) = .ok c ∧
      c.fragments = ["\"address\"", "\"role\""] ∧ c.fragments.Nodup ∧
      update.Separates Schema.accounts.toTable := by
  have ht := Schema.accounts_declared.table_declared
  have hseparates : update.Separates Schema.accounts.toTable := by
    intro f hf g hg _ _ _ _ hcolumn
    have hcolumns : (Schema.accounts.fields.map Field.column).Nodup := by decide
    exact List.inj_on_of_nodup_map hcolumns hf hg hcolumn
  have hclause : update.clause Schema.accounts.toTable
      (.object [("email", .string "ann@x"), ("role", .string "guest")]) = .ok _ := rfl
  exact ⟨_, hclause, rfl, (fragments_nodup_iff ht update).2.1.2 hseparates _ _ hclause, hseparates⟩

/-- A login that is stored in the column of the email passes as a field of its own: an insertion and
an update of both name the column twice. -/
theorem email_column_twice :
    ∃ s : Schema,
      ({ name := "accounts"
         fields := [{ name := "id", type := .int }, { name := "email" },
           { name := "login", column := some "email" }] } : SchemaDecl).build = .ok s ∧
      ∀ w : Writing, ∃ c,
        w.clause s.toTable (.object [("email", .string "a@x"), ("login", .string "b")]) = .ok c ∧
          c.fragments = ["\"email\"", "\"email\""] ∧ ¬ c.fragments.Nodup := by
  refine ⟨_, rfl, fun w ↦ ?_⟩
  cases w with
  | insert => exact ⟨_, rfl, rfl, by decide⟩
  | update => exact ⟨_, rfl, rfl, by decide⟩

end Writing

end SchemaSql
