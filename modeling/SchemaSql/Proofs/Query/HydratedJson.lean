import SchemaSql.Proofs.Query.RowLayout
import SchemaSql.Proofs.Row.RecordJson

/-!
# Hydrated rows as JSON

A row that a plan hydrates becomes an object with one member for each selected field of the first
table and one for each join. As fields and joins of a declared schema differ in name, no member takes
the place of another, and none has the name of a field that is not selected.
-/

namespace SchemaSql

/-- Selected fields and joins of a declared schema differ in name. -/
theorem Schema.Declared.shown_names_nodup {s : Schema} (h : s.Declared) :
    (s.selected.map Field.name ++ s.joins.map Join.name).Nodup := by
  refine List.nodup_append.2 ⟨h.table_declared.selected_nodup, h.join_names_nodup, ?_⟩
  intro name hname other hother hsame
  obtain ⟨f, hf, rfl⟩ := List.mem_map.1 hname
  obtain ⟨j, hj, rfl⟩ := List.mem_map.1 hother
  exact h.join_name_ne hj (List.mem_filter.1 hf).1 hsame.symm

namespace JoinPlan

variable {p : JoinPlan} {row : List Json} {record : Record}

/-- The names of a hydrated record are those of the selected fields and of the joins. -/
theorem names_of_hydrate (h : (p.hydrate row).2 = .ok record) :
    record.names = p.schema.selected.map Field.name ++ p.schema.joins.map Join.name := by
  obtain ⟨slice, root, _, hroot, hvalues, hjoins⟩ := parts_of_hydrate h
  have hjoined : record.joins.map Prod.fst = p.schema.joins.map Join.name :=
    Outcome.map_eq_map_of_forall₂ (f := Join.name) (g := Prod.fst)
      (fun _ _ hj ↦ (joined_of_hydrateJoin hj).1) hjoins
  rw [Record.names, hvalues, Table.names_of_hydrate hroot, hjoined]

/-- A joined record has the names of the selected fields of its table, and shows its slice. -/
theorem shows_of_joined {t : Table} (ht : t.Declared) {slice : List Json}
    (h : t.hydrate slice = .ok record) :
    record.toJson.HasKeys (t.selected.map Field.name) ∧ t.Shows slice record := by
  obtain ⟨_, hjoins, _⟩ := Table.decodes_of_hydrate h
  have hnames : record.names = t.selected.map Field.name := by
    rw [Record.names, Table.names_of_hydrate h, hjoins, List.map_nil, List.append_nil]
  have hnodup : record.names.Nodup := hnames ▸ ht.selected_nodup
  refine ⟨hnames ▸ Record.hasKeys_toJson hnodup, ?_⟩
  exact Table.shows_of_hydrate ht h rfl hnodup (by simp [hjoins])

/-- The object of a hydrated row has the names of the selected fields and of the joins as its keys,
each once, so that no member takes the place of another. Under the name of a field it has what the
record has: what the field makes of the value at its place. Under the name of a join it has null if
the join found no row, and else the object of the joined record, whose keys are the names of the
selected fields of its own table. In neither object there is a member under the name of a field
that is not selected. -/
theorem hydrated_json (hs : p.schema.Declared) (h : (p.hydrate row).2 = .ok record) :
    record.toJson.HasKeys (p.schema.selected.map Field.name ++ p.schema.joins.map Join.name) ∧
      (∃ slice, (p.hydrate row).1.cursor.values rootSlice = .ok slice ∧
        p.schema.Shows slice record) ∧
      ∀ j ∈ p.schema.joins, ∃ slice, (p.hydrate row).1.cursor.values j.name = .ok slice ∧
        (isUnmatched slice = true ∧ record.join? j.name = none ∧
            record.toJson.get? j.name = some .null ∨
          isUnmatched slice = false ∧ ∃ joined, record.join? j.name = some joined ∧
            record.toJson.get? j.name = some joined.toJson ∧
            joined.toJson.HasKeys (j.table.selected.map Field.name) ∧
            j.table.Shows slice joined) := by
  have hnames := names_of_hydrate h
  have hnodup : record.names.Nodup := hnames ▸ hs.shown_names_nodup
  obtain ⟨slice, root, hslice, hroot, hvalues, hjoins⟩ := parts_of_hydrate h
  refine ⟨hnames ▸ Record.hasKeys_toJson hnodup, ⟨slice, hslice, ?_⟩, ?_⟩
  · apply Table.shows_of_hydrate hs.table_declared hroot hvalues hnodup
    intro f hf hmem
    obtain ⟨joined, hjoined, hname⟩ := List.mem_map.1 hmem
    obtain ⟨j, hj, hread⟩ := Outcome.exists_mem_of_forall₂ hjoins.flip hjoined
    exact hs.join_name_ne hj hf ((joined_of_hydrateJoin hread).1.symm.trans hname)
  · intro j hj
    obtain ⟨⟨name, joined⟩, hmem, hread⟩ := Outcome.exists_mem_of_forall₂ hjoins hj
    obtain ⟨rfl, slice, hslice, hcases⟩ := joined_of_hydrateJoin hread
    have hjoin := Record.join?_of_mem_joins hnodup hmem
    have hget := Record.get?_toJson_of_mem_joins hnodup hmem
    refine ⟨slice, hslice, ?_⟩
    rcases hcases with ⟨hnone, rfl⟩ | ⟨hsome, r, rfl, hr⟩
    · exact .inl ⟨hnone, hjoin, hget⟩
    · exact .inr ⟨hsome, r, hjoin, hget, shows_of_joined (hs.joins_declared j hj) hr⟩

/-- An account in a team, without its password. -/
theorem hydrated_json_accounts :
    ∃ record,
      ((ofSchema .accounts none).hydrate [.int 1, .string "ann@x", .string "admin",
        .array [.int 1, .null], .int 3, .int 3, .string "red"]).2 = .ok record ∧
      record.toJson.HasKeys ["id", "email", "role", "levels", "team_id", "team"] ∧
      record.toJson.get? "password" = none := by
  have h : ((ofSchema .accounts none).hydrate [.int 1, .string "ann@x", .string "admin",
      .array [.int 1, .null], .int 3, .int 3, .string "red"]).2 = .ok _ := rfl
  obtain ⟨hkeys, ⟨_, _, hshows⟩, _⟩ := hydrated_json Schema.accounts_declared h
  exact ⟨_, h, hkeys, hshows.hides _ (.tail _ (.tail _ (.head _))) rfl⟩

end JoinPlan

end SchemaSql
