import SchemaSql.Proofs.Json.Members
import SchemaSql.Proofs.Outcome
import SchemaSql.Proofs.Schema.Declared
import SchemaSql.Row.Hydration

/-!
# Reading rows by their layout

A record is read from a row at some place if the value of each selected field is what the field
makes of the value at its own column's position, counted from that place.
-/

namespace SchemaSql

namespace Field

/-- Only a text is taken for a literal. -/
theorem splitArray_self (f : Field) {v : Json} (hv : ∀ text, v ≠ .string text) :
    f.splitArray v = .ok v := by
  unfold splitArray
  split
  · exact absurd rfl (hv _)
  · rfl

/-- Null is hydrated as null, and so is a list that comes as one. -/
theorem decode_self {f : Field} (hdecoder : f.decoder = none) {v : Json}
    (hv : ∀ text, v ≠ .string text) : f.decode v = .ok v := by
  have hread : f.readJson v = .ok v := by
    unfold readJson
    split
    · exact absurd rfl (hv _)
    · rfl
  rw [decode, hdecoder, f.splitArray_self hv]
  cases f.isArray with
  | true =>
    rw [if_pos rfl]
    cases f.type <;> rfl
  | false =>
    rw [if_neg (by decide)]
    cases f.type with
    | json => exact hread
    | string => rfl
    | int => rfl
    | float => rfl
    | bool => rfl
    | date => rfl

end Field

namespace Table

/-- The values of a record are those of the selected fields, each decoded from the position of a
row at which the list of its columns has the column of the field. -/
structure ReadsAt (t : Table) (columns : List String) (row : List Json) (start : Nat)
    (record : Record) : Prop where
  names : record.values.map Prod.fst = t.selected.map Field.name
  reads : ∀ (i : Nat) (f : Field), t.selected[i]? = some f →
    ∃ raw v, columns[start + i]? = some (t.columnOf f) ∧ row[start + i]? = some raw ∧
      f.decode raw = .ok v ∧ record.values[i]? = some (f.name, v) ∧ record.get? f.name = some v

@[simp] theorem length_selectColumns (t : Table) : t.selectColumns.length = t.width :=
  List.length_map t.columnOf

theorem Declared.selected_nodup {t : Table} (h : t.Declared) :
    (t.selected.map Field.name).Nodup :=
  h.names_nodup.sublist (List.filter_sublist.map Field.name)

end Table

/-- A value under a name that no other has is found under its name. -/
theorem Record.get?_of_mem {r : Record} (hnodup : (r.values.map Prod.fst).Nodup) {name : String}
    {v : Json} (h : (name, v) ∈ r.values) : r.get? name = some v :=
  lookup_eq_some_of_mem hnodup h

namespace Table

/-- What a slice is hydrated as has a decoded value for each selected field. -/
theorem decodes_of_hydrate {t : Table} {slice : List Json} {record : Record}
    (h : t.hydrate slice = .ok record) :
    t.width ≤ slice.length ∧ record.joins = [] ∧
      List.Forall₂ (fun a b ↦ b.1 = a.1.name ∧ a.1.decode a.2 = .ok b.2) (t.selected.zip slice)
        record.values := by
  unfold hydrate at h
  split at h
  · cases h
  · rename_i hwide
    obtain ⟨values, hvalues, h⟩ := Outcome.bind_eq_ok_iff.1 h
    obtain rfl := Except.ok.inj h
    refine ⟨Nat.le_of_not_lt hwide, rfl, (Outcome.mapM_eq_ok_iff.1 hvalues).imp ?_⟩
    intro a b hab
    obtain ⟨v, hv, hab⟩ := Outcome.bind_eq_ok_iff.1 hab
    obtain rfl := Except.ok.inj hab
    exact ⟨rfl, hv⟩

/-- A record has the names of the selected fields, in their order. -/
theorem names_of_hydrate {t : Table} {slice : List Json} {record : Record}
    (h : t.hydrate slice = .ok record) :
    record.values.map Prod.fst = t.selected.map Field.name := by
  obtain ⟨hwide, _, hdecodes⟩ := decodes_of_hydrate h
  have hzip : (t.selected.zip slice).map (fun a ↦ a.1.name) = record.values.map Prod.fst := by
    rw [← List.forall₂_eq_eq_eq, List.forall₂_map_left_iff, List.forall₂_map_right_iff]
    apply hdecodes.imp
    intro a b hab
    exact hab.1.symm
  calc
    record.values.map Prod.fst =
        ((t.selected.zip slice).map Prod.fst).map Field.name := by
      rw [← hzip, List.map_map]
      rfl
    _ = t.selected.map Field.name := by rw [List.map_fst_zip hwide]

/-- Under the name of a field a record has what the field makes of the value at its place. -/
theorem get?_of_hydrate {t : Table} (hdeclared : t.Declared) {slice : List Json} {record : Record}
    (h : t.hydrate slice = .ok record) {i : Nat} {f : Field} {raw : Json}
    (hf : t.selected[i]? = some f) (hraw : slice[i]? = some raw) :
    ∃ v, f.decode raw = .ok v ∧ record.values[i]? = some (f.name, v) ∧
      record.get? f.name = some v := by
  obtain ⟨_, _, hdecodes⟩ := decodes_of_hydrate h
  have hpair : (t.selected.zip slice)[i]? = some (f, raw) := by
    rw [List.getElem?_zip_eq_some]
    exact ⟨hf, hraw⟩
  obtain ⟨⟨name, v⟩, hvalue, hname, hdecode⟩ :=
    Outcome.exists_getElem?_of_forall₂ hdecodes hpair
  dsimp only at hname hdecode
  subst hname
  have hnodup : (record.values.map Prod.fst).Nodup :=
    names_of_hydrate h ▸ hdeclared.selected_nodup
  exact ⟨v, hdecode, hvalue, Record.get?_of_mem hnodup (List.mem_of_getElem? hvalue)⟩

/-- What a slice is hydrated as is read from the place in the row at which the slice begins. -/
theorem readsAt_of_hydrate {t : Table} (hdeclared : t.Declared) {columns : List String}
    {row : List Json} {start : Nat} {record : Record}
    (hcovers : (columns.drop start).take t.width = t.selectColumns)
    (h : t.hydrate ((row.drop start).take t.width) = .ok record) :
    t.ReadsAt columns row start record := by
  obtain ⟨hwide, _, _⟩ := decodes_of_hydrate h
  refine ⟨names_of_hydrate h, ?_⟩
  intro i f hf
  have hi : i < t.width := (List.getElem?_eq_some_iff.1 hf).1
  have hcolumn : columns[start + i]? = some (t.columnOf f) := by
    have hselected : t.selectColumns[i]? = some (t.columnOf f) := by
      rw [selectColumns, List.getElem?_map, hf]
      rfl
    rwa [← hcovers, List.getElem?_take_of_lt hi, List.getElem?_drop] at hselected
  have hlong : i < ((row.drop start).take t.width).length := Nat.lt_of_lt_of_le hi hwide
  have hraw := List.getElem?_eq_getElem hlong
  obtain ⟨v, hdecode, hvalue, hget⟩ := get?_of_hydrate hdeclared h hf hraw
  rw [List.getElem?_take_of_lt hi, List.getElem?_drop] at hraw
  exact ⟨_, v, hcolumn, hraw, hdecode, hvalue, hget⟩

end Table

end SchemaSql
