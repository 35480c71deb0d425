import SchemaSql.Proofs.Json.Members
import SchemaSql.Proofs.Row.Reading

/-!
# Records as objects

The object of a record is made from its values and its joins, one after another, so that a name
that came twice would be kept once. Where the names differ, nothing is lost: the object has one
member under each name, and under it what the record has.
-/

namespace SchemaSql

/-- The value is an object with these keys, each of them once. -/
def Json.HasKeys (v : Json) (keys : List String) : Prop :=
  keys.Nodup ∧ ∃ members, v = .object members ∧ (members.map Prod.fst).Perm keys

namespace Json.HasKeys

variable {v : Json} {keys : List String}

/-- Nothing is found under a further key. -/
theorem get?_eq_none (h : v.HasKeys keys) {key : String} (hkey : key ∉ keys) :
    v.get? key = none := by
  obtain ⟨_, members, rfl, hperm⟩ := h
  rw [get?, List.lookup_eq_none_iff]
  intro m hm
  have hmem : m.1 ∈ keys := hperm.mem_iff.1 (List.mem_map_of_mem hm)
  exact bne_iff_ne.2 fun hsame ↦ hkey (hsame ▸ hmem)

theorem ofMembers {members : List (String × Json)} (h : (members.map Prod.fst).Nodup) :
    (ofMembers members).HasKeys (members.map Prod.fst) := by
  obtain ⟨sorted, hsorted, hperm⟩ := exists_ofMembers_perm h
  exact ⟨h, sorted, hsorted, hperm.map Prod.fst⟩

end Json.HasKeys

namespace Record

def joinedJson (joined : Option Record) : Json :=
  joined.elim .null toJson

theorem joinMembers_eq (joins : List (String × Option Record)) :
    joinMembers joins = joins.map fun j ↦ (j.1, joinedJson j.2) := by
  induction joins with
  | nil => rfl
  | cons j joins ih =>
    obtain ⟨name, joined⟩ := j
    cases joined with
    | none => rw [joinMembers, ih, List.map_cons, joinedJson, Option.elim_none]
    | some r => rw [joinMembers, ih, List.map_cons, joinedJson, Option.elim_some]

def names (r : Record) : List String :=
  r.values.map Prod.fst ++ r.joins.map Prod.fst

def members (r : Record) : List (String × Json) :=
  r.values ++ r.joins.map fun j ↦ (j.1, joinedJson j.2)

theorem toJson_eq (r : Record) : r.toJson = .ofMembers r.members := by
  obtain ⟨values, joins⟩ := r
  rw [toJson, joinMembers_eq, members]

theorem map_fst_members (r : Record) : r.members.map Prod.fst = r.names := by
  rw [members, List.map_append, List.map_map, names]
  rfl

variable {r : Record}

section

variable (hnames : r.names.Nodup)
include hnames

theorem hasKeys_toJson : r.toJson.HasKeys r.names := by
  rw [toJson_eq, ← map_fst_members]
  exact .ofMembers (r.map_fst_members.symm ▸ hnames)

/-- Under the name of a value the object has the value. -/
theorem get?_toJson_of_get? {name : String} {v : Json} (h : r.get? name = some v) :
    r.toJson.get? name = some v := by
  rw [toJson_eq]
  apply Json.get?_ofMembers_of_mem (r.map_fst_members.symm ▸ hnames)
  exact List.mem_append_left _ (mem_of_lookup_eq_some h)

/-- Under the name of a join the object has the object of the joined record, or null. -/
theorem get?_toJson_of_mem_joins {name : String} {joined : Option Record}
    (h : (name, joined) ∈ r.joins) : r.toJson.get? name = some (joinedJson joined) := by
  rw [toJson_eq]
  apply Json.get?_ofMembers_of_mem (r.map_fst_members.symm ▸ hnames)
  exact List.mem_append_right _ (List.mem_map_of_mem (f := fun j ↦ (j.1, joinedJson j.2)) h)

/-- The joined record of a name is the one that was attached under it. -/
theorem join?_of_mem_joins {name : String} {joined : Option Record}
    (h : (name, joined) ∈ r.joins) : r.join? name = joined := by
  have hnodup : (r.joins.map Prod.fst).Nodup := (List.nodup_append.1 hnames).2.1
  rw [join?, lookup_eq_some_of_mem hnodup h]
  rfl

end

end Record

namespace Table

/-- A record of a slice shows it to the outside: under the name of each selected field there is what
the field makes of the value at its place in the slice, in the record as in its object, and nothing
under the name of a field that is not selected. -/
structure Shows (t : Table) (slice : List Json) (record : Record) : Prop where
  reads : ∀ (i : Nat) (f : Field), t.selected[i]? = some f →
    ∃ raw v, slice[i]? = some raw ∧ f.decode raw = .ok v ∧ record.get? f.name = some v ∧
      record.toJson.get? f.name = some v
  hides : ∀ f ∈ t.fields, f.selectable = false → record.toJson.get? f.name = none

variable {t : Table}

/-- A field that is not selected has none of the selected names. -/
theorem Declared.name_not_mem_selected (h : t.Declared) {f : Field} (hf : f ∈ t.fields)
    (hhidden : f.selectable = false) : f.name ∉ t.selected.map Field.name := by
  intro hmem
  obtain ⟨g, hg, hsame⟩ := List.mem_map.1 hmem
  obtain ⟨hg, hselected⟩ := List.mem_filter.1 hg
  rw [List.inj_on_of_nodup_map h.names_nodup hg hf hsame, hhidden] at hselected
  cases hselected

/-- A record with the values of a hydrated slice shows the slice, if its joins have none of the
names of the table. -/
theorem shows_of_hydrate (ht : t.Declared) {slice : List Json} {root record : Record}
    (h : t.hydrate slice = .ok root) (hvalues : record.values = root.values)
    (hnames : record.names.Nodup)
    (hfresh : ∀ f ∈ t.fields, f.name ∉ record.joins.map Prod.fst) : t.Shows slice record := by
  obtain ⟨hwide, _, _⟩ := decodes_of_hydrate h
  refine ⟨?_, ?_⟩
  · intro i f hf
    have hi : i < t.width := (List.getElem?_eq_some_iff.1 hf).1
    have hraw := List.getElem?_eq_getElem (Nat.lt_of_lt_of_le hi hwide)
    obtain ⟨v, hdecode, _, hget⟩ := get?_of_hydrate ht h hf hraw
    have hgiven : record.get? f.name = some v := by rwa [Record.get?, hvalues]
    exact ⟨_, v, hraw, hdecode, hgiven, Record.get?_toJson_of_get? hnames hgiven⟩
  · intro f hf hhidden
    apply (Record.hasKeys_toJson hnames).get?_eq_none
    rw [Record.names, hvalues, names_of_hydrate h, List.mem_append]
    rintro (hmem | hmem)
    · exact ht.name_not_mem_selected hf hhidden hmem
    · exact hfresh f hf hmem

end Table

end SchemaSql
