import SchemaSql.Proofs.Json.Reading
import SchemaSql.Proofs.Row.Reading
import SchemaSql.Proofs.Wire.ArrayBinding
import SchemaSql.Proofs.Wire.ArrayBytes
import SchemaSql.Wire.Row

/-!
# JSON columns

A JSON value is written as text, read and written again when it is bound, and read once more from
the row. As the compact text of a value is read as that value, it survives all of this. Alone it
comes back as its text, which hydration reads; within an array it comes back as it is, and
hydration leaves it alone.
-/

namespace SchemaSql.Wire

open SchemaSql.Field (decode_self)

/-- The two types whose columns hold JSON. -/
def IsJson (s : Scalar) : Prop :=
  s = .json ∨ s = .jsonb

/-- The text of a value binds to a type of JSON, and its bytes are read as the text again or, within
an array, as the value. -/
theorem exists_bytes_of_stored {s : Scalar} (hs : IsJson s) {v : Json}
    (hv : v.Stored Json.greatestDepth) :
    ∃ bytes, encodeText (.scalar s) v.render = .ok bytes ∧
      ∀ nested, decode (.scalar s) nested bytes = .ok (if nested then v else .string v.render) := by
  have hencode : encodeJson v.render = .ok (utf8 v.render) := by
    rw [encodeJson, Json.read?_render hv]
  have hdecode (nested : Bool) :
      decodeJson nested (utf8 v.render) = some (if nested then v else .string v.render) := by
    simp only [decodeJson, ofUtf8?_utf8, Json.read?_render hv, Option.bind_eq_bind,
      Option.bind_some, Option.pure_def]
  rcases hs with rfl | rfl
  · refine ⟨utf8 v.render, hencode, ?_⟩
    intro nested
    rw [decode, decodeScalar, hdecode, orMalformed]
  · refine ⟨jsonbVersion :: utf8 v.render, ?_, ?_⟩
    · rw [encodeText, encodeScalar, hencode]
      rfl
    · intro nested
      rw [decode, decodeScalar, if_pos rfl, hdecode, orMalformed]

/-! ## Fields -/

section

variable {f : Field} (htype : f.type = .json) (hencoder : f.encoder = none)
include htype hencoder

/-- A value of a JSON field is bound as null or as its compact text. -/
theorem param_of_coerceScalar {v : Json} {q : Param} (h : f.coerceScalar v = .ok q) :
    v = .null ∧ q = .null ∨ q = .text v.render := by
  rcases Field.cast_of_coerceScalar h with hnull | ⟨_, text, hcast, rfl⟩
  · exact .inl hnull
  · rw [htype, FieldType.cast] at hcast
    rw [Field.encode, hencoder, ← Except.ok.inj hcast]
    exact .inr rfl

/-- The bytes that a value of a JSON field is bound to are read as the value again. -/
theorem exists_cell_of_coerceScalar {s : Scalar} (hs : IsJson s) {v : Json}
    (hv : v.Stored Json.greatestDepth) {q : Param} (h : f.coerceScalar v = .ok q) :
    ∃ cell, encode (.scalar s) q = .ok cell ∧
      ((v = .null ∧ cell = none) ∨ ∃ bytes, cell = some bytes ∧ ∀ nested,
        decode (.scalar s) nested bytes = .ok (if nested then v else .string v.render)) := by
  rcases param_of_coerceScalar htype hencoder h with ⟨rfl, rfl⟩ | rfl
  · exact ⟨none, rfl, .inl ⟨rfl, rfl⟩⟩
  · obtain ⟨bytes, hbytes, hdecode⟩ := exists_bytes_of_stored hs hv
    refine ⟨some bytes, ?_, .inr ⟨bytes, rfl, hdecode⟩⟩
    rw [encode, hbytes]
    rfl

end

/-- The elements of an array of a JSON field are bound one by one and read as they were. -/
theorem exists_cells_of_coerces {f : Field} (htype : f.type = .json) (hencoder : f.encoder = none)
    {s : Scalar} (hs : IsJson s) {xs : List Json} (hxs : ∀ x ∈ xs, x.Stored Json.greatestDepth)
    {params : List Param} (h : List.Forall₂ (fun x q ↦ f.coerceScalar x = .ok q) xs params) :
    ∃ cells, params.mapM (encode (.scalar s)) = .ok cells ∧
      cells.mapM (decodeElement (.scalar s)) = .ok xs := by
  induction h with
  | nil => exact ⟨[], rfl, rfl⟩
  | @cons x q xs params hq _ ih =>
    obtain ⟨cells, hcells, hread⟩ := ih fun y hy ↦ hxs y (List.mem_cons_of_mem x hy)
    obtain ⟨cell, hcell, hvalue⟩ :=
      exists_cell_of_coerceScalar htype hencoder hs (hxs x List.mem_cons_self) hq
    have hx : decodeElement (.scalar s) cell = .ok x := by
      rcases hvalue with ⟨rfl, rfl⟩ | ⟨bytes, rfl, hbytes⟩
      · rfl
      · exact hbytes true
    exact ⟨cell :: cells,
      Outcome.mapM_eq_ok_iff.2 (.cons hcell (Outcome.mapM_eq_ok_iff.1 hcells)),
      Outcome.mapM_eq_ok_iff.2 (.cons hx (Outcome.mapM_eq_ok_iff.1 hread))⟩

/-! ## Columns -/

theorem value_eq_ok {c : Column} {bytes : Bytes} {v : Json}
    (h : decode c.type false bytes = .ok v) : c.value (some bytes) = .ok v := by
  rw [Column.value, h]

/-- The text of a value is hydrated as the value. -/
theorem decode_render {f : Field} (htype : f.type = .json) (hdecoder : f.decoder = none)
    (hscalar : f.isArray = false) {v : Json} (hv : v.Stored Json.greatestDepth) :
    f.decode (.string v.render) = .ok v := by
  have hread : f.readJson (.string v.render) = .ok v := by
    rw [Field.readJson, Json.read?_render hv]
  rw [Field.decode, hscalar, hdecoder, htype]
  exact hread

/-- A JSON value that a field accepts comes back from its column as it was, alone or as an element
of an array. -/
theorem json_survives {f : Field} (htype : f.type = .json) (hencoder : f.encoder = none)
    (hdecoder : f.decoder = none) {s : Scalar} (hs : s = .json ∨ s = .jsonb) (name : String) :
    (f.isArray = false → ∀ v p, v.Stored 127 → f.coerce v = .ok p →
      ∃ cell, encode (.scalar s) p = .ok cell ∧
        ∃ raw, Column.value ⟨name, .scalar s⟩ cell = .ok raw ∧ f.decode raw = .ok v) ∧
    (f.isArray = true → ∀ v p id, (∀ vs, v = .array vs → ∀ x ∈ vs, x.Stored 127) →
      f.coerce v = .ok p →
      ∃ cell, encode (.array id (.scalar s)) p = .ok cell ∧
        ((∀ bytes, cell = some bytes → Sendable bytes) →
          ∃ raw, Column.value ⟨name, .array id (.scalar s)⟩ cell = .ok raw ∧
            f.decode raw = .ok v)) := by
  refine ⟨?_, ?_⟩
  · intro hscalar v p hv hok
    rw [Field.coerce, hscalar] at hok
    obtain ⟨cell, hcell, hvalue⟩ := exists_cell_of_coerceScalar htype hencoder hs hv hok
    refine ⟨cell, hcell, ?_⟩
    rcases hvalue with ⟨rfl, rfl⟩ | ⟨bytes, rfl, hbytes⟩
    · exact ⟨.null, rfl, decode_self hdecoder (by simp)⟩
    · exact ⟨_, value_eq_ok (hbytes false), decode_render htype hdecoder hscalar hv⟩
  · intro harray v p id hv hok
    rcases Field.eq_null_or_array_of_coerce harray hok with ⟨rfl, rfl⟩ | ⟨xs, rfl⟩
    · exact ⟨none, rfl, fun _ ↦ ⟨.null, rfl, decode_self hdecoder (by simp)⟩⟩
    · obtain ⟨params, hparams, rfl⟩ := Field.coerce_array harray hok
      obtain ⟨cells, hcells, hread⟩ := exists_cells_of_coerces htype hencoder hs (hv xs rfl)
        (Outcome.mapM_eq_ok_iff.1 hparams)
      refine ⟨some (arrayBytes id (WireType.scalar s).id cells), ?_, ?_⟩
      · rw [encode_array_write, hcells]
        rfl
      · intro hsendable
        refine ⟨.array xs, value_eq_ok ?_, decode_self hdecoder (by simp)⟩
        rw [decode_arrayBytes id _ false (hsendable _ rfl), hread]
        rfl

/-- A value whose text has to be quoted within an array, alone and beside null. -/
theorem json_survives_members :
    ∃ (f g : Field) (v : Json) (id : TypeId), f.isArray = false ∧ g.isArray = true ∧
      v.Stored 127 ∧
      (∃ p cell raw, f.coerce v = .ok p ∧ encode (.scalar .jsonb) p = .ok cell ∧
        Column.value ⟨"data", .scalar .jsonb⟩ cell = .ok raw ∧ f.decode raw = .ok v) ∧
      ∃ p cell raw, g.coerce (.array [v, .null]) = .ok p ∧
        encode (.array id (.scalar .jsonb)) p = .ok cell ∧
        Column.value ⟨"data", .array id (.scalar .jsonb)⟩ cell = .ok raw ∧
        g.decode raw = .ok (.array [v, .null]) := by
  let f : Field := { Field.plain ⟨"data", by decide⟩ .json with nullable := true }
  let g : Field := { f with isArray := true }
  let v : Json := .object [("a", .array [.int (-1), .string "NULL"])]
  have hv : v.Stored 127 := by
    refine .object ?_ (by decide)
    rintro m hm
    obtain rfl := List.mem_singleton.1 hm
    refine .array fun x hx ↦ ?_
    rcases List.mem_pair.1 hx with rfl | rfl
    · exact .int ⟨by decide, by decide⟩
    · exact .string _
  have helements : ∀ vs, Json.array [v, .null] = .array vs → ∀ x ∈ vs, x.Stored 127 := by
    rintro _ ⟨⟩ x hx
    rcases List.mem_pair.1 hx with rfl | rfl
    · exact hv
    · exact .null
  have hscalar : f.coerce v = .ok _ := rfl
  have harray : g.coerce (.array [v, .null]) =
      .ok (.text (ArrayLiteral.write [some "\x7b\"a\":[-1,\"NULL\"]\x7d", none])) := rfl
  obtain ⟨cell, hcell, raw, hraw, hback⟩ :=
    (json_survives (f := f) rfl rfl rfl (.inr rfl) "data").1 rfl v _ hv hscalar
  obtain ⟨cells, hcells, hread⟩ :=
    (json_survives (f := g) rfl rfl rfl (.inr rfl) "data").2 rfl _ _
      ⟨"_jsonb", builtinSpace, 3807⟩ helements harray
  have hshort : (encode (.array ⟨"_jsonb", builtinSpace, 3807⟩ (.scalar .jsonb)) (.text
      (ArrayLiteral.write [some "\x7b\"a\":[-1,\"NULL\"]\x7d", none]))).toOption.join.all
        (fun bytes ↦ decide (Sendable bytes)) = true := by decide +kernel
  have hsendable : ∀ bytes, cells = some bytes → Sendable bytes := by
    rintro bytes rfl
    rw [hcells] at hshort
    exact of_decide_eq_true hshort
  obtain ⟨raws, hraws, hbacks⟩ := hread hsendable
  exact ⟨f, g, v, _, rfl, rfl, hv, ⟨_, cell, raw, hscalar, hcell, hraw, hback⟩,
    _, cells, raws, harray, hcells, hraws, hbacks⟩

end SchemaSql.Wire
