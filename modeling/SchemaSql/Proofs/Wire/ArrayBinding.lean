import SchemaSql.Proofs.Outcome
import SchemaSql.Proofs.Sql.ArrayText
import SchemaSql.Proofs.Schema.Declared
import SchemaSql.Schema.Coercion
import SchemaSql.Wire.Encoding

/-!
# Binding arrays

The elements of an array field travel to the server within one literal. Binding the literal takes
it apart into the very texts that it was made of, so that each element is bound as it would be
alone, and the bytes of the array are those of its elements behind a header.
-/

namespace SchemaSql

/-! ## Elements -/

theorem Json.isNull_iff {v : Json} : v.isNull = true ↔ v = .null := by
  cases v with
  | null => exact ⟨fun _ ↦ rfl, fun _ ↦ rfl⟩
  | bool | number | string | array | object => exact ⟨nofun, nofun⟩

namespace Field

theorem cast_eq_ok_iff {f : Field} {v : Json} {text : String} :
    f.cast v = .ok text ↔ f.type.cast v = .ok text := by
  rw [cast]
  cases f.type.cast v with
  | error fault => simp [fails]
  | ok text => simp

/-- A value is bound as null, or as its text under the type of the field. -/
theorem cast_of_coerceScalar {f : Field} {v : Json} {q : Param} (h : f.coerceScalar v = .ok q) :
    v = .null ∧ q = .null ∨
      v ≠ .null ∧ ∃ text, f.type.cast v = .ok text ∧ q = .text (f.encode text) := by
  unfold coerceScalar at h
  split at h
  · rename_i hnull
    split at h
    · exact .inl ⟨Json.isNull_iff.1 hnull, (Except.ok.inj h).symm⟩
    · cases h
  · rename_i hgiven
    obtain ⟨text, htext, h⟩ := Outcome.bind_eq_ok_iff.1 h
    refine .inr ⟨mt Json.isNull_iff.2 hgiven, text, cast_eq_ok_iff.1 htext, ?_⟩
    split at h
    · exact (Except.ok.inj h).symm
    · cases h

/-- A list that suits an array field becomes the literal of its coerced elements. -/
theorem coerce_array {f : Field} (harray : f.isArray = true) {xs : List Json} {p : Param}
    (h : f.coerce (.array xs) = .ok p) :
    ∃ params, xs.mapM f.coerceScalar = .ok params ∧
      p = .text (ArrayLiteral.write (params.map Param.toOption)) := by
  have hlist : f.coerce (.array xs) = do
      let params ← xs.mapM f.coerceScalar
      return .text (ArrayLiteral.write (params.map Param.toOption)) := by
    rw [coerce, harray]
    rfl
  rw [hlist] at h
  obtain ⟨params, hparams, h⟩ := Outcome.bind_eq_ok_iff.1 h
  exact ⟨params, hparams, (Except.ok.inj h).symm⟩

/-- An array field takes nothing but lists, and null where it may be null. -/
theorem eq_null_or_array_of_coerce {f : Field} (harray : f.isArray = true) {v : Json} {p : Param}
    (h : f.coerce v = .ok p) : v = .null ∧ p = .null ∨ ∃ xs, v = .array xs := by
  cases v with
  | null =>
    rw [coerce, harray] at h
    cases hnull : f.nullable with
    | true =>
      rw [hnull] at h
      exact .inl ⟨rfl, (Except.ok.inj h).symm⟩
    | false =>
      rw [hnull] at h
      cases h
  | array xs => exact .inr ⟨xs, rfl⟩
  | bool b =>
    rw [coerce, harray] at h
    cases h
  | number n =>
    rw [coerce, harray] at h
    cases h
  | string s =>
    rw [coerce, harray] at h
    cases h
  | object ms =>
    rw [coerce, harray] at h
    cases h

end Field

namespace Wire

/-- A literal is bound by binding each element that it is read as. -/
theorem encodeText_array (id : TypeId) (element : WireType) {text : String}
    {es : List (Option String)} (hes : ArrayLiteral.read? text = some es) :
    encodeText (.array id element) text = do
      let cells ← (es.map Param.ofOption).mapM (encode element)
      return arrayBytes id element.id cells := by
  rw [encodeText, hes, List.mapM_map]
  dsimp only
  congr 2
  funext e
  cases e <;> rfl

/-- Binding the literal of some elements binds each of them. -/
theorem encode_array_write (id : TypeId) (element : WireType) (params : List Param) :
    encode (.array id element) (.text (ArrayLiteral.write (params.map Param.toOption))) = do
      let cells ← params.mapM (encode element)
      return some (arrayBytes id element.id cells) := by
  have hparams : (params.map Param.toOption).map Param.ofOption = params := by
    simp [Function.comp_def]
  rw [encode, encodeText_array id element (ArrayLiteral.read?_write _), hparams]
  cases params.mapM (encode element) <;> rfl

/-- Nothing but null is bound to no bytes. -/
theorem encode_eq_none_iff {t : WireType} {q : Param} {cell : Option Bytes}
    (h : encode t q = .ok cell) : cell = none ↔ q = .null := by
  cases q with
  | null =>
    obtain rfl := Except.ok.inj h
    simp
  | text s =>
    rw [encode] at h
    cases htext : encodeText t s with
    | error fault =>
      rw [htext] at h
      cases h
    | ok bytes =>
      rw [htext] at h
      obtain rfl := Except.ok.inj h
      simp

theorem any_isNone_iff {t : WireType} {params : List Param} {cells : List (Option Bytes)}
    (h : List.Forall₂ (fun q cell ↦ encode t q = .ok cell) params cells) :
    cells.any Option.isNone = true ↔ .null ∈ params := by
  induction h with
  | nil => simp
  | @cons q cell params cells hq _ ih =>
    rw [List.any_cons, Bool.or_eq_true, Option.isNone_iff_eq_none, encode_eq_none_iff hq, ih,
      List.mem_cons, eq_comm]

/-! ## Arrays -/

/-- The literal that an array field makes of a list binds to an array type exactly if each coerced
element binds to the type of the elements. Its bytes are then a header for one dimension and the
bytes of the elements, each after its length. -/
theorem array_binding {f : Field} (harray : f.isArray = true) {xs : List Json} {p : Param}
    (hok : f.coerce (.array xs) = .ok p) (id : TypeId) (element : WireType) :
    ∃ params, List.Forall₂ (fun x q ↦ f.coerceScalar x = .ok q) xs params ∧
      ((∃ cell, encode (.array id element) p = .ok cell) ↔
        ∀ q ∈ params, ∃ cell, encode element q = .ok cell) ∧
      ∀ cells, List.Forall₂ (fun q cell ↦ encode element q = .ok cell) params cells →
        encode (.array id element) p = .ok (some (
          signedBytes 4 1 ++ signedBytes 4 (if .null ∈ params then 1 else 0) ++
            bigEndian 4 element.id.oid ++ signedBytes 4 xs.length ++
            bigEndian 4 (WireType.firstIndex id) ++ cells.flatMap lengthPrefixed)) := by
  obtain ⟨params, hparams, rfl⟩ := Field.coerce_array harray hok
  have hcoerced := Outcome.mapM_eq_ok_iff.1 hparams
  refine ⟨params, hcoerced, ?_, ?_⟩
  · rw [encode_array_write, ← Outcome.exists_mapM_eq_ok_iff]
    constructor
    · rintro ⟨cell, hcell⟩
      obtain ⟨cells, hcells, _⟩ := Outcome.bind_eq_ok_iff.1 hcell
      exact ⟨cells, hcells⟩
    · rintro ⟨cells, hcells⟩
      exact ⟨_, Outcome.bind_eq_ok_iff.2 ⟨cells, hcells, rfl⟩⟩
  · intro cells hcells
    have hcount : xs.length = cells.length := hcoerced.length_eq.trans hcells.length_eq
    have hnull : (if cells.any Option.isNone then 1 else 0 : Int) =
        if .null ∈ params then 1 else 0 := by
      simp only [any_isNone_iff hcells]
    rw [encode_array_write, Outcome.mapM_eq_ok_iff.2 hcells, hcount, ← hnull]
    rfl

/-- Texts that have to be quoted, and an absent one, under an array of texts. -/
theorem array_binding_texts :
    ∃ (f : Field) (p : Param), f.isArray = true ∧
      f.coerce (.array [.string "a,b", .null, .string "null"]) = .ok p ∧
      ∃ cell, encode (.array ⟨"_text", builtinSpace, 1009⟩ (.scalar .text)) p = .ok cell := by
  let f : Field :=
    { Field.plain ⟨"tags", by decide⟩ .string with isArray := true, nullable := true }
  have hok : f.coerce (.array [.string "a,b", .null, .string "null"]) = .ok _ := rfl
  obtain ⟨params, hparams, hiff, _⟩ :=
    array_binding (f := f) rfl hok ⟨"_text", builtinSpace, 1009⟩ (.scalar .text)
  refine ⟨f, _, rfl, hok, hiff.2 ?_⟩
  intro q _
  cases q with
  | null => exact ⟨_, rfl⟩
  | text s => exact ⟨_, rfl⟩

end Wire

end SchemaSql
