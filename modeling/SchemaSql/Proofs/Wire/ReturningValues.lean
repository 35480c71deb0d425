import SchemaSql.Proofs.Wire.ArrayBinding
import SchemaSql.Proofs.Wire.ScalarValues

/-!
# Values that come back

Binding and reading undo each other on the types that are built from texts, integers, truth values,
identifiers, dates and enumerations by domains and arrays: the value that is read from the bytes of
a text gives the same bytes when it is bound. The two follow the type side by side, so that this is
an induction on the type; for an array its elements come back one by one, and null with them.
-/

namespace SchemaSql.Wire

/-- The scalar types all of whose values come back. -/
def faithfulScalars : List Scalar :=
  [.text, .varchar, .bpchar, .name, .int2, .int4, .int8, .bool, .uuid, .date, .timestamp,
    .timestamptz]

/-- The types that are built from these and from enumerations. -/
inductive Faithful : WireType → Prop where
  | scalar {s : Scalar} (h : s ∈ faithfulScalars) : Faithful (.scalar s)
  | enum (id : TypeId) (labels : List String) : Faithful (.enum id labels)
  | domain (id : TypeId) {base : WireType} (h : Faithful base) : Faithful (.domain id base)
  | array (id : TypeId) {element : WireType} (h : Faithful element) : Faithful (.array id element)

/-- Whether no moment within a text lies in a leap second, which the server does not count. -/
def avoidsLeapSeconds : WireType → String → Bool
  | .scalar .timestamp, text => (Moment.read? text).all fun m ↦ m.time.second < 60
  | .scalar .timestamptz, text => (Moment.read? text).all fun m ↦ m.time.second < 60
  | .domain _ base, text => avoidsLeapSeconds base text
  | .array _ element, text =>
    (ArrayLiteral.read? text).all fun es ↦ es.all fun e ↦ e.all (avoidsLeapSeconds element)
  | _, _ => true

/-! ## Scalars, enumerations and domains -/

theorem returns_of_mem {s : Scalar} (hs : s ∈ faithfulScalars) {text : String} {bytes : Bytes}
    (hsecond : avoidsLeapSeconds (.scalar s) text = true) (h : encodeScalar s text = .ok bytes) :
    Returns (.scalar s) bytes := by
  simp only [faithfulScalars, List.mem_cons, List.not_mem_nil, or_false] at hs
  rcases hs with rfl | rfl | rfl | rfl | rfl | rfl | rfl | rfl | rfl | rfl | rfl | rfl
  · exact returns_text (fun _ ↦ rfl) (fun _ _ ↦ rfl) h
  · exact returns_text (fun _ ↦ rfl) (fun _ _ ↦ rfl) h
  · exact returns_text (fun _ ↦ rfl) (fun _ _ ↦ rfl) h
  · exact returns_text (fun _ ↦ rfl) (fun _ _ ↦ rfl) h
  · exact returns_integer (fun _ ↦ rfl) (fun _ _ ↦ rfl) (by decide) (by decide) (by decide) h
  · exact returns_integer (fun _ ↦ rfl) (fun _ _ ↦ rfl) (by decide) (by decide) (by decide) h
  · exact returns_integer (fun _ ↦ rfl) (fun _ _ ↦ rfl) (by decide) (by decide) (by decide) h
  · exact returns_bool h
  · exact returns_uuid h
  · exact returns_date h
  · exact returns_timestamp (fun m hm ↦ by simpa [avoidsLeapSeconds, hm] using hsecond) h
  · exact returns_timestamptz (fun m hm ↦ by simpa [avoidsLeapSeconds, hm] using hsecond) h

theorem returns_enum {id : TypeId} {labels : List String} {text : String} {bytes : Bytes}
    (h : encodeText (.enum id labels) text = .ok bytes) : Returns (.enum id labels) bytes := by
  have hencode := h
  rw [encodeText] at h
  split at h
  · obtain rfl := Except.ok.inj h
    intro nested
    refine ⟨.string text, ?_, ?_⟩
    · rw [decode, decodeText, ofUtf8?_utf8]
      rfl
    · rw [Json.asParam, encode, hencode]
      rfl
  · cases h

/-- A domain reads and binds as its base does. -/
theorem Returns.domain {base : WireType} {bytes : Bytes} (h : Returns base bytes) (id : TypeId) :
    Returns (.domain id base) bytes := by
  intro nested
  obtain ⟨v, hdecode, hencode⟩ := h nested
  refine ⟨v, hdecode, ?_⟩
  rw [← hencode]
  cases v.asParam with
  | null => rfl
  | text s => rfl

/-! ## Arrays -/

/-- The elements of an array come back one by one. -/
theorem exists_values {element : WireType} {es : List (Option String)} {cells : List (Option Bytes)}
    (hcells : List.Forall₂ (fun e cell ↦ encode element (.ofOption e) = .ok cell) es cells)
    (hreturns : ∀ s b, some s ∈ es → some b ∈ cells → encodeText element s = .ok b →
      Returns element b) :
    ∃ vs, cells.mapM (decodeElement element) = .ok vs ∧
      (vs.map Json.asParam).mapM (encode element) = .ok cells := by
  induction hcells with
  | nil => exact ⟨[], rfl, rfl⟩
  | @cons e cell es cells hcell _ ih =>
    obtain ⟨vs, hread, hbind⟩ := ih fun s b hs hb ↦
      hreturns s b (List.mem_cons_of_mem e hs) (List.mem_cons_of_mem cell hb)
    have hv : ∃ v, decodeElement element cell = .ok v ∧ encode element v.asParam = .ok cell := by
      cases e with
      | none =>
        obtain rfl := Except.ok.inj hcell
        exact ⟨.null, rfl, rfl⟩
      | some s =>
        obtain ⟨b, hb, rfl⟩ := Outcome.map_eq_ok_iff.1 hcell
        exact hreturns s b List.mem_cons_self List.mem_cons_self hb true
    obtain ⟨v, hvalue, hparam⟩ := hv
    exact ⟨v :: vs,
      Outcome.mapM_eq_ok_iff.2 (.cons hvalue (Outcome.mapM_eq_ok_iff.1 hread)),
      Outcome.mapM_eq_ok_iff.2 (.cons hparam (Outcome.mapM_eq_ok_iff.1 hbind))⟩

theorem returns_array {id : TypeId} {element : WireType} {cells : List (Option Bytes)}
    {vs : List Json} (hsendable : Sendable (arrayBytes id element.id cells))
    (hread : cells.mapM (decodeElement element) = .ok vs)
    (hbind : (vs.map Json.asParam).mapM (encode element) = .ok cells) :
    Returns (.array id element) (arrayBytes id element.id cells) := by
  intro nested
  refine ⟨.array vs, ?_, ?_⟩
  · rw [decode_arrayBytes id element nested hsendable, hread]
    rfl
  · rw [Json.asParam, Json.asElements_eq, encode_array_write, hbind]
    rfl

/-! ## All types -/

theorem returns_of_faithful {t : WireType} (ht : Faithful t) {text : String} {bytes : Bytes}
    (hsecond : avoidsLeapSeconds t text = true) (h : encodeText t text = .ok bytes)
    (hsendable : Sendable bytes) : Returns t bytes := by
  -- The elements of an array have texts and bytes of their own.
  induction ht generalizing text bytes with
  | scalar hs => exact returns_of_mem hs hsecond h
  | enum id labels => exact returns_enum h
  | domain id _ ih => exact (ih hsecond h hsendable).domain id
  | @array id element _ ih =>
    cases hes : ArrayLiteral.read? text with
    | none =>
      rw [encodeText, hes] at h
      cases h
    | some es =>
      rw [encodeText_array id element hes] at h
      obtain ⟨cells, hcells, hbytes⟩ := Outcome.bind_eq_ok_iff.1 h
      obtain rfl := Except.ok.inj hbytes
      rw [List.mapM_map, Outcome.mapM_eq_ok_iff] at hcells
      rw [avoidsLeapSeconds, hes, Option.all_some, List.all_eq_true] at hsecond
      obtain ⟨vs, hread, hbind⟩ := exists_values hcells fun s b hs hb hencode ↦
        ih (hsecond (some s) hs) hencode ((fits_of_sendable hsendable).2 b hb)
      exact returns_array hsendable hread hbind

/-- Whatever bytes there are, reading a faithful type does not fail for the type. -/
theorem decode_ne_unsupported {t : WireType} (ht : Faithful t) (nested : Bool) (bytes : Bytes)
    (name : String) : decode t nested bytes ≠ .error (.unsupportedType name) := by
  have hmalformed {α : Type} (x : Option α) :
      orMalformed x ≠ .error (.unsupportedType name) := by
    cases x <;> simp [orMalformed]
  induction ht generalizing nested bytes with
  | scalar hs => exact hmalformed _
  | enum id labels => exact hmalformed _
  | domain id _ ih => exact ih nested bytes
  | array id _ ih =>
    intro hfail
    rw [decode_array] at hfail
    rcases Outcome.bind_eq_error_iff.1 hfail with hcells | ⟨cells, _, hfail⟩
    · exact hmalformed _ hcells
    · rcases Outcome.bind_eq_error_iff.1 hfail with hvalues | ⟨values, _, hdone⟩
      · obtain ⟨cell, _, hcell⟩ := Outcome.exists_of_mapM_eq_error hvalues
        cases cell with
        | none => cases hcell
        | some b => exact ih true b hcell
      · cases hdone

/-- The value that is read from the bytes of a text gives the same bytes when it is bound, and no
bytes are refused for their type. -/
theorem values_return {t : WireType} (ht : Faithful t) :
    (∀ text bytes, avoidsLeapSeconds t text = true →
      encode t (.text text) = .ok (some bytes) → Sendable bytes → ∀ nested,
        ∃ v, decode t nested bytes = .ok v ∧ encode t v.asParam = .ok (some bytes)) ∧
    ∀ nested bytes name, decode t nested bytes ≠ .error (.unsupportedType name) := by
  refine ⟨?_, decode_ne_unsupported ht⟩
  intro text bytes hsecond h hsendable
  obtain ⟨_, htext, hbytes⟩ := Outcome.map_eq_ok_iff.1 h
  obtain rfl := Option.some.inj hbytes
  exact returns_of_faithful ht hsecond htext hsendable

/-- An array of a domain over arrays of moments, with null in both: the moment lies before 2000,
between two microseconds, on a clock behind universal time. -/
theorem values_return_members :
    ∃ (t : WireType) (text : String) (bytes : Bytes) (v : Json), Faithful t ∧
      avoidsLeapSeconds t text = true ∧ encode t (.text text) = .ok (some bytes) ∧
      Sendable bytes ∧ decode t false bytes = .ok v ∧ encode t v.asParam = .ok (some bytes) := by
  let inner : WireType := .array ⟨"_timestamptz", builtinSpace, 1185⟩ (.scalar .timestamptz)
  let t : WireType :=
    .array ⟨"_span", "public", 16402⟩ (.domain ⟨"span", "public", 16401⟩ inner)
  let text : String :=
    ArrayLiteral.write [some (ArrayLiteral.write [some "1999-12-31T18:29:59.2500009-05:30", none]),
      none]
  have ht : Faithful t := .array _ (.domain _ (.array _ (.scalar (by decide))))
  have hsecond : avoidsLeapSeconds t text = true := by decide +kernel
  have hbound : (encode t (.text text)).toOption.join.any (fun b ↦ decide (Sendable b)) = true := by
    decide +kernel
  rcases hencode : encode t (.text text) with _ | _ | bytes
  · rw [hencode] at hbound
    cases hbound
  · rw [hencode] at hbound
    cases hbound
  · rw [hencode] at hbound
    have hsendable : Sendable bytes := of_decide_eq_true hbound
    obtain ⟨v, hdecode, hreturn⟩ :=
      (values_return ht).1 text bytes hsecond hencode hsendable false
    exact ⟨t, text, bytes, v, ht, hsecond, hencode, hsendable, hdecode, hreturn⟩

end SchemaSql.Wire
