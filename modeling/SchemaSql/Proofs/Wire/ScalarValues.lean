import SchemaSql.Proofs.Calendar.Instants
import SchemaSql.Proofs.Number.IntegerText
import SchemaSql.Proofs.Outcome
import SchemaSql.Proofs.Wire.ArrayBytes
import SchemaSql.Proofs.Wire.UuidText

/-!
# Binding what was read

The value that is read from a column can be bound again: a text is itself, a number or a truth
value its JSON text, and a list an array literal. A scalar value gives the bytes it was read from,
if these came from a text: a number is bound in one way only, and the text of a moment is that of
the microsecond its bytes count.
-/

namespace SchemaSql

/-! ## Values as parameters -/

namespace Json

mutual

def asParam : Json → Param
  | .null => .null
  | .string s => .text s
  | .array vs => .text (ArrayLiteral.write (asElements vs))
  | v => .text v.render

/-- The elements of the literal of a list; null is an absent one. -/
def asElements : List Json → List (Option String)
  | [] => []
  | v :: vs => v.asParam.toOption :: asElements vs

end

theorem asElements_eq (vs : List Json) :
    asElements vs = (vs.map asParam).map Param.toOption := by
  induction vs with
  | nil => rfl
  | cons v vs ih => rw [asElements, ih, List.map_cons, List.map_cons]

end Json

namespace Wire

/-- Whether bytes are read, alone and within an array, as a value that gives them when it is
bound. -/
def Returns (t : WireType) (bytes : Bytes) : Prop :=
  ∀ nested, ∃ v, decode t nested bytes = .ok v ∧ encode t v.asParam = .ok (some bytes)

theorem returns_of_scalar {s : Scalar} {bytes : Bytes} (v : Json) (text : String)
    (hdecode : ∀ nested, decodeScalar s nested bytes = some v) (hparam : v.asParam = .text text)
    (hencode : encodeScalar s text = .ok bytes) : Returns (.scalar s) bytes := by
  intro nested
  refine ⟨v, ?_, ?_⟩
  · rw [decode, hdecode nested, orMalformed]
  · rw [hparam, encode, encodeText, hencode]
    rfl

/-! ## Texts -/

theorem returns_text {s : Scalar} {text : String} {bytes : Bytes}
    (hencode : ∀ t, encodeScalar s t = .ok (utf8 t))
    (hdecode : ∀ nested b, decodeScalar s nested b = decodeText b)
    (h : encodeScalar s text = .ok bytes) : Returns (.scalar s) bytes := by
  rw [hencode] at h
  obtain rfl := Except.ok.inj h
  apply returns_of_scalar (.string text) text
  · intro nested
    rw [hdecode, decodeText, ofUtf8?_utf8, Option.map_some]
  · rfl
  · exact hencode text

/-! ## Integers -/

/-- An integer of a range that has so many bytes comes back from them, and its text gives them
again. -/
theorem returns_integer {s : Scalar} {range : IntegerRange} {width : Nat} {text : String}
    {bytes : Bytes} (hencode : ∀ t, encodeScalar s t = encodeInteger range width t)
    (hdecode : ∀ nested b, decodeScalar s nested b = decodeInteger width b)
    (hlow : -(bytePow width : Int) ≤ range.least * 2) (hhigh : range.greatest * 2 < bytePow width)
    (hzero : range.contains 0 = true) (h : encodeScalar s text = .ok bytes) :
    Returns (.scalar s) bytes := by
  rw [hencode, encodeInteger] at h
  split at h
  · rename_i i hread
    obtain rfl := Except.ok.inj h
    have hi := IntegerRange.contains_of_read hzero hread
    obtain ⟨hleast, hgreatest⟩ := IntegerRange.contains_iff.1 hi
    apply returns_of_scalar (.int i) (renderInteger i)
    · intro nested
      rw [hdecode, decodeInteger, if_pos (length_signedBytes width i),
        ofSignedBytes_signedBytes (by omega) (by omega)]
    · rfl
    · rw [hencode, encodeInteger, renderInteger, String.toList_ofList, trimBoth_writeInteger,
        IntegerRange.read_writeInteger hzero hi]
  · cases h

/-! ## Truth values -/

theorem returns_bool {text : String} {bytes : Bytes} (h : encodeScalar .bool text = .ok bytes) :
    Returns (.scalar .bool) bytes := by
  rw [encodeScalar] at h
  split at h
  · rename_i b _
    obtain rfl := Except.ok.inj h
    cases b with
    | true => exact returns_of_scalar (.bool true) "true" (fun _ ↦ rfl) rfl (by decide)
    | false => exact returns_of_scalar (.bool false) "false" (fun _ ↦ rfl) rfl (by decide)
  · cases h

/-! ## Identifiers -/

theorem returns_uuid {text : String} {bytes : Bytes} (h : encodeScalar .uuid text = .ok bytes) :
    Returns (.scalar .uuid) bytes := by
  rw [encodeScalar] at h
  split at h
  · rename_i u _
    obtain rfl := Except.ok.inj h
    apply returns_of_scalar (.string u.render) u.render
    · intro nested
      have hbytes : Uuid.ofBytes? u.bytes = some u := dif_pos u.sixteen
      rw [decodeScalar, hbytes, Option.map_some]
    · rfl
    · rw [encodeScalar, Uuid.trim_render, Uuid.read?_render]
  · cases h

/-! ## Dates and moments -/

theorem readMoment_eq_ok_iff (fault : String → BindFault) {text : String} {m : Moment} :
    readMoment fault text = .ok m ↔ Moment.read? text = some m := by
  rw [readMoment]
  split
  · rename_i hread
    rw [hread, Except.ok.injEq, Option.some.injEq]
  · rename_i hread
    simp [hread]

theorem returns_date {text : String} {bytes : Bytes} (h : encodeScalar .date text = .ok bytes) :
    Returns (.scalar .date) bytes := by
  obtain ⟨m, _, rfl⟩ := Outcome.map_eq_ok_iff.1 h
  obtain ⟨hlow, hhigh⟩ := m.date.number_bounds
  have hmillennium : Date.millennium = 730119 := rfl
  have hwidth : (bytePow 4 : Int) = 4294967296 := rfl
  have hnumber : Date.millennium + ofSignedBytes (signedBytes 4 (m.date.number - Date.millennium)) =
      m.date.number := by
    rw [ofSignedBytes_signedBytes (by omega) (by omega)]
    omega
  apply returns_of_scalar (.string (.ofList m.date.write)) (.ofList m.date.write)
  · intro nested
    rw [decodeScalar, if_pos (length_signedBytes 4 _), hnumber, Date.ofNumber?_number,
      Option.map_some]
  · rfl
  · have hread := (readMoment_eq_ok_iff .notDate).2 (Moment.read?_day m.date)
    rw [encodeScalar, hread]
    rfl

/-- The first instant of 2000 lies on a dated day. -/
theorem dated_millenniumNanos : Moment.Dated millenniumNanos :=
  ⟨⟨2000, 1, 1, by decide⟩, by decide⟩

/-- The microseconds that an instant is counted in lead to an instant between it and the beginning
of 2000, which is counted in as many. -/
theorem microsSinceMillennium_spec (n : Int) :
    microsSinceMillennium (microsSinceMillennium n * microNanos + millenniumNanos) =
        microsSinceMillennium n ∧
      (n ≤ microsSinceMillennium n * microNanos + millenniumNanos ∧
          microsSinceMillennium n * microNanos + millenniumNanos ≤ millenniumNanos ∨
        millenniumNanos ≤ microsSinceMillennium n * microNanos + millenniumNanos ∧
          microsSinceMillennium n * microNanos + millenniumNanos ≤ n) := by
  have hmicro : microNanos = 1000 := rfl
  constructor
  · have hback (micros : Int) : microsSinceMillennium (micros * microNanos + millenniumNanos) =
        micros := by
      rw [microsSinceMillennium, Int.add_sub_cancel]
      exact Int.mul_tdiv_cancel micros (by decide)
    exact hback _
  · rcases Int.le_total millenniumNanos n with hlate | hearly
    · right
      rw [microsSinceMillennium, Int.tdiv_eq_ediv_of_nonneg (by omega), hmicro]
      omega
    · left
      have hquotient : (n - millenniumNanos).tdiv microNanos =
          -((millenniumNanos - n) / microNanos) := by
        rw [← Int.tdiv_eq_ediv_of_nonneg (by omega), ← Int.neg_tdiv, Int.neg_sub]
      rw [microsSinceMillennium, hquotient, hmicro]
      omega

/-- The microseconds of a dated instant have 64 bits. -/
theorem microsSinceMillennium_bounds {n : Int} (h : Moment.Dated n) :
    -(bytePow 8 : Int) ≤ microsSinceMillennium n * 2 ∧
      microsSinceMillennium n * 2 < bytePow 8 := by
  obtain ⟨d, hd⟩ := h
  obtain ⟨hlow, hhigh⟩ := d.number_bounds
  have hspec := (microsSinceMillennium_spec n).2
  have hday : (ClockTime.dayNanos : Int) = 86400000000000 := rfl
  have hmicro : microNanos = 1000 := rfl
  have hmillennium : millenniumNanos = 63082281600000000000 := rfl
  have hwidth : (bytePow 8 : Int) = 18446744073709551616 := rfl
  rw [hday] at hd
  rw [hmicro, hmillennium] at hspec
  omega

theorem exists_decodeMoment {n : Int} (h : Moment.Dated n) (ahead : Option Int) :
    ∃ m : Moment, decodeMoment ahead (signedBytes 8 (microsSinceMillennium n)) =
        some (.string m.render) ∧
      m.ahead = ahead ∧ microsSinceMillennium m.clockNanos = microsSinceMillennium n := by
  obtain ⟨hsame, hbetween⟩ := microsSinceMillennium_spec n
  obtain ⟨hlow, hhigh⟩ := microsSinceMillennium_bounds h
  have hdated : Moment.Dated (microsSinceMillennium n * microNanos + millenniumNanos) := by
    rcases hbetween with ⟨hfirst, hlast⟩ | ⟨hfirst, hlast⟩
    · exact Moment.dated_of_between h dated_millenniumNanos hfirst hlast
    · exact Moment.dated_of_between dated_millenniumNanos h hfirst hlast
  obtain ⟨m, hm, hcount, hahead⟩ := Moment.exists_ofNanos? hdated ahead
  refine ⟨m, ?_, hahead, ?_⟩
  · rw [decodeMoment, if_pos (length_signedBytes 8 _), ofSignedBytes_signedBytes hlow hhigh]
    dsimp only
    rw [hm, Option.map_some]
  · rw [hcount, hsame]

/-- A moment is counted by one of its clocks, and comes back as that clock shows it, to the
microsecond. -/
theorem returns_moment {s : Scalar} {count : Moment → Int} {ahead : Option Int} {text : String}
    {bytes : Bytes}
    (hencode : ∀ t, encodeScalar s t = (readMoment .notTimestamp t).map fun m ↦
      signedBytes 8 (microsSinceMillennium (count m)))
    (hdecode : ∀ nested b, decodeScalar s nested b = decodeMoment ahead b)
    (hshown : ∀ m : Moment, m.ahead = ahead → m.Placed ∧ count m = m.clockNanos)
    (hdated : ∀ m : Moment, Moment.read? text = some m → Moment.Dated (count m))
    (h : encodeScalar s text = .ok bytes) : Returns (.scalar s) bytes := by
  rw [hencode] at h
  obtain ⟨m, hm, rfl⟩ := Outcome.map_eq_ok_iff.1 h
  have hread := (readMoment_eq_ok_iff _).1 hm
  obtain ⟨e, he, hahead, hsame⟩ := exists_decodeMoment (hdated m hread) ahead
  obtain ⟨hplaced, hcount⟩ := hshown e hahead
  apply returns_of_scalar (.string e.render) e.render
  · intro nested
    rw [hdecode, he]
  · rfl
  · have hback := (readMoment_eq_ok_iff .notTimestamp).2 (Moment.read?_render hplaced)
    rw [hencode, hback, ← hsame, ← hcount]
    rfl

section

variable {text : String} {bytes : Bytes}
  (hsecond : ∀ m, Moment.read? text = some m → m.time.second < 60)
include hsecond

/-- Without an offset it is the local clock that counts. -/
theorem returns_timestamp (h : encodeScalar .timestamp text = .ok bytes) :
    Returns (.scalar .timestamp) bytes := by
  apply returns_moment (fun _ ↦ rfl) (fun _ _ ↦ rfl) ?_ ?_ h
  · intro m hahead
    exact ⟨Moment.placed_of_none hahead, rfl⟩
  · intro m hm
    exact Moment.dated_clockNanos (hsecond m hm)

/-- With an offset it is the clock of universal time. -/
theorem returns_timestamptz (h : encodeScalar .timestamptz text = .ok bytes) :
    Returns (.scalar .timestamptz) bytes := by
  apply returns_moment (fun _ ↦ rfl) (fun _ _ ↦ rfl) ?_ ?_ h
  · intro m hahead
    refine ⟨Moment.placed_of_zero hahead, ?_⟩
    rw [Moment.universalNanos, hahead, Option.getD_some]
    omega
  · intro m hm
    exact Moment.dated_universalNanos (hsecond m hm) (Moment.placed_of_read? hm)

end

end Wire

end SchemaSql
