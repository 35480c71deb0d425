import SchemaSql.Proofs.Wire.ArrayBinding
import SchemaSql.Proofs.Wire.ScalarValues

/-!
# Dates under their canonical text

A date is accepted in many layouts, or as a number of seconds, and travels as the one text that it
is written as. This text is caught by the layout it was written in and by none before it, so that it
is read as the very moment that was accepted: writing it again changes nothing, and it is bound as
the day or the instant that the payload meant.
-/

namespace SchemaSql

namespace Moment

theorem ahead_of_ofNanos? {n : Int} {ahead : Option Int} {m : Moment}
    (h : ofNanos? n ahead = some m) : m.ahead = ahead := by
  obtain ⟨date, _, h⟩ := Option.bind_eq_some_iff.1 h
  obtain ⟨time, _, h⟩ := Option.bind_eq_some_iff.1 h
  exact (congrArg Moment.ahead (Option.some.inj h)).symm

/-- The moments that a value can stand for lie on a dated day of universal time. -/
theorem placed_of_toMoment? {v : Json} {m : Moment} (h : v.toMoment? = some m) : m.Placed := by
  cases v with
  | null | bool | array | object => cases h
  | string s => exact placed_of_read? h
  | number n =>
    unfold Json.toMoment? at h
    dsimp only at h
    split at h
    · exact placed_of_zero (ahead_of_ofNanos? h)
    · cases h

end Moment

namespace Field

/-- Values with the same text under the type are coerced alike. -/
theorem coerceScalar_congr {f : Field} {v w : Json} (hv : v.isNull = false)
    (hw : w.isNull = false) (h : f.type.cast v = f.type.cast w) :
    f.coerceScalar v = f.coerceScalar w := by
  rw [coerceScalar, coerceScalar, cast, cast, hv, hw, h]

end Field

namespace Wire

/-- A value that a date field accepts stands for a moment that its canonical text is read as: the
same date and time to the nanosecond, in a leap second too, on a clock of the same offset or of
none. Coercing the text gives what coercing the value gives, which is the text itself if nothing
encodes it, and the text is bound as the day of the moment, as the instant that its clock shows, and
as the instant of universal time. -/
theorem canonical_dates {v : Json} {m : Moment} (h : v.toMoment? = some m) :
    Moment.read? m.render = some m ∧
      (∀ f : Field, f.type = .date →
        f.coerceScalar (.string m.render) = f.coerceScalar v ∧
          ∀ p, f.encoder = none → f.coerceScalar v = .ok p → p = .text m.render) ∧
      encodeScalar .date m.render = .ok (signedBytes 4 (m.date.number - Date.millennium)) ∧
      encodeScalar .timestamp m.render =
        .ok (signedBytes 8 (microsSinceMillennium m.clockNanos)) ∧
      encodeScalar .timestamptz m.render =
        .ok (signedBytes 8 (microsSinceMillennium m.universalNanos)) := by
  have hread : Moment.read? m.render = some m :=
    Moment.read?_render (Moment.placed_of_toMoment? h)
  have hbound (fault : String → BindFault) : readMoment fault m.render = .ok m :=
    (readMoment_eq_ok_iff fault).2 hread
  have hgiven : v.isNull = false := by
    cases v with
    | null => cases h
    | bool | number | string | array | object => rfl
  refine ⟨hread, ?_, ?_, ?_, ?_⟩
  · intro f htype
    have hcast : f.type.cast v = .ok m.render := by rw [htype, FieldType.cast, h]
    have hagain : f.type.cast (.string m.render) = .ok m.render := by
      rw [htype, FieldType.cast, Json.toMoment?, hread]
    refine ⟨Field.coerceScalar_congr rfl hgiven (hagain.trans hcast.symm), ?_⟩
    intro p hencoder hp
    rcases Field.cast_of_coerceScalar hp with ⟨rfl, _⟩ | ⟨_, text, htext, rfl⟩
    · cases h
    · obtain rfl := Except.ok.inj (hcast.symm.trans htext)
      rw [Field.encode, hencoder]
  · rw [encodeScalar, hbound]
    rfl
  · rw [encodeScalar, hbound]
    rfl
  · rw [encodeScalar, hbound]
    rfl

/-- A leap second on a clock behind universal time, with a fraction of a second. -/
theorem canonical_dates_leap_second :
    ∃ m : Moment, (Json.string " 2016-12-31T18:29:60.25-0530").toMoment? = some m ∧
      m.render = "2016-12-31 18:29:60.250-05:30" ∧ Moment.read? m.render = some m ∧
      encodeScalar .date m.render = .ok (signedBytes 4 6209) := by
  have h : (Json.string " 2016-12-31T18:29:60.25-0530").toMoment? =
      some ⟨⟨2016, 12, 31, by decide⟩, ⟨18, 29, 60, 250000000, by decide⟩, some (-330)⟩ := by
    decide +kernel
  obtain ⟨hread, _, hdate, _⟩ := canonical_dates h
  refine ⟨_, h, by decide +kernel, hread, ?_⟩
  have hday : Date.number ⟨2016, 12, 31, by decide⟩ - Date.millennium = 6209 := by decide +kernel
  rw [hdate, hday]

end Wire

end SchemaSql
