import SchemaSql.Proofs.Calendar.Days
import SchemaSql.Proofs.Calendar.Reading

/-!
# Finding a moment by its count

A moment is found again from the nanoseconds that its clock has counted, unless it lies in a leap
second, whose count is that of the second after it. All counts between two moments are those of
moments.
-/

namespace SchemaSql

/-! ## Times of a day -/

namespace ClockTime

theorem dayNanos_eq : dayNanos = 86400000000000 := rfl

theorem nanos_lt {t : ClockTime} (h : t.second < 60) : t.nanos < dayNanos := by
  obtain ⟨⟨hhour, hminute⟩, _, hnano⟩ := t.real
  rw [nanos, dayNanos_eq, secondNanos]
  omega

theorem exists_ofNanos? {n : Nat} (h : n < dayNanos) :
    ∃ t, ofNanos? n = some t ∧ t.nanos = n := by
  have hsecond : secondNanos = 1000000000 := rfl
  rw [dayNanos_eq] at h
  have hreal : (n / secondNanos / 3600 < 24 ∧ n / secondNanos / 60 % 60 < 60) ∧
      n / secondNanos % 60 ≤ 60 ∧ n % secondNanos < 1000000000 := by
    rw [hsecond]
    omega
  refine ⟨⟨_, _, _, _, hreal⟩, dif_pos hreal, ?_⟩
  simp only [nanos, hsecond]
  omega

end ClockTime

/-! ## Days that are dated -/

namespace Date

theorem number_of_ofNumber? {n : Int} {d : Date} (h : ofNumber? n = some d) : d.number = n := by
  have hdated : firstYear ≤ yearOfNumber n ∧ yearOfNumber n ≤ lastYear := by
    unfold ofNumber? ofCivil? at h
    dsimp only at h
    split at h
    · exact (isReal_iff.1 ‹_›).1
    · cases h
  obtain ⟨hlow, hhigh⟩ := hdated
  obtain ⟨e, he, hnumber⟩ := exists_ofNumber? hlow hhigh
  rw [h] at he
  rw [Option.some.inj he, hnumber]

/-- The days that are dated lie within some three hundred thousand years. -/
theorem number_bounds (d : Date) : -96000000 < d.number ∧ d.number < 96000000 := by
  obtain ⟨hlow, hhigh⟩ := (isReal_iff.1 d.real).1
  have hfirst := daysBeforeYear_mono hlow
  have hlast := daysBeforeYear_mono hhigh
  have hlength : yearLength d.year ≤ 366 := by
    rw [yearLength]
    split <;> omega
  have hday := d.dayOfYear_lt.2
  have hbegin : daysBeforeYear firstYear = -95746130 := by decide
  have hend : daysBeforeYear lastYear = 95745034 := by decide
  rw [number_eq]
  omega

end Date

/-! ## Moments -/

namespace Moment

/-- Whether an instant lies on a day that is dated. -/
def Dated (nanos : Int) : Prop :=
  ∃ d : Date, d.number = nanos / ClockTime.dayNanos

theorem dated_of_between {a b n : Int} (ha : Dated a) (hb : Dated b) (hlow : a ≤ n)
    (hhigh : n ≤ b) : Dated n := by
  obtain ⟨c, hc⟩ := ha
  obtain ⟨d, hd⟩ := hb
  have hpositive : (0 : Int) < ClockTime.dayNanos := by decide
  have hfirst : c.number ≤ n / ClockTime.dayNanos := by
    rw [hc]
    exact Int.ediv_le_ediv hpositive hlow
  have hlast : n / ClockTime.dayNanos ≤ d.number := by
    rw [hd]
    exact Int.ediv_le_ediv hpositive hhigh
  obtain ⟨e, _, he⟩ := Date.exists_ofNumber?_of_between hfirst hlast
  exact ⟨e, he⟩

theorem exists_ofNanos? {n : Int} (h : Dated n) (ahead : Option Int) :
    ∃ m, ofNanos? n ahead = some m ∧ m.clockNanos = n ∧ m.ahead = ahead := by
  obtain ⟨d, hd⟩ := h
  have hpositive : (0 : Int) < ClockTime.dayNanos := by decide
  have hremainder := Int.emod_nonneg n (Int.ne_of_gt hpositive)
  have hlt := Int.emod_lt_of_pos n hpositive
  obtain ⟨t, ht, hnanos⟩ := ClockTime.exists_ofNanos? (n := (n % ClockTime.dayNanos).toNat)
    (by omega)
  have hdate : Date.ofNumber? (n / ClockTime.dayNanos) = some d := by
    rw [← hd, Date.ofNumber?_number]
  refine ⟨⟨d, t, ahead⟩, ?_, ?_, rfl⟩
  · rw [ofNanos?, hdate, ht]
    rfl
  · rw [clockNanos, hd, hnanos, Int.toNat_of_nonneg hremainder]
    exact Int.ediv_mul_add_emod n _

section

variable {m : Moment} (h : m.time.second < 60)
include h

theorem dated_clockNanos : Dated m.clockNanos := by
  have hlt := ClockTime.nanos_lt h
  refine ⟨m.date, ?_⟩
  rw [clockNanos, ClockTime.dayNanos_eq] at *
  omega

/-- The minute of universal time lies on the same day as the nanosecond. -/
theorem universalDay_eq {ahead : Int} (hahead : m.ahead = some ahead) :
    universalDay m.date m.time ahead = m.universalNanos / ClockTime.dayNanos := by
  have hnano := m.time.real.2.2
  rw [universalDay, universalNanos, clockNanos, ClockTime.nanos, hahead, Option.getD_some,
    ClockTime.dayNanos_eq, ClockTime.secondNanos]
  omega

theorem dated_universalNanos (hplaced : m.Placed) : Dated m.universalNanos := by
  cases hahead : m.ahead with
  | none =>
    have hsame : m.universalNanos = m.clockNanos := by
      rw [universalNanos, hahead, Option.getD_none]
      omega
    rw [hsame]
    exact dated_clockNanos h
  | some ahead =>
    have hclock := hplaced ahead hahead
    unfold ofClock? at hclock
    split at hclock
    · rename_i hdated
      obtain ⟨d, hd⟩ := Option.isSome_iff_exists.1 (Bool.and_eq_true_iff.1 hdated).2
      refine ⟨d, ?_⟩
      rw [Date.number_of_ofNumber? hd, universalDay_eq h hahead]
    · cases hclock

end

/-- A clock that shows universal time shows a dated day. -/
theorem placed_of_zero {m : Moment} (h : m.ahead = some 0) : m.Placed := by
  obtain ⟨date, time, _⟩ := m
  obtain rfl : _ = some 0 := h
  intro ahead hahead
  obtain rfl := Option.some.inj hahead
  have hminute := time.real.1
  have hday : universalDay date time 0 = date.number := by
    rw [universalDay]
    omega
  rw [ofClock?, hday, Date.ofNumber?_number]
  rfl

end Moment

end SchemaSql
