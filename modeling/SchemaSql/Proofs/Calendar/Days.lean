import Mathlib.Data.List.Intervals
import Mathlib.Data.Nat.Find
import SchemaSql.Calendar.Date

/-!
# Finding a day by its number

The days of the calendar are counted without gaps: each year begins where the one before it ends,
and so does each month. The year of a number is the one between whose beginning and end it lies,
and its month likewise, so that a day is found again from its number, and each number between two
dated days is that of a dated day.
-/

namespace SchemaSql.Date

/-! ## Years -/

theorem isLeap_iff {year : Int} :
    isLeap year = true ↔ year % 4 = 0 ∧ (year % 100 ≠ 0 ∨ year % 400 = 0) := by
  simp [isLeap]

def yearLength (year : Int) : Nat :=
  if isLeap year then 366 else 365

theorem daysBeforeYear_succ (year : Int) :
    daysBeforeYear (year + 1) = daysBeforeYear year + yearLength year := by
  simp only [daysBeforeYear, yearLength, isLeap_iff]
  split
  · omega
  · omega

theorem daysBeforeYear_mono {y z : Int} (h : y ≤ z) : daysBeforeYear y ≤ daysBeforeYear z := by
  simp only [daysBeforeYear]
  omega

/-- A number of a day taken apart into cycles, centuries, four years and years. Only the last year
of four can be a day longer, and of these the last one of a century only if it ends a cycle. -/
theorem exists_parts (n : Int) :
    ∃ cycle century four one passed : Int,
      n = cycleDays * cycle + 36524 * century + 1461 * four + 365 * one + passed ∧
      yearOfNumber n = 400 * cycle + 100 * century + 4 * four + one + 1 ∧
      (0 ≤ century ∧ century ≤ 3) ∧ (0 ≤ four ∧ four ≤ 24) ∧ (0 ≤ one ∧ one ≤ 3) ∧ 0 ≤ passed ∧
      (passed < 365 ∨ passed = 365 ∧ one = 3 ∧ (four < 24 ∨ century = 3)) := by
  -- Each quotient is named before the next one is taken, so that only one of them is open at a time.
  have hcycle : n = 146097 * (n / 146097) + n % 146097 := by omega
  have hbound : 0 ≤ n % 146097 ∧ n % 146097 < 146097 := by omega
  have hyear : yearOfNumber n = 400 * (n / 146097) + 100 * min (n % 146097 / 36524) 3 +
      4 * ((n % 146097 - 36524 * min (n % 146097 / 36524) 3) / 1461) +
      min ((n % 146097 - 36524 * min (n % 146097 / 36524) 3) % 1461 / 365) 3 + 1 := rfl
  generalize n / 146097 = cycle at hcycle hyear
  generalize n % 146097 = inCycle at hcycle hbound hyear
  have hcentury : min (inCycle / 36524) 3 ≤ 3 ∧ 0 ≤ inCycle - 36524 * min (inCycle / 36524) 3 ∧
      0 ≤ min (inCycle / 36524) 3 ∧ (inCycle - 36524 * min (inCycle / 36524) 3 < 36524 ∨
        min (inCycle / 36524) 3 = 3 ∧ inCycle - 36524 * min (inCycle / 36524) 3 = 36524) := by
    omega
  generalize min (inCycle / 36524) 3 = century at hcentury hyear
  refine ⟨cycle, century, (inCycle - 36524 * century) / 1461,
    min ((inCycle - 36524 * century) % 1461 / 365) 3,
    (inCycle - 36524 * century) % 1461 -
      365 * min ((inCycle - 36524 * century) % 1461 / 365) 3, ?_, hyear, ?_⟩
  · rw [cycleDays]
    omega
  · omega

/-- The year of a number is the one in which its day lies. -/
theorem yearOfNumber_spec (n : Int) :
    daysBeforeYear (yearOfNumber n) ≤ n ∧ n < daysBeforeYear (yearOfNumber n + 1) := by
  obtain ⟨cycle, century, four, one, passed, hn, hyear, hcentury, hfour, hone, hpassed⟩ :=
    exists_parts n
  have hbefore : daysBeforeYear (yearOfNumber n) =
      cycleDays * cycle + 36524 * century + 1461 * four + 365 * one := by
    simp only [hyear, daysBeforeYear, cycleDays]
    omega
  rw [daysBeforeYear_succ, hbefore]
  simp only [yearLength, isLeap_iff]
  split
  · omega
  · omega

theorem yearOfNumber_eq {year n : Int} (hlow : daysBeforeYear year ≤ n)
    (hhigh : n < daysBeforeYear (year + 1)) : yearOfNumber n = year := by
  obtain ⟨hbefore, hafter⟩ := yearOfNumber_spec n
  rcases Int.lt_trichotomy (yearOfNumber n) year with hless | heq | hmore
  · have hend := daysBeforeYear_mono (y := yearOfNumber n + 1) hless
    omega
  · exact heq
  · have hend := daysBeforeYear_mono (y := year + 1) hmore
    omega

theorem yearOfNumber_mono {m n : Int} (h : m ≤ n) : yearOfNumber m ≤ yearOfNumber n := by
  by_contra hless
  have hend := daysBeforeYear_mono (y := yearOfNumber n + 1) (z := yearOfNumber m) (by omega)
  have hm := (yearOfNumber_spec m).1
  have hn := (yearOfNumber_spec n).2
  omega

/-! ## Months -/

section

variable {year : Int}

theorem daysBeforeMonth_succ {month : Nat} (h : 1 ≤ month) :
    daysBeforeMonth year (month + 1) = daysBeforeMonth year month + monthLength year month := by
  obtain ⟨k, rfl⟩ : ∃ k, month = k + 1 := ⟨month - 1, by omega⟩
  simp [daysBeforeMonth, List.range_succ]

theorem daysBeforeMonth_mono (year : Int) {m n : Nat} (hm : 1 ≤ m) (h : m ≤ n) :
    daysBeforeMonth year m ≤ daysBeforeMonth year n := by
  induction n, h using Nat.le_induction with
  | base => exact Nat.le_refl _
  | succ n hmn ih =>
    rw [daysBeforeMonth_succ (Nat.le_trans hm hmn)]
    omega

theorem daysBeforeMonth_first : daysBeforeMonth year 1 = 0 := rfl

/-- The twelve months make up the year. -/
theorem daysBeforeMonth_end : daysBeforeMonth year 13 = yearLength year := by
  rw [yearLength]
  cases hleap : isLeap year <;> simp [daysBeforeMonth, List.range_succ, monthLength, hleap]

/-- The month of a day is the one between whose beginning and end it lies. -/
theorem monthOfDay_eq {month passed : Nat} (hfirst : 1 ≤ month) (hlast : month ≤ 12)
    (hlow : daysBeforeMonth year month ≤ passed)
    (hhigh : passed < daysBeforeMonth year (month + 1)) : monthOfDay year passed = month := by
  have hbegun (k : Nat) : daysBeforeMonth year (k + 1) ≤ passed ↔ k < month := by
    constructor
    · intro hk
      by_contra hlate
      have hmono := daysBeforeMonth_mono year (m := month + 1) (n := k + 1) (by omega)
        (by omega)
      omega
    · intro hk
      exact Nat.le_trans (daysBeforeMonth_mono year (by omega) hk) hlow
  simp only [monthOfDay, hbegun]
  rw [← List.Ico.zero_bot, List.Ico.filter_lt, List.Ico.length]
  omega

/-- Each day of a year lies in a month. -/
theorem exists_month {passed : Nat} (h : passed < yearLength year) :
    ∃ month, (1 ≤ month ∧ month ≤ 12) ∧ daysBeforeMonth year month ≤ passed ∧
      passed < daysBeforeMonth year (month + 1) := by
  have hend : ∃ k, passed < daysBeforeMonth year (k + 1) := ⟨12, by rwa [daysBeforeMonth_end]⟩
  have hlast : Nat.find hend ≤ 12 := Nat.find_min' hend (by rwa [daysBeforeMonth_end])
  have hpositive : 1 ≤ Nat.find hend := by
    by_contra hzero
    have hfirst := Nat.find_spec hend
    rw [Nat.lt_one_iff.1 (Nat.lt_of_not_le hzero)] at hfirst
    rw [daysBeforeMonth_first] at hfirst
    omega
  have hbefore := Nat.find_min hend (m := Nat.find hend - 1) (by omega)
  rw [Nat.sub_add_cancel hpositive] at hbefore
  exact ⟨Nat.find hend, ⟨hpositive, hlast⟩, Nat.le_of_not_lt hbefore, Nat.find_spec hend⟩

end

/-! ## Days -/

theorem isReal_iff {year : Int} {month day : Nat} :
    isReal year month day = true ↔ (firstYear ≤ year ∧ year ≤ lastYear) ∧
      (1 ≤ month ∧ month ≤ 12) ∧ 1 ≤ day ∧ day ≤ monthLength year month := by
  simp only [isReal, Bool.and_eq_true, decide_eq_true_eq]
  omega

theorem monthLength_le (year : Int) (month : Nat) : monthLength year month ≤ 31 := by
  unfold monthLength
  split
  · split
    · decide
    · decide
  all_goals decide

theorem month_lt (d : Date) : d.month < 100 := by
  have h := (isReal_iff.1 d.real).2.1.2
  omega

theorem day_lt (d : Date) : d.day < 100 := by
  have h := (isReal_iff.1 d.real).2.2.2
  have hlength := monthLength_le d.year d.month
  omega

def dayOfYear (d : Date) : Nat :=
  daysBeforeMonth d.year d.month + (d.day - 1)

theorem number_eq (d : Date) : d.number = daysBeforeYear d.year + d.dayOfYear := by
  have hday := (isReal_iff.1 d.real).2.2.1
  rw [number, dayOfYear]
  omega

theorem dayOfYear_lt (d : Date) :
    d.dayOfYear < daysBeforeMonth d.year (d.month + 1) ∧ d.dayOfYear < yearLength d.year := by
  obtain ⟨_, ⟨hfirst, hlast⟩, hday⟩ := isReal_iff.1 d.real
  have hmonth : d.dayOfYear < daysBeforeMonth d.year (d.month + 1) := by
    rw [dayOfYear, daysBeforeMonth_succ hfirst]
    omega
  refine ⟨hmonth, ?_⟩
  rw [← daysBeforeMonth_end]
  exact Nat.lt_of_lt_of_le hmonth (daysBeforeMonth_mono d.year (by omega) (by omega))

theorem yearOfNumber_number (d : Date) : yearOfNumber d.number = d.year := by
  have hlt := d.dayOfYear_lt.2
  rw [number_eq]
  apply yearOfNumber_eq
  · omega
  · rw [daysBeforeYear_succ]
    omega

theorem monthOfDay_dayOfYear (d : Date) : monthOfDay d.year d.dayOfYear = d.month := by
  obtain ⟨_, ⟨hfirst, hlast⟩, _⟩ := isReal_iff.1 d.real
  exact monthOfDay_eq hfirst hlast (Nat.le_add_right _ _) d.dayOfYear_lt.1

/-- A day is found again from its number. -/
theorem ofNumber?_number (d : Date) : ofNumber? d.number = some d := by
  have hpassed : (d.number - daysBeforeYear d.year).toNat = d.dayOfYear := by
    rw [number_eq]
    omega
  have hday : d.dayOfYear - daysBeforeMonth d.year d.month + 1 = d.day := by
    have hfirst := (isReal_iff.1 d.real).2.2.1
    rw [dayOfYear]
    omega
  simp only [ofNumber?, yearOfNumber_number, hpassed, monthOfDay_dayOfYear, hday]
  rw [ofCivil?, dif_pos d.real]

/-- A number of a dated year is that of a day. -/
theorem exists_ofNumber? {n : Int} (hlow : firstYear ≤ yearOfNumber n)
    (hhigh : yearOfNumber n ≤ lastYear) : ∃ d, ofNumber? n = some d ∧ d.number = n := by
  obtain ⟨hbefore, hafter⟩ := yearOfNumber_spec n
  rw [daysBeforeYear_succ] at hafter
  have hpassed : (n - daysBeforeYear (yearOfNumber n)).toNat < yearLength (yearOfNumber n) := by
    omega
  obtain ⟨month, hmonth, hbegun, hends⟩ := exists_month hpassed
  rw [daysBeforeMonth_succ hmonth.1] at hends
  let d : Date :=
    { year := yearOfNumber n
      month := month
      day := (n - daysBeforeYear (yearOfNumber n)).toNat -
        daysBeforeMonth (yearOfNumber n) month + 1
      real := isReal_iff.2 ⟨⟨hlow, hhigh⟩, hmonth, by omega, by omega⟩ }
  have hnumber : d.number = n := by
    rw [number_eq, dayOfYear]
    dsimp only [d]
    omega
  have hfound := ofNumber?_number d
  rw [hnumber] at hfound
  exact ⟨d, hfound, hnumber⟩

/-- A number between those of two days is that of a day. -/
theorem exists_ofNumber?_of_between {c d : Date} {n : Int} (hlow : c.number ≤ n)
    (hhigh : n ≤ d.number) : ∃ e, ofNumber? n = some e ∧ e.number = n := by
  have hfirst := (isReal_iff.1 c.real).1.1
  have hlast := (isReal_iff.1 d.real).1.2
  have hcn := yearOfNumber_mono hlow
  have hnd := yearOfNumber_mono hhigh
  rw [yearOfNumber_number] at hcn hnd
  exact exists_ofNumber? (Int.le_trans hfirst hcn) (Int.le_trans hnd hlast)

end SchemaSql.Date
