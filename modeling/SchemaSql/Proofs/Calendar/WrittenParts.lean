import SchemaSql.Calendar.Layout
import SchemaSql.Proofs.Number.Digits
import SchemaSql.Proofs.Text.Runs

/-!
# Parts of a written moment

The numbers of a written moment have a fixed width, years beyond four digits and fractions apart.
Each part is read as what was written, and what stands behind it is left: a part of a fixed width
may be followed by anything, the others by no further digit.
-/

namespace SchemaSql

/-! ## Numbers of a width -/

namespace Date

theorem isDigit_padded (width n : Nat) : ∀ c ∈ padded width n, c.isDigit = true := by
  intro c hc
  rcases List.mem_append.1 hc with hzero | hdigit
  · rw [List.eq_of_mem_replicate hzero]
    rfl
  · exact Digits.isDigit_of_mem hdigit

theorem padded_ne_nil (width n : Nat) : padded width n ≠ [] := by
  simp [padded, Nat.toDigits_ne_nil]

theorem value_padded (width n : Nat) : Nat.ofDigitChars 10 (padded width n) 0 = n := by
  simp only [padded, Nat.ofDigitChars_append, Nat.ofDigitChars_replicate_zero, Nat.mul_zero,
    Digits.value]

theorem length_padded {width n : Nat} (hwidth : 0 < width) (h : n < tenPow width) :
    (padded width n).length = width := by
  have hdigits : (Nat.toDigits 10 n).length ≤ width :=
    (Nat.length_toDigits_le_iff (by decide) hwidth).2 h
  simp only [padded, List.length_append, List.length_replicate]
  omega

end Date

namespace Layout

/-! ## Readers of numbers -/

def NoDigit (rest : List Char) : Prop :=
  ∀ c ∈ rest.head?, c.isDigit = false

theorem noDigit_cons {c : Char} (h : c.isDigit = false) (rest : List Char) :
    NoDigit (c :: rest) := by
  simpa [NoDigit] using h

section

variable {width : Nat} {digits rest : List Char} (hdigits : ∀ c ∈ digits, c.isDigit = true)
include hdigits

/-- The digits within a width are those of the run, if the run fills the width or ends. -/
theorem takeWhile_take (hlength : digits.length ≤ width)
    (hstop : digits.length = width ∨ NoDigit rest) :
    ((digits ++ rest).take width).takeWhile Char.isDigit = digits := by
  rw [List.take_append, List.take_of_length_le hlength]
  apply Text.takeWhile_run hdigits
  rcases hstop with rfl | hstop
  · simp
  · intro c hc
    rw [List.head?_take] at hc
    split at hc
    · cases hc
    · exact hstop c hc

theorem readUpTo_append (hsome : digits ≠ []) (hlength : digits.length ≤ width)
    (hstop : digits.length = width ∨ NoDigit rest) :
    readUpTo width (digits ++ rest) = some (Nat.ofDigitChars 10 digits 0, rest) := by
  rw [readUpTo, takeWhile_take hdigits hlength hstop, if_neg (by simpa using hsome), List.drop_left]

theorem readExactly_append (hlength : digits.length = width) :
    readExactly width (digits ++ rest) = some (Nat.ofDigitChars 10 digits 0, rest) := by
  rw [readExactly, takeWhile_take hdigits (Nat.le_of_eq hlength) (.inl hlength),
    if_neg (by omega), List.drop_left' hlength]

theorem readAll_append (hsome : digits ≠ []) (hstop : NoDigit rest) :
    readAll (digits ++ rest) = some (Nat.ofDigitChars 10 digits 0, rest) :=
  readUpTo_append hdigits hsome (by simp) (.inr hstop)

end

section

variable (width : Nat) {n : Nat} (hwidth : 0 < width) (h : n < tenPow width) (rest : List Char)
include hwidth h

theorem readUpTo_padded : readUpTo width (Date.padded width n ++ rest) = some (n, rest) := by
  have hlength := Date.length_padded hwidth h
  rw [readUpTo_append (Date.isDigit_padded width n) (Date.padded_ne_nil width n)
    (Nat.le_of_eq hlength) (.inl hlength), Date.value_padded]

theorem readExactly_padded : readExactly width (Date.padded width n ++ rest) = some (n, rest) := by
  rw [readExactly_append (Date.isDigit_padded width n) (Date.length_padded hwidth h),
    Date.value_padded]

end

/-- A number in its full width does not begin with a blank, so that none are skipped. -/
theorem trimStart_padded (width n : Nat) (rest : List Char) :
    Text.trimStart (Date.padded width n ++ rest) = Date.padded width n ++ rest := by
  apply Text.trimStart_eq_self
  rw [List.head?_append_of_ne_nil _ (Date.padded_ne_nil width n)]
  intro c hc
  exact Text.isBlank_of_isDigit (Date.isDigit_padded width n c (List.mem_of_mem_head? hc))

theorem readPair_padded {n : Nat} (h : n < 100) (rest : List Char) :
    readPair (Date.padded 2 n ++ rest) = some (n, rest) := by
  rw [readPair, trimStart_padded, readUpTo_padded 2 (by decide) h]

/-! ## Years -/

/-- The text of a year is its digits, all of them after a sign or four without. -/
theorem writeYear_cases (year : Int) :
    (year < 0 ∧ Date.writeYear year = '-' :: Date.padded 4 year.natAbs) ∨
      (9999 < year ∧ Date.writeYear year = '+' :: Date.padded 4 year.natAbs) ∨
        ((0 ≤ year ∧ year ≤ 9999) ∧ Date.writeYear year = Date.padded 4 year.natAbs) := by
  unfold Date.writeYear
  split
  · exact .inl ⟨‹_›, rfl⟩
  · split
    · exact .inr (.inl ⟨‹_›, rfl⟩)
    · exact .inr (.inr ⟨⟨by omega, by omega⟩, rfl⟩)

theorem readAll_padded {width n : Nat} {rest : List Char} (h : NoDigit rest) :
    readAll (Date.padded width n ++ rest) = some (n, rest) := by
  rw [readAll_append (Date.isDigit_padded width n) (Date.padded_ne_nil width n) h,
    Date.value_padded]

/-- A year without a sign is taken by its four digits. -/
theorem readYear_padded {n : Nat} (h : n < 10000) (rest : List Char) :
    readYear (Date.padded 4 n ++ rest) = some ((n : Int), rest) := by
  have hread : readUpTo 4 (Date.padded 4 n ++ rest) = some (n, rest) :=
    readUpTo_padded 4 (by decide) h rest
  obtain ⟨c, cs, hcs⟩ := List.exists_cons_of_ne_nil (Date.padded_ne_nil 4 n)
  have hdigit : c.isDigit = true := Date.isDigit_padded 4 n c (by simp [hcs])
  have hplus : c ≠ '+' := Digits.ne_of_isDigit hdigit rfl
  have hminus : c ≠ '-' := Digits.ne_of_isDigit hdigit rfl
  rw [hcs, List.cons_append] at hread ⊢
  rw [readYear.eq_def]
  simp [hplus, hminus, hread]

theorem readYear_writeYear (year : Int) {rest : List Char} (h : NoDigit rest) :
    readYear (Text.trimStart (Date.writeYear year ++ rest)) = some (year, rest) := by
  rcases writeYear_cases year with ⟨hyear, hwrite⟩ | ⟨hyear, hwrite⟩ | ⟨hyear, hwrite⟩
  · have hvalue : -(year.natAbs : Int) = year := by omega
    rw [hwrite, List.cons_append, Text.trimStart_cons (by decide), readYear, readAll_padded h]
    simp only [Option.map_some, hvalue]
  · have hvalue : (year.natAbs : Int) = year := by omega
    rw [hwrite, List.cons_append, Text.trimStart_cons (by decide), readYear, readAll_padded h]
    simp only [Option.map_some, hvalue]
  · have hvalue : (year.natAbs : Int) = year := by omega
    rw [hwrite, trimStart_padded, readYear_padded (by omega), hvalue]

/-! ## Fractions -/

/-- What may stand behind the seconds: no further digit and no point. -/
def EndsSeconds (rest : List Char) : Prop :=
  ∀ c ∈ rest.head?, c.isDigit = false ∧ c ≠ '.'

theorem endsSeconds_nil : EndsSeconds [] := by simp [EndsSeconds]

theorem EndsSeconds.noDigit {rest : List Char} (h : EndsSeconds rest) : NoDigit rest :=
  fun c hc ↦ (h c hc).1

/-- Up to nine digits are a fraction of a second, counted in nanoseconds. -/
theorem readFraction_padded {places n nano : Nat} (hplaces : 0 < places ∧ places ≤ 9)
    (hn : n < tenPow places) (hnano : n * tenPow (9 - places) = nano) {rest : List Char}
    (hrest : NoDigit rest) :
    readFraction ('.' :: Date.padded places n ++ rest) = some (nano, rest) := by
  have hlength := Date.length_padded hplaces.1 hn
  have hdigits : ((Date.padded places n ++ rest).take 9).takeWhile Char.isDigit =
      Date.padded places n :=
    takeWhile_take (Date.isDigit_padded places n) (by omega) (.inr hrest)
  have hbehind : rest.dropWhile Char.isDigit = rest := Text.dropWhile_eq_self hrest
  rw [List.cons_append, readFraction, readNanos, hdigits, if_neg (by simp [Date.padded_ne_nil]),
    List.drop_left, hbehind, hlength, Date.value_padded, hnano]

theorem readFraction_writeFraction {nano : Nat} (h : nano < 1000000000) {rest : List Char}
    (hrest : EndsSeconds rest) :
    readFraction (ClockTime.writeFraction nano ++ rest) = some (nano, rest) := by
  rw [ClockTime.writeFraction]
  split
  · rename_i hzero
    rw [hzero, List.nil_append, readFraction.eq_def]
    split
    · exact absurd rfl (hrest '.' rfl).2
    · rfl
  · split
    · rename_i hmillis
      have hbound : nano / 1000000 < 1000 := by omega
      exact readFraction_padded (by decide) hbound
        (Nat.div_mul_cancel (Nat.dvd_of_mod_eq_zero hmillis)) hrest.noDigit
    · split
      · rename_i hmicros
        have hbound : nano / 1000 < 1000000 := by omega
        exact readFraction_padded (by decide) hbound
          (Nat.div_mul_cancel (Nat.dvd_of_mod_eq_zero hmicros)) hrest.noDigit
      · exact readFraction_padded (by decide) h (Nat.mul_one nano) hrest.noDigit

/-! ## Offsets -/

theorem readMinutes_padded {n : Nat} (h : n < 60) :
    readMinutes (Date.padded 2 n) = some (n, []) := by
  have hread := readExactly_padded 2 (by decide) (show n < 100 by omega) []
  rw [List.append_nil] at hread
  rw [readMinutes, hread]
  exact if_pos h

theorem colonMinutes_padded {n : Nat} (h : n < 60) :
    colonMinutes (':' :: Date.padded 2 n) = some (n, []) :=
  readMinutes_padded h

theorem looseMinutes_padded {n : Nat} (h : n < 60) :
    looseMinutes (':' :: Date.padded 2 n) = some (n, []) := by
  have hdrop : (':' :: Date.padded 2 n).dropWhile (fun c ↦ c == ':' || Text.isBlank c) =
      Date.padded 2 n := by
    rw [List.dropWhile_cons_of_pos (by decide)]
    apply Text.dropWhile_eq_self
    intro c hc
    have hdigit := Date.isDigit_padded 2 n c (List.mem_of_mem_head? hc)
    rw [Text.isBlank_of_isDigit hdigit, Bool.or_false, beq_eq_false_iff_ne]
    exact Digits.ne_of_isDigit hdigit rfl
  rw [looseMinutes, hdrop]
  split
  · exact absurd ‹_› (Date.padded_ne_nil 2 n)
  · exact readMinutes_padded h

/-- An offset of less than a hundred hours is read as it was written, however its minutes are told
from its hours. -/
theorem readOffset_writeOffset {minutes : List Char → Option (Nat × List Char)}
    (hminutes : ∀ n < 60, minutes (':' :: Date.padded 2 n) = some (n, [])) {ahead : Int}
    (h : ahead.natAbs < 6000) :
    readOffset minutes (Moment.writeOffset ahead) = some (ahead, []) := by
  have hhours := readExactly_padded 2 (by decide) (show ahead.natAbs / 60 < 100 by omega)
  have hminutes' := hminutes (ahead.natAbs % 60) (Nat.mod_lt _ (by decide))
  rw [Moment.writeOffset]
  split
  · have hvalue : -1 * (ahead.natAbs : Int) = ahead := by omega
    simp only [readOffset, readSign, hhours, hminutes', Option.bind_eq_bind, Option.bind_some,
      Nat.div_add_mod', hvalue, Option.pure_def]
    rfl
  · have hvalue : 1 * (ahead.natAbs : Int) = ahead := by omega
    simp only [readOffset, readSign, hhours, hminutes', Option.bind_eq_bind, Option.bind_some,
      Nat.div_add_mod', hvalue, Option.pure_def]
    rfl

end Layout

end SchemaSql
