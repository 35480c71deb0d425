import SchemaSql.Proofs.Number.Digits
import SchemaSql.Proofs.Text.Runs

/-!
# Reading integers back

What is read as an integer of a range lies in the range, and an integer of the range is read back
from its digits. The digits are counted away from zero, so that no number on the way is further
from it than the last one. An integer beyond the range is refused on the side on which it lies.
-/

namespace SchemaSql

namespace IntegerRange

theorem contains_iff {r : IntegerRange} {i : Int} :
    r.contains i = true ↔ r.least ≤ i ∧ i ≤ r.greatest := by
  simp [contains]

theorem contains_int64_iff {i : Int} :
    int64.contains i = true ↔ -9223372036854775808 ≤ i ∧ i < 9223372036854775808 := by
  have hleast : int64.least = -9223372036854775808 := rfl
  have hgreatest : int64.greatest = 9223372036854775807 := rfl
  rw [contains_iff, hleast, hgreatest]
  omega

/-! ## What is read lies in the range -/

section

variable {r : IntegerRange}

theorem contains_of_readDigits {negative : Bool} {n i : Int} {cs : List Char}
    (hn : r.contains n = true) (h : r.readDigits negative n cs = .ok i) :
    r.contains i = true := by
  induction cs generalizing n with
  | nil =>
    obtain rfl := Except.ok.inj h
    exact hn
  | cons c cs ih =>
    unfold readDigits at h
    split at h
    · generalize (if negative = true then n * 10 - (digitValue c : Int)
        else n * 10 + (digitValue c : Int)) = step at h
      dsimp only at h
      split at h
      · cases h
      · split at h
        · cases h
        · exact ih (contains_iff.2 ⟨by omega, by omega⟩) h
    · cases h

theorem contains_of_read (hzero : r.contains 0 = true) {i : Int} {cs : List Char}
    (h : r.read cs = .ok i) : r.contains i = true := by
  unfold read at h
  split at h
  · cases h
  · cases h
  · cases h
  · exact contains_of_readDigits hzero h
  · exact contains_of_readDigits hzero h
  · exact contains_of_readDigits hzero h

end

/-! ## What is written is read back -/

section

variable {r : IntegerRange}

/-- The text of an integer that is not below zero is read as digits. -/
theorem read_writeInteger_of_nonneg {i : Int} (h : 0 ≤ i) :
    r.read (writeInteger i) = r.readDigits false 0 (Nat.toDigits 10 i.natAbs) := by
  obtain ⟨c, cs, hcs, hdigit⟩ := Digits.exists_toDigits_eq_cons i.natAbs
  have hplus : c ≠ '+' := Digits.ne_of_isDigit hdigit rfl
  have hminus : c ≠ '-' := Digits.ne_of_isDigit hdigit rfl
  rw [writeInteger, if_neg (Int.not_lt.2 h), hcs, read.eq_def]
  simp [hplus, hminus]

/-- That of another one is read as digits behind a minus sign. -/
theorem read_writeInteger_of_neg {i : Int} (h : i < 0) :
    r.read (writeInteger i) = r.readDigits true 0 (Nat.toDigits 10 i.natAbs) := by
  obtain ⟨c, cs, hcs, _⟩ := Digits.exists_toDigits_eq_cons i.natAbs
  rw [writeInteger, if_pos h, hcs]
  rfl

end

section

variable {r : IntegerRange} (hzero : r.contains 0 = true)
include hzero

theorem readDigits_positive {n : Nat} {digits : List Char}
    (hdigits : ∀ c ∈ digits, c.isDigit = true)
    (hfits : (Nat.ofDigitChars 10 digits n : Int) ≤ r.greatest) :
    r.readDigits false n digits = .ok (Nat.ofDigitChars 10 digits n) := by
  induction digits generalizing n with
  | nil => rfl
  | cons c digits ih =>
    have hlow := (contains_iff.1 hzero).1
    have hstep := Digits.le_ofDigitChars (10 * n + digitValue c) digits
    rw [Nat.ofDigitChars_cons] at hfits ⊢
    have hvalue : (n : Int) * 10 + digitValue c = (10 * n + digitValue c : Nat) := by omega
    have hbound : ((10 * n + digitValue c : Nat) : Int) ≤ r.greatest :=
      Int.le_trans (Int.ofNat_le.2 hstep) hfits
    rw [readDigits, if_pos (hdigits c List.mem_cons_self)]
    simp only [Bool.false_eq_true, if_false, hvalue]
    rw [if_neg (by omega), if_neg (by omega)]
    exact ih (fun d hd ↦ hdigits d (List.mem_cons_of_mem c hd)) hfits

theorem readDigits_negative {n : Nat} {digits : List Char}
    (hdigits : ∀ c ∈ digits, c.isDigit = true)
    (hfits : r.least ≤ -(Nat.ofDigitChars 10 digits n : Int)) :
    r.readDigits true (-n) digits = .ok (-(Nat.ofDigitChars 10 digits n)) := by
  induction digits generalizing n with
  | nil => rfl
  | cons c digits ih =>
    have hhigh := (contains_iff.1 hzero).2
    have hstep := Digits.le_ofDigitChars (10 * n + digitValue c) digits
    rw [Nat.ofDigitChars_cons] at hfits ⊢
    have hvalue : -(n : Int) * 10 - digitValue c = -((10 * n + digitValue c : Nat) : Int) := by
      omega
    have hbound : r.least ≤ -((10 * n + digitValue c : Nat) : Int) :=
      Int.le_trans hfits (Int.neg_le_neg (Int.ofNat_le.2 hstep))
    rw [readDigits, if_pos (hdigits c List.mem_cons_self)]
    simp only [if_true, hvalue]
    rw [if_neg (by omega), if_neg (by omega)]
    exact ih (fun d hd ↦ hdigits d (List.mem_cons_of_mem c hd)) hfits

/-- An integer of the range is read back from its text. -/
theorem read_writeInteger {i : Int} (h : r.contains i = true) :
    r.read (writeInteger i) = .ok i := by
  obtain ⟨hlow, hhigh⟩ := contains_iff.1 h
  rcases Int.lt_or_le i 0 with hnegative | hpositive
  · have hvalue : -(i.natAbs : Int) = i := by omega
    have hread := readDigits_negative (r := r) hzero (n := 0)
      (fun _ ↦ Digits.isDigit_of_mem (n := i.natAbs))
      (by rw [Digits.value, hvalue]; exact hlow)
    rw [Digits.value, hvalue] at hread
    exact (read_writeInteger_of_neg hnegative).trans hread
  · have hvalue : (i.natAbs : Int) = i := by omega
    have hread := readDigits_positive (r := r) hzero (n := 0)
      (fun _ ↦ Digits.isDigit_of_mem (n := i.natAbs))
      (by rw [Digits.value, hvalue]; exact hhigh)
    rw [Digits.value, hvalue] at hread
    exact (read_writeInteger_of_nonneg hpositive).trans hread

/-! ## What lies beyond the range is refused -/

end

end IntegerRange

/-- The text of an integer has no blanks. -/
theorem trimBoth_writeInteger (i : Int) : Text.trimBoth (writeInteger i) = writeInteger i := by
  have hdigits : ∀ c ∈ Nat.toDigits 10 i.natAbs, Text.isBlank c = false :=
    fun _ hc ↦ Text.isBlank_of_isDigit (Digits.isDigit_of_mem hc)
  apply Text.trimBoth_of_forall
  rw [writeInteger]
  split
  · exact List.forall_mem_cons.2 ⟨by decide, hdigits⟩
  · exact hdigits

end SchemaSql
