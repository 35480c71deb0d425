import Mathlib.Algebra.Order.Field.Power
import Mathlib.Data.Rat.Floor
import Mathlib.Tactic.FieldSimp
import Mathlib.Tactic.Linarith
import Mathlib.Tactic.Positivity
import Mathlib.Tactic.Ring
import SchemaSql.Number.Binary
import SchemaSql.Number.Integer

/-!
# Exact values

The rational number that a binary number denotes. The fraction that stands for the magnitude of a
number, the comparison of fractions and the whole part are what they are for the value; and an
integer of more bits than a format has keeps its greatest power of two when it is rounded.
-/

namespace SchemaSql

/-! ## Whole parts -/

def towardZero (q : ℚ) : ℤ :=
  if q < 0 then ⌈q⌉ else ⌊q⌋

theorem towardZero_intCast (i : ℤ) : towardZero i = i := by
  unfold towardZero
  split
  · exact Int.ceil_intCast i
  · exact Int.floor_intCast i

theorem towardZero_of_nonneg {q : ℚ} (h : 0 ≤ q) : towardZero q = ⌊q⌋ :=
  if_neg (not_lt.2 h)

theorem towardZero_neg (q : ℚ) : towardZero (-q) = -towardZero q := by
  unfold towardZero
  rcases lt_trichotomy q 0 with hneg | rfl | hpos
  · rw [if_pos hneg, if_neg (by linarith), Int.floor_neg]
  · simp
  · rw [if_pos (by linarith), if_neg (by linarith), Int.ceil_neg]

namespace Binary

/-! ## Values -/

theorem cast_twoPow (k : ℕ) : (twoPow k : ℚ) = 2 ^ k := by
  rw [twoPow, Nat.pow_eq, Nat.cast_pow, Nat.cast_ofNat]

def magnitude (x : Binary) : ℚ :=
  x.mantissa * 2 ^ x.exponent

def value (x : Binary) : ℚ :=
  if x.negative then -x.magnitude else x.magnitude

theorem magnitude_nonneg (x : Binary) : 0 ≤ x.magnitude := by
  unfold magnitude
  positivity

theorem shiftFraction_pos (a : ℕ) {b : ℕ} (hb : 0 < b) (e : ℤ) :
    0 < (shiftFraction a b e).2 := by
  cases e with
  | ofNat k => exact Nat.mul_pos hb (twoPow_pos k)
  | negSucc k => exact hb

theorem shiftFraction_div (a b : ℕ) (e : ℤ) :
    ((shiftFraction a b e).1 : ℚ) / (shiftFraction a b e).2 = a / b / 2 ^ e := by
  cases e with
  | ofNat k =>
    rw [shiftFraction, Int.ofNat_eq_natCast, zpow_natCast, Nat.cast_mul, cast_twoPow, div_div]
  | negSucc k =>
    rw [shiftFraction, zpow_negSucc, Nat.cast_mul, cast_twoPow, div_inv_eq_mul]
    ring

theorem fraction_pos (x : Binary) : 0 < x.fraction.2 :=
  shiftFraction_pos _ Nat.one_pos _

theorem fraction_div (x : Binary) : (x.fraction.1 : ℚ) / x.fraction.2 = x.magnitude := by
  rw [fraction, shiftFraction_div, Nat.cast_one, div_one, zpow_neg, div_inv_eq_mul, magnitude]

theorem lt_mul_fraction_iff (x : Binary) (n : ℕ) :
    x.fraction.1 < n * x.fraction.2 ↔ x.magnitude < n := by
  have hpos : (0 : ℚ) < x.fraction.2 := Nat.cast_pos.2 x.fraction_pos
  rw [← fraction_div, div_lt_iff₀ hpos]
  exact_mod_cast Iff.rfl

theorem trunc_eq_towardZero (x : Binary) : x.trunc = towardZero x.value := by
  have hwhole : towardZero x.magnitude = ((x.fraction.1 / x.fraction.2 : ℕ) : ℤ) := by
    rw [towardZero_of_nonneg x.magnitude_nonneg, ← fraction_div, Rat.floor_natCast_div_natCast,
      Int.natCast_div]
  have htrunc : x.trunc = x.withSign (x.fraction.1 / x.fraction.2) := rfl
  rw [htrunc, withSign, value]
  split
  · rw [towardZero_neg, hwhole]
  · rw [hwhole]

/-! ## Numbers of a format -/

/-- The number has an encoding in the format. -/
def IsOf (f : BinaryFormat) (x : Binary) : Prop :=
  ∃ bits, Extended.ofBits f bits = .finite x

theorem IsOf.mantissa_lt {f : BinaryFormat} (hf : 0 < f.precision) {x : Binary} (h : x.IsOf f) :
    x.mantissa < twoPow f.precision := by
  obtain ⟨bits, hbits⟩ := h
  obtain ⟨p, hp⟩ := Nat.exists_eq_succ_of_ne_zero (Nat.ne_of_gt hf)
  have hmod : bits % twoPow (f.precision - 1) < twoPow (f.precision - 1) :=
    Nat.mod_lt _ (twoPow_pos _)
  have hdouble : twoPow f.precision = 2 * twoPow (f.precision - 1) := by
    rw [hp, Nat.succ_eq_add_one, twoPow_succ, Nat.add_sub_cancel]
  simp only [Extended.ofBits] at hbits
  split at hbits
  · split at hbits <;> cases hbits
  · split at hbits
    · obtain rfl := Extended.finite.inj hbits
      dsimp only
      omega
    · obtain rfl := Extended.finite.inj hbits
      dsimp only
      omega

/-- A number of a format whose magnitude does not fit into the mantissa is whole. -/
theorem IsOf.exists_natCast {f : BinaryFormat} (hf : 0 < f.precision) {x : Binary} (h : x.IsOf f)
    (hlarge : 2 ^ f.precision ≤ x.magnitude) : ∃ n : ℕ, x.magnitude = n := by
  have hmantissa : (x.mantissa : ℚ) < 2 ^ f.precision := by
    rw [← cast_twoPow]
    exact Nat.cast_lt.2 (h.mantissa_lt hf)
  cases hexponent : x.exponent with
  | ofNat k =>
    refine ⟨x.mantissa * 2 ^ k, ?_⟩
    rw [magnitude, hexponent, Int.ofNat_eq_natCast, zpow_natCast]
    push_cast
    rfl
  | negSucc k =>
    exfalso
    have hfraction : (2 : ℚ) ^ x.exponent ≤ 1 := by
      rw [hexponent]
      exact zpow_le_one_of_nonpos₀ (by norm_num) (Int.negSucc_lt_zero k).le
    have hsmall : x.magnitude ≤ x.mantissa :=
      mul_le_of_le_one_right (Nat.cast_nonneg x.mantissa) hfraction
    linarith

/-! ## Rounding of large integers -/

theorem div_le_nearestEven (a b : ℕ) : a / b ≤ nearestEven a b := by
  unfold nearestEven
  split
  · exact Nat.le_refl _
  · split <;> omega

theorem unitExponent_of_le {f : BinaryFormat} (hleast : f.leastExponent ≤ 0) {a : ℕ} (ha : a ≠ 0)
    (hlarge : f.precision ≤ a.log2) :
    unitExponent f a 1 = ((a.log2 - f.precision + 1 : ℕ) : ℤ) := by
  have hguess : (a.log2 : ℤ) - (Nat.log2 1 : ℕ) - f.precision =
      .ofNat (a.log2 - f.precision) := by
    have hone : Nat.log2 1 = 0 := by decide
    rw [hone, Int.ofNat_eq_natCast]
    omega
  have hscaled : ¬ a < 1 * twoPow (a.log2 - f.precision) * twoPow f.precision := by
    rw [Nat.one_mul, twoPow, twoPow, Nat.pow_eq, Nat.pow_eq, ← Nat.pow_add,
      Nat.sub_add_cancel hlarge]
    exact Nat.not_lt.2 (Nat.log2_self_le ha)
  simp only [unitExponent, hguess, shiftFraction, if_neg hscaled]
  rw [Int.ofNat_eq_natCast]
  omega

/-- An integer with more bits than the format is rounded to a mantissa with all of the format's
bits, which begins where the integer does or one place before it. -/
theorem parts_of_round {f : BinaryFormat} (hleast : f.leastExponent ≤ 0) {negative : Bool}
    {a : ℕ} {x : Binary} (ha : a ≠ 0) (hf : 0 < f.precision) (hlarge : f.precision ≤ a.log2)
    (h : round f negative a 1 = .finite x) :
    2 ^ (f.precision - 1) ≤ x.mantissa ∧ ((a.log2 - f.precision + 1 : ℕ) : ℤ) ≤ x.exponent := by
  generalize hk : a.log2 - f.precision + 1 = k
  have hpower : 2 ^ (f.precision - 1) * 2 ^ k ≤ a := by
    rw [← Nat.pow_add, show f.precision - 1 + k = a.log2 by omega]
    exact Nat.log2_self_le ha
  have hmantissa : 2 ^ (f.precision - 1) ≤ nearestEven a (1 * twoPow k) := by
    rw [Nat.one_mul]
    exact Nat.le_trans ((Nat.le_div_iff_mul_le (twoPow_pos k)).2 hpower) (div_le_nearestEven _ _)
  have hshift : shiftFraction a 1 (k : ℤ) = (a, 1 * twoPow k) := rfl
  simp only [round, if_neg ha, unitExponent_of_le hleast ha hlarge, hk, hshift] at h
  -- a mantissa that reaches the next power of two is halved and its exponent raised
  split at h
  · split at h
    · cases h
    · obtain rfl := Extended.finite.inj h
      exact ⟨Nat.le_refl _, Int.le_add_one (Int.le_refl _)⟩
  · split at h
    · cases h
    · obtain rfl := Extended.finite.inj h
      exact ⟨hmantissa, Int.le_refl _⟩

/-- What an integer with more bits than the format is rounded to is not below the greatest power of
two that the integer is not below. -/
theorem two_pow_log2_le_of_round {f : BinaryFormat} (hleast : f.leastExponent ≤ 0)
    {negative : Bool} {a : ℕ} {x : Binary} (ha : a ≠ 0) (hf : 0 < f.precision)
    (hlarge : f.precision ≤ a.log2) (h : round f negative a 1 = .finite x) :
    2 ^ a.log2 ≤ x.magnitude := by
  obtain ⟨hmantissa, hexponent⟩ := parts_of_round hleast ha hf hlarge h
  calc
    (2 : ℚ) ^ a.log2 = (2 ^ (f.precision - 1) : ℕ) * 2 ^ ((a.log2 - f.precision + 1 : ℕ) : ℤ) := by
      rw [zpow_natCast, Nat.cast_pow, Nat.cast_ofNat, ← pow_add]
      congr 1
      omega
    _ ≤ x.mantissa * 2 ^ x.exponent := by
      gcongr
      norm_num

end Binary

end SchemaSql
