import Mathlib.Tactic.NormNum
import SchemaSql.Proofs.Number.ExactValue
import SchemaSql.Proofs.Number.IntegerText
import SchemaSql.Proofs.Schema.Declared

/-!
# Numbers in integer fields

An integer field cuts every number toward zero. What decides whether the rest fits is different for
the three forms that a number comes in: an integer of 64 bits is taken as it is, while a greater one
is rounded first and held against the range as a double is. Rounding moves no integer back into the
range, so that nothing is saturated or wrapped. The range of doubles is cut at one place too many:
it is the same on both sides of zero, while that of integers has one more number below it.
-/

namespace SchemaSql

/-! ## Numbers that fit -/

theorem contains_towardZero_iff (q : ℚ) :
    int64.contains (towardZero q) = true ↔ -2 ^ 63 - 1 < q ∧ q < 2 ^ 63 := by
  rw [IntegerRange.contains_int64_iff]
  rcases lt_or_ge q 0 with hneg | hnonneg
  · have hceil : -9223372036854775809 < ⌈q⌉ ↔ ((-9223372036854775809 : ℤ) : ℚ) < q := Int.lt_ceil
    have hbelow : ⌈q⌉ ≤ 0 := Int.ceil_le.2 (by exact_mod_cast hneg.le)
    rw [towardZero, if_pos hneg]
    push_cast at hceil
    constructor
    · rintro ⟨hlow, _⟩
      have hexact := hceil.1 (by omega)
      exact ⟨by linarith, by linarith⟩
    · rintro ⟨hlow, _⟩
      have hwhole := hceil.2 (by linarith)
      omega
  · have hfloor : ⌊q⌋ < 9223372036854775808 ↔ q < ((9223372036854775808 : ℤ) : ℚ) := Int.floor_lt
    have habove : 0 ≤ ⌊q⌋ := Int.floor_nonneg.2 hnonneg
    rw [towardZero_of_nonneg hnonneg]
    push_cast at hfloor
    constructor
    · rintro ⟨_, hhigh⟩
      have hexact := hfloor.1 (by omega)
      exact ⟨by linarith, by linarith⟩
    · rintro ⟨_, hhigh⟩
      have hwhole := hfloor.2 (by linarith)
      omega

namespace Json

theorem withinInt64_iff (x : Binary) : withinInt64 x = true ↔ x.magnitude < 2 ^ 63 := by
  have hbound := x.lt_mul_fraction_iff (twoPow 63)
  rw [Binary.cast_twoPow] at hbound
  rw [← hbound]
  exact decide_eq_true_iff

/-- An integer that is not of 64 bits is not within their range when it is rounded either. -/
theorem withinInt64_of_ofInt {i : ℤ} {x : Binary} (hi : int64.contains i = false)
    (h : Binary.ofInt .double i = .finite x) : withinInt64 x = false := by
  have hlarge : 2 ^ 63 ≤ i.natAbs := by
    rw [← Bool.not_eq_true, IntegerRange.contains_int64_iff] at hi
    omega
  have hne : i.natAbs ≠ 0 := by omega
  have hlog : 63 ≤ i.natAbs.log2 := (Nat.le_log2 hne).2 hlarge
  have hprecision : BinaryFormat.double.precision ≤ i.natAbs.log2 :=
    Nat.le_trans (by decide) hlog
  have hround := Binary.two_pow_log2_le_of_round (by decide) hne (by decide) hprecision h
  rw [← Bool.not_eq_true, withinInt64_iff, not_lt]
  calc
    (2 : ℚ) ^ 63 ≤ 2 ^ i.natAbs.log2 := pow_le_pow_right₀ (by norm_num) hlog
    _ ≤ x.magnitude := hround

/-- Rounding moves no integer into the range that was not there before. -/
theorem toInteger?_int (i : ℤ) :
    (number (.int i)).toInteger? = if int64.contains i then some i else none := by
  by_cases hcontains : int64.contains i = true
  · have hint : (Number.int i).toInt64? = some i := if_pos hcontains
    simp only [toInteger?, hint, if_pos hcontains]
  · have hint : (Number.int i).toInt64? = none := if_neg hcontains
    simp only [toInteger?, hint, if_neg hcontains]
    cases hdouble : (Number.int i).toDouble with
    | finite x =>
      have hbeyond := withinInt64_of_ofInt (Bool.eq_false_of_not_eq_true hcontains) hdouble
      exact if_neg (Bool.eq_false_iff.1 hbeyond)
    | infinite negative => rfl
    | notANumber negative => rfl

namespace Number

def value : Number → ℚ
  | int i => i
  | float x => x.value

/-- The number is one that JSON has: an integer, or a double that is finite. -/
def IsProper : Number → Prop
  | int _ => True
  | float x => x.IsOf .double

/-- The number is a double, and the least integer of 64 bits. -/
def IsLeastDouble : Number → Prop
  | int _ => False
  | float x => x.value = -2 ^ 63

theorem contains_of_isLeastDouble {n : Number} (h : n.IsLeastDouble) :
    int64.contains (towardZero n.value) = true := by
  cases n with
  | int i => cases h
  | float x =>
    have hvalue : x.value = -2 ^ 63 := h
    rw [value, contains_towardZero_iff, hvalue]
    norm_num

/-- A double is within the bounds exactly if its whole part has 64 bits and it is not the least
integer of them: next to the range there is no double below it but this one. -/
theorem withinInt64_iff_of_isOf {x : Binary} (hx : x.IsOf .double) :
    withinInt64 x = true ↔
      int64.contains (towardZero x.value) = true ∧ ¬ (float x).IsLeastDouble := by
  have hvalue : x.value = x.magnitude ∨ x.value = -x.magnitude := by
    rw [Binary.value]
    split
    · exact .inr rfl
    · exact .inl rfl
  rw [withinInt64_iff, contains_towardZero_iff, IsLeastDouble]
  constructor
  · intro hbelow
    have hnonneg := x.magnitude_nonneg
    refine ⟨?_, ?_⟩
    · rcases hvalue with h | h <;> constructor <;> linarith
    · intro hleast
      rcases hvalue with h | h <;> linarith
  · rintro ⟨⟨hlow, hhigh⟩, hne⟩
    by_contra hbeyond
    rw [not_lt] at hbeyond
    rcases hvalue with h | h
    · linarith
    · -- so large a magnitude is whole, and there is one whole number only in `[2 ^ 63, 2 ^ 63 + 1)`
      have hlarge : 2 ^ BinaryFormat.double.precision ≤ x.magnitude :=
        le_trans (pow_le_pow_right₀ one_le_two (by decide)) hbeyond
      obtain ⟨n, hn⟩ := hx.exists_natCast (by decide) hlarge
      have hnext : x.magnitude < 2 ^ 63 + 1 := by linarith
      rw [hn] at hbeyond hnext
      have hlower : 2 ^ 63 ≤ n := by exact_mod_cast hbeyond
      have hupper : n < 2 ^ 63 + 1 := by exact_mod_cast hnext
      have hsame : n = 2 ^ 63 := by omega
      apply hne
      rw [h, hn, hsame, Nat.cast_pow, Nat.cast_ofNat]

end Number

/-- A number stands for its whole part if that has 64 bits, unless it is the least double. -/
theorem toInteger?_of_contains {n : Number} (hn : n.IsProper)
    (hcontains : int64.contains (towardZero n.value) = true) (hleast : ¬ n.IsLeastDouble) :
    (number n).toInteger? = some (towardZero n.value) := by
  cases n with
  | int i =>
    rw [Number.value, towardZero_intCast] at hcontains ⊢
    rw [toInteger?_int, if_pos hcontains]
  | float x =>
    have hwithin := (Number.withinInt64_iff_of_isOf hn).2 ⟨hcontains, hleast⟩
    rw [Number.value, ← Binary.trunc_eq_towardZero]
    exact if_pos hwithin

/-- Every other number stands for no integer. -/
theorem toInteger?_eq_none {n : Number} (hn : n.IsProper)
    (hunfit : int64.contains (towardZero n.value) = true → n.IsLeastDouble) :
    (number n).toInteger? = none := by
  cases n with
  | int i =>
    rw [Number.value, towardZero_intCast] at hunfit
    rw [toInteger?_int, if_neg hunfit]
  | float x =>
    have hbeyond : ¬ withinInt64 x = true := by
      rw [Number.withinInt64_iff_of_isOf hn]
      exact fun h ↦ h.2 (hunfit h.1)
    exact if_neg hbeyond

end Json

namespace Field

/-- The value is refused under the name of the field, as one that is not valid. -/
def Refuses (f : Field) (v : Json) : Prop :=
  ∃ fault, f.coerceScalar v = .error ⟨f.name, fault⟩ ∧ fault.kind = .value

/-- The field cuts a number toward zero if what is left has 64 bits, and otherwise refuses it. -/
def CutsToFit (f : Field) (n : Json.Number) : Prop :=
  if int64.contains (towardZero n.value) then
    f.coerceScalar (.number n) = .ok (.text (renderInteger (towardZero n.value)))
  else f.Refuses (.number n)

section

variable {f : Field} {n : Json.Number} (htype : f.type = .int)
include htype

theorem coerceScalar_of_toInteger? (hoptions : f.options = none) (hencoder : f.encoder = none)
    {i : ℤ} (h : (Json.number n).toInteger? = some i) :
    f.coerceScalar (.number n) = .ok (.text (renderInteger i)) := by
  have hcast : f.cast (.number n) = .ok (renderInteger i) := by
    rw [cast, htype, FieldType.cast, h]
  have hcoerce : f.coerceScalar (.number n) = (f.cast (.number n)).map Param.text := by
    simp [coerceScalar, Json.isNull, hcast, admits, encode, hoptions, hencoder, bind, Except.bind,
      Except.map, pure, Except.pure]
  rw [hcoerce, hcast]
  rfl

theorem refuses_of_toInteger? (h : (Json.number n).toInteger? = none) :
    f.Refuses (.number n) := by
  have hcast : f.cast (.number n) = .error ⟨f.name, .notInteger (Json.number n).render⟩ := by
    rw [cast, htype, FieldType.cast, h]
    rfl
  refine ⟨.notInteger (Json.number n).render, ?_, rfl⟩
  have hgiven : (Json.number n).isNull = false := rfl
  rw [coerceScalar, hgiven, hcast]
  rfl

/-- An integer field without options and encoder cuts every number toward zero, whether it comes as
an integer or as a double, and takes exactly those of which an integer of 64 bits is left; what it
takes is bound as the digits of this integer, and the others are refused under its name. The one
number that falls out of this law is the least integer of 64 bits if it comes as a double: it is
refused, though it fits. -/
theorem cutsToFit_iff (hoptions : f.options = none) (hencoder : f.encoder = none)
    (hn : n.IsProper) :
    (f.CutsToFit n ↔ ¬ n.IsLeastDouble) ∧
      (n.IsLeastDouble → int64.contains (towardZero n.value) = true ∧ f.Refuses (.number n)) := by
  have hrefused (hleast : n.IsLeastDouble) : f.Refuses (.number n) :=
    refuses_of_toInteger? htype (Json.toInteger?_eq_none hn fun _ ↦ hleast)
  refine ⟨?_, fun hleast ↦ ⟨Json.Number.contains_of_isLeastDouble hleast, hrefused hleast⟩⟩
  rw [CutsToFit]
  split
  · rename_i hcontains
    constructor
    · intro htaken hleast
      obtain ⟨fault, hfails, _⟩ := hrefused hleast
      rw [htaken] at hfails
      cases hfails
    · intro hleast
      exact coerceScalar_of_toInteger? htype hoptions hencoder
        (Json.toInteger?_of_contains hn hcontains hleast)
  · rename_i hunfit
    have hnone := Json.toInteger?_eq_none hn fun hcontains ↦ absurd hcontains hunfit
    exact iff_of_true (refuses_of_toInteger? htype hnone)
      fun hleast ↦ hunfit (Json.Number.contains_of_isLeastDouble hleast)

end

/-- The double next to the least integer of 64 bits, and the integer next to the greatest one. -/
theorem cutsToFit_next :
    (Field.plain ⟨"id", by decide⟩ .int).coerceScalar
        (.number (.float ⟨true, 9007199254740991, 10⟩)) = .ok (.text "-9223372036854774784") ∧
      (Field.plain ⟨"id", by decide⟩ .int).Refuses (.number (.int 9223372036854775808)) := by
  have hwhole : towardZero (Json.Number.float ⟨true, 9007199254740991, 10⟩).value =
      -9223372036854774784 := (Binary.trunc_eq_towardZero _).symm.trans (by decide)
  have hlarge : towardZero (Json.Number.int 9223372036854775808).value = 9223372036854775808 :=
    towardZero_intCast _
  have hproper : (Json.Number.float ⟨true, 9007199254740991, 10⟩).IsProper :=
    ⟨14114281232179134463, by decide⟩
  have hother : ¬ (Json.Number.float ⟨true, 9007199254740991, 10⟩).IsLeastDouble := by
    norm_num [Json.Number.IsLeastDouble, Binary.value, Binary.magnitude]
  have hcuts := (cutsToFit_iff (f := .plain ⟨"id", by decide⟩ .int) rfl rfl rfl hproper).1.2 hother
  have hrefuses := (cutsToFit_iff (f := .plain ⟨"id", by decide⟩ .int)
    (n := .int 9223372036854775808) rfl rfl rfl trivial).1.2 id
  rw [CutsToFit, hwhole, if_pos (by decide)] at hcuts
  rw [CutsToFit, hlarge, if_neg (by decide)] at hrefuses
  exact ⟨hcuts, hrefuses⟩

/-- The least integer of 64 bits is a double too, but as one it is refused. -/
theorem least_double_refused :
    (Json.Number.float ⟨true, 4503599627370496, 11⟩).IsProper ∧
      towardZero (Json.Number.float ⟨true, 4503599627370496, 11⟩).value = int64.least ∧
      ¬ (Field.plain ⟨"id", by decide⟩ .int).CutsToFit (.float ⟨true, 4503599627370496, 11⟩) := by
  have hwhole : towardZero (Json.Number.float ⟨true, 4503599627370496, 11⟩).value = int64.least :=
    (Binary.trunc_eq_towardZero _).symm.trans (by decide)
  refine ⟨⟨14114281232179134464, by decide⟩, hwhole, ?_⟩
  have hrefused : (Field.plain ⟨"id", by decide⟩ .int).coerceScalar
      (.number (.float ⟨true, 4503599627370496, 11⟩)) = .error ⟨"id", .notInteger _⟩ := rfl
  rw [CutsToFit, hwhole, if_pos (by decide), hrefused]
  exact nofun

end Field

end SchemaSql
