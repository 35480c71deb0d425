import SchemaSql.Number.Power
import SchemaSql.Number.Rounding

/-!
# Binary floating-point numbers

The numbers of an IEEE 754 binary interchange format, as exact values: a finite number is
`± mantissa · 2 ^ exponent`. Rounding takes an exact fraction to the nearest number of the format,
a tie to the one with the even mantissa; every operation is the exact result, rounded once.
-/

namespace SchemaSql

/-- A binary interchange format: bits of precision (the leading one included) and of exponent. -/
structure BinaryFormat where
  precision : Nat
  exponentBits : Nat
deriving DecidableEq

namespace BinaryFormat

def double : BinaryFormat := ⟨53, 11⟩
def single : BinaryFormat := ⟨24, 8⟩

/-- The exponent of the last bit of the smallest numbers. -/
def leastExponent (f : BinaryFormat) : Int :=
  3 - twoPow (f.exponentBits - 1) - f.precision

/-- The exponent of the last bit of the greatest numbers. -/
def greatestExponent (f : BinaryFormat) : Int :=
  twoPow (f.exponentBits - 1) - f.precision

example : double.leastExponent = -1074 ∧ double.greatestExponent = 971 := by decide
example : single.leastExponent = -149 ∧ single.greatestExponent = 104 := by decide

end BinaryFormat

/-- A finite number `± mantissa · 2 ^ exponent`; zero keeps its sign. -/
structure Binary where
  negative : Bool
  mantissa : Nat
  exponent : Int
deriving DecidableEq

inductive Binary.Extended where
  | finite (x : Binary)
  | infinite (negative : Bool)
  | notANumber (negative : Bool)
deriving DecidableEq

namespace Binary

/-! ## Exact value -/

/-- The fraction `num / den`, divided by `2 ^ e`. -/
def shiftFraction (num den : Nat) : Int → Nat × Nat
  | .ofNat k => (num, den * twoPow k)
  | .negSucc k => (num * twoPow (k + 1), den)

def fraction (x : Binary) : Nat × Nat :=
  shiftFraction x.mantissa 1 (-x.exponent)

def isZero (x : Binary) : Bool :=
  x.mantissa == 0

def withSign (x : Binary) (n : Nat) : Int :=
  if x.negative then -n else n

def trunc (x : Binary) : Int :=
  let (a, b) := x.fraction
  x.withSign (a / b)

def floor (x : Binary) : Int :=
  let (a, b) := x.fraction
  x.withSign a / b

/-! ## Rounding -/

/-- The exponent at which `a / b` has exactly the bits of the format's precision before the
point, raised to the least exponent where there are not so many. -/
def unitExponent (f : BinaryFormat) (a b : Nat) : Int :=
  let guess : Int := (a.log2 : Int) - b.log2 - f.precision
  let (n, d) := shiftFraction a b guess
  max (if n < d * twoPow f.precision then guess else guess + 1) f.leastExponent

/-- The number of the format nearest to `± a / b`. -/
def round (f : BinaryFormat) (negative : Bool) (a b : Nat) : Extended :=
  if a = 0 then .finite ⟨negative, 0, f.leastExponent⟩
  else
    let e := unitExponent f a b
    let (n, d) := shiftFraction a b e
    let m := nearestEven n d
    let (m, e) := if m = twoPow f.precision then (twoPow (f.precision - 1), e + 1) else (m, e)
    if f.greatestExponent < e then .infinite negative else .finite ⟨negative, m, e⟩

/-- Beyond so many decimal places no number of a format in use is finite and different from
zero. -/
def decimalReach : Int := 400

/-- The number of the format nearest to `± digits · 10 ^ place`. -/
def ofDecimal (f : BinaryFormat) (negative : Bool) (digits : Nat) (place : Int) : Extended :=
  if digits = 0 then .finite ⟨negative, 0, f.leastExponent⟩
  else
    let leading : Int := (Nat.toDigits 10 digits).length + place
    if decimalReach < leading then .infinite negative
    else if leading < -decimalReach then .finite ⟨negative, 0, f.leastExponent⟩
    else
      match place with
      | .ofNat k => round f negative (digits * tenPow k) 1
      | .negSucc k => round f negative digits (tenPow (k + 1))

def ofInt (f : BinaryFormat) (n : Int) : Extended :=
  round f (n < 0) n.natAbs 1

/-! ## Arithmetic -/

def mul (f : BinaryFormat) (x y : Binary) : Extended :=
  let (a, b) := x.fraction
  let (c, d) := y.fraction
  round f (x.negative != y.negative) (a * c) (b * d)

def div (f : BinaryFormat) (x y : Binary) : Extended :=
  let (a, b) := x.fraction
  let (c, d) := y.fraction
  round f (x.negative != y.negative) (a * d) (b * c)

/-- The part of a number above its floor, rounded. -/
def fractionalPart (f : BinaryFormat) (x : Binary) : Extended :=
  let (a, b) := x.fraction
  round f false ((x.withSign a) % b).toNat b

/-- The natural number nearest to the magnitude, a tie away from zero. -/
def nearest (x : Binary) : Nat :=
  let (a, b) := x.fraction
  nearestAway a b

/-! ## Interchange encoding -/

namespace Extended

def magnitudeBits (f : BinaryFormat) : Extended → Nat
  | .finite x =>
    let hidden := twoPow (f.precision - 1)
    if x.mantissa < hidden then x.mantissa
    else (x.exponent - f.leastExponent).toNat * hidden + x.mantissa
  | .infinite _ => (twoPow f.exponentBits - 1) * twoPow (f.precision - 1)
  | .notANumber _ =>
    (twoPow f.exponentBits - 1) * twoPow (f.precision - 1) + twoPow (f.precision - 2)

def isNegative : Extended → Bool
  | .finite x => x.negative
  | .infinite negative => negative
  | .notANumber negative => negative

/-- The encoding, read as a natural number: sign, exponent, mantissa without its leading one. -/
def toBits (f : BinaryFormat) (x : Extended) : Nat :=
  (if x.isNegative then twoPow (f.precision - 1 + f.exponentBits) else 0) + x.magnitudeBits f

def ofBits (f : BinaryFormat) (bits : Nat) : Extended :=
  let hidden := twoPow (f.precision - 1)
  let negative := bits / twoPow (f.precision - 1 + f.exponentBits) % 2 == 1
  let exponent := bits / hidden % twoPow f.exponentBits
  let mantissa := bits % hidden
  if exponent = twoPow f.exponentBits - 1 then
    if mantissa = 0 then .infinite negative else .notANumber negative
  else if exponent = 0 then .finite ⟨negative, mantissa, f.leastExponent⟩
  else .finite ⟨negative, hidden + mantissa, f.leastExponent + exponent - 1⟩

/-- The same value in another format, where it is rounded if it has to be. -/
def convert (f : BinaryFormat) : Extended → Extended
  | .finite x =>
    let (a, b) := x.fraction
    round f x.negative a b
  | .infinite negative => .infinite negative
  | .notANumber negative => .notANumber negative

def toFinite? : Extended → Option Binary
  | .finite x => some x
  | _ => none

end Extended

end Binary

end SchemaSql
