import SchemaSql.Number.Binary

/-!
# The shortest decimal of a binary number

Of the decimals that read back as the same binary number, those with the fewest digits are kept,
and of these the one nearest to the number. Two may be equally near; then a layout decides.
-/

namespace SchemaSql

inductive Tie where
  /-- The one whose last digit is even. -/
  | toEven
  /-- The one of greater magnitude. -/
  | away
deriving DecidableEq

/-- A positive decimal number `digits · 10 ^ place`. -/
structure Decimal where
  digits : Nat
  place : Int
deriving DecidableEq

namespace Decimal

def text (d : Decimal) : List Char :=
  Nat.toDigits 10 d.digits

def leading (d : Decimal) : Int :=
  d.place + d.text.length - 1

def dropZeros (digits : Nat) (place : Int) : Decimal :=
  if h : digits ≠ 0 ∧ digits % 10 = 0 then dropZeros (digits / 10) (place + 1)
  else ⟨digits, place⟩
termination_by digits

end Decimal

namespace Binary

/-- The place of the leading decimal digit of `a / b`. -/
def leadingPlace (a b : Nat) : Int :=
  if b ≤ a then ((Nat.toDigits 10 (a / b)).length : Int) - 1
  else
    -- the least power of ten that takes the fraction to one or more
    -((Nat.toDigits 10 ((b + a - 1) / a - 1)).length : Int)

def inPlaces (a b : Nat) : Int → Nat × Nat
  | .ofNat k => (a, b * tenPow k)
  | .negSucc k => (a * tenPow (k + 1), b)

/-- Of the two decimals around `a / b` at a place, the nearest of those that read back as `x`. -/
def nearestReading (f : BinaryFormat) (tie : Tie) (x : Binary) (a b : Nat) (place : Int) :
    Option Nat :=
  let (n, d) := inPlaces a b place
  let low := n / d
  let reads (digits : Nat) : Bool := ofDecimal f x.negative digits place == .finite x
  let takeHigh : Bool :=
    let twice := 2 * (n % d)
    if twice = d then
      match tie with
      | .toEven => low % 2 == 1
      | .away => true
    else d < twice
  match reads low, reads (low + 1) with
  | true, true => some (if takeHigh then low + 1 else low)
  | true, false => some low
  | false, true => some (low + 1)
  | false, false => none

/-- So many digits tell any two numbers of a format in use apart. -/
def digitReach : Nat := 17

def shortest (f : BinaryFormat) (tie : Tie) (x : Binary) : Decimal :=
  let (a, b) := x.fraction
  let top := leadingPlace a b
  let attempt (count : Nat) : Option Decimal :=
    let place := top - count
    (nearestReading f tie x a b place).map fun digits ↦ .dropZeros digits place
  ((List.range digitReach).findSome? attempt).getD ⟨a, 0⟩

end Binary

end SchemaSql
