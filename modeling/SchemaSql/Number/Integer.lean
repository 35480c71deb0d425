import SchemaSql.Number.Power

/-!
# Integers as text

Reading integers of a bounded range, and writing integers. An integer is an optional sign and
decimal digits, nothing else. Digits are taken from the left; the first character that is no
digit, or the first digit that leaves the range, decides the fault.
-/

namespace SchemaSql

structure IntegerRange where
  least : Int
  greatest : Int
deriving DecidableEq

namespace IntegerRange

/-- The two's complement integers of so many bits. -/
def signed (bits : Nat) : IntegerRange :=
  ⟨-twoPow (bits - 1), twoPow (bits - 1) - 1⟩

def contains (r : IntegerRange) (n : Int) : Bool :=
  r.least ≤ n && n ≤ r.greatest

end IntegerRange

inductive IntegerFault where
  | empty
  | badDigit
  | tooLarge
  | tooSmall
deriving DecidableEq

namespace IntegerFault

def message : IntegerFault → String
  | empty => "cannot parse integer from empty string"
  | badDigit => "invalid digit found in string"
  | tooLarge => "number too large to fit in target type"
  | tooSmall => "number too small to fit in target type"

end IntegerFault

namespace IntegerRange

def digitValue (c : Char) : Nat :=
  c.toNat - '0'.toNat

/-- Continues a number by digits that are counted away from zero in the direction of its sign. -/
def readDigits (r : IntegerRange) (negative : Bool) : Int → List Char → Except IntegerFault Int
  | n, [] => .ok n
  | n, c :: cs =>
    if c.isDigit then
      let step : Int := if negative then n * 10 - digitValue c else n * 10 + digitValue c
      if r.greatest < step then .error .tooLarge
      else if step < r.least then .error .tooSmall
      else readDigits r negative step cs
    else .error .badDigit

/-- Reads a whole text as an integer of the range. -/
def read (r : IntegerRange) : List Char → Except IntegerFault Int
  | [] => .error .empty
  | ['+'] => .error .badDigit
  | ['-'] => .error .badDigit
  | '+' :: cs => r.readDigits false 0 cs
  | '-' :: cs => r.readDigits true 0 cs
  | cs => r.readDigits false 0 cs

end IntegerRange

/-! ## Writing -/

def writeInteger (i : Int) : List Char :=
  if i < 0 then '-' :: Nat.toDigits 10 i.natAbs else Nat.toDigits 10 i.natAbs

def renderInteger (i : Int) : String :=
  .ofList (writeInteger i)

/-! ## Ranges in use -/

def int16 : IntegerRange := .signed 16
def int32 : IntegerRange := .signed 32
def int64 : IntegerRange := .signed 64

end SchemaSql
