import SchemaSql.Number.Integer
import SchemaSql.Number.Rounding

/-!
# Fixed-point decimals

A sign, an integer of 96 bits and a number of decimal places. What does not fit is rounded to
fewer places; an integer part that does not fit is an error. A text may end in an exponent, a
power of ten no further from zero than the places. Decimals are exchanged in groups of four decimal
digits, aligned at the point.
-/

namespace SchemaSql

/-- The number `± digits / 10 ^ places`. -/
structure Numeric where
  negative : Bool
  digits : Nat
  places : Nat
deriving DecidableEq

namespace Numeric

/-- Digits are below this bound. -/
def bound : Nat := twoPow 96

/-- No more than so many places are kept. -/
def greatestPlaces : Nat := 28

/-! ## Places -/

/-- Brings a number to so many places, up to the greatest number of them: fewer by the first digit
that is dropped, a half up; more while the bound allows. -/
def rescale (digits places wanted : Nat) : Nat × Nat :=
  let wanted := min wanted greatestPlaces
  if digits = 0 then (0, wanted)
  else if wanted < places then
    let dropped := places - wanted
    ((digits / tenPow (dropped - 1) + 5) / 10, wanted)
  else
    let added := ((List.range (wanted - places + 1)).reverse.find? fun k ↦
      digits * tenPow k < bound).getD 0
    (digits * tenPow added, places + added)

/-- Divides by a power of ten. Digits that come behind the last place round those before it. -/
def shiftDown (digits places power : Nat) : Nat × Nat :=
  if greatestPlaces < places + power then
    ((rescale digits places (greatestPlaces - power)).1, greatestPlaces)
  else (digits, places + power)

/-- Multiplies by a power of ten, if the result is within the bound. -/
def shiftUp (digits places power : Nat) : Option (Nat × Nat) :=
  if power ≤ places then some (digits, places - power)
  else
    let whole := digits * tenPow (power - places)
    if whole < bound then some (whole, 0) else none

/-! ## Reading -/

/-- Digits of a number that is collected in one word stay below this bound. -/
def narrowBound : Nat := twoPow 64 / 10 - 255

/-- Rounds up by one. If that leaves the bound, the last place is dropped. -/
def roundUp (digits places : Nat) : Option (Nat × Nat) :=
  if digits + 1 < bound then some (digits + 1, places)
  else if places = 0 then none
  else some ((digits + 5) / 10, places - 1)

/-- Ends a number that is full. Only digits and underscores may follow. The first of them rounds
the number, a half up; an underscore counts as zero. -/
def finish (digits places : Nat) (rest : List Char) : Option (Nat × Nat) :=
  if rest.all fun c ↦ c.isDigit || c == '_' then
    if rest.head?.any fun c ↦ c.isDigit && 5 ≤ IntegerRange.digitValue c then
      roundUp digits places
    else some (digits, places)
  else none

/-- What is left after the last place. A number of more than one word is rounded by the next
digit, also when underscores stand before it. -/
def afterPlaces (digits : Nat) (rest : List Char) : List Char :=
  if digits < narrowBound then rest else rest.dropWhile (· == '_')

/-- Collects digits with at most one point. Underscores may follow a digit. -/
def collect (point started : Bool) (digits places : Nat) : List Char → Option (Nat × Nat)
  | [] => if started then some (digits, places) else none
  | c :: cs =>
    if c.isDigit then
      let next := digits * 10 + IntegerRange.digitValue c
      if bound ≤ next then if point then finish digits places (c :: cs) else none
      else
        let places := if point then places + 1 else places
        if greatestPlaces ≤ places then finish next places (afterPlaces digits cs)
        else collect point true next places cs
    else if c = '.' && !point then collect true started digits places cs
    else if c = '_' && started then collect point started digits places cs
    else none

/-- Reads digits after an optional sign; the sign comes first in the result. -/
def readSigned? (cs : List Char) : Option (Bool × Nat × Nat) :=
  match cs with
  | '-' :: r => (collect false false 0 0 r).map (true, ·)
  | '+' :: r => (collect false false 0 0 r).map (false, ·)
  | r => (collect false false 0 0 r).map (false, ·)

def powers : IntegerRange := ⟨0, greatestPlaces⟩

/-- Reads a power of ten: digits, which a plus may precede. -/
def readPower? (cs : List Char) : Option Nat :=
  let digits :=
    match cs with
    | '+' :: r => r
    | r => r
  if digits.isEmpty then none
  else (powers.readDigits false 0 digits).toOption.map Int.toNat

def scale? (digits places : Nat) (exponent : List Char) : Option (Nat × Nat) :=
  match exponent with
  | '-' :: r => (readPower? r).map (shiftDown digits places)
  | r => (readPower? r).bind (shiftUp digits places)

/-- Reads a whole text as a decimal, with or without an exponent; zero has no sign. -/
def read? (cs : List Char) : Option Numeric := do
  let (base, rest) := cs.span fun c ↦ c != 'e' && c != 'E'
  let (negative, digits, places) ← readSigned? base
  let (digits, places) ←
    match rest with
    | [] => some (digits, places)
    | _ :: exponent => scale? digits places exponent
  return ⟨negative && digits != 0, digits, places⟩

/-! ## Writing -/

def write (x : Numeric) : List Char :=
  let text := Nat.toDigits 10 x.digits
  let padded := List.replicate (x.places + 1 - text.length) '0' ++ text
  let whole := padded.take (padded.length - x.places)
  let part := padded.drop (padded.length - x.places)
  (if x.negative then ['-'] else []) ++ whole ++ (if part.isEmpty then [] else '.' :: part)

/-! ## Groups of four digits -/

/-- A decimal in groups: the first one counts ten thousands to the power `weight`. -/
structure Groups where
  groups : List Nat
  weight : Int
  negative : Bool
  places : Nat
deriving DecidableEq

def groupBase : Nat := 10000

def toGroups (n : Nat) : List Nat :=
  if n = 0 then [] else toGroups (n / groupBase) ++ [n % groupBase]
termination_by n
decreasing_by exact Nat.div_lt_self (by omega) (by decide)

/-- A decimal in groups. Groups of zeros at its end are left out behind the point. -/
def group (x : Numeric) : Groups :=
  if x.digits = 0 then ⟨[], 0, false, 0⟩
  else
    let behind := (x.places + 3) / 4
    let groups := toGroups (x.digits * tenPow (4 * behind - x.places))
    let before := groups.length - behind
    let kept :=
      if groups.length ≤ behind then groups
      else
        groups.take before ++ ((groups.drop before).reverse.dropWhile (· == 0)).reverse
    ⟨kept, (groups.length : Int) - behind - 1, x.negative, x.places⟩

/-- `digits / 10 ^ places` with as many of the places as the bound allows; a tie goes to the even
number. -/
def fit (digits : Nat) : Nat → Option (Nat × Nat)
  | 0 => if digits < bound then some (digits, 0) else none
  | places + 1 =>
    ((List.range (places + 2)).find? fun dropped ↦ nearestEven digits (tenPow dropped) < bound).map
      fun dropped ↦ (nearestEven digits (tenPow dropped), places + 1 - dropped)

def add (x y : Nat × Nat) : Option (Nat × Nat) :=
  let places := max x.2 y.2
  fit (x.1 * tenPow (places - x.2) + y.1 * tenPow (places - y.2)) places

/-- The integer of some groups after which so many are missing, if it and the power of ten of the
missing groups are within the bound. -/
def wholePart (groups : List Nat) (missing : Nat) : Option Nat := do
  let n ← groups.foldlM (fun n g ↦
    let next := n * groupBase + g
    if next < bound then some next else none) 0
  let power := tenPow (4 * missing)
  if power < bound && n * power < bound then some (n * power) else none

/-- A group behind the point, the last of whose digits is at a place. Beyond the places that are
kept, the next group rounds them. -/
def fractionGroup (place g : Nat) : Nat × Nat :=
  if place ≤ greatestPlaces then (g, place)
  else if place = greatestPlaces + 4 && 5000 ≤ g then (1, greatestPlaces)
  else (0, 0)

def addFraction (sum : Nat × Nat) (place : Nat) : List Nat → Option (Nat × Nat)
  | [] => some sum
  | g :: gs => do
    let sum ← add sum (fractionGroup place g)
    addFraction sum (place + 4) gs

def ofGroups? (g : Groups) : Option Numeric := do
  let before := (g.weight + 1).toNat
  let whole ← wholePart (g.groups.take before) (before - g.groups.length)
  let first := 4 * ((-g.weight - 1).toNat + 1)
  let (digits, places) ← addFraction (whole, 0) first (g.groups.drop before)
  let (digits, places) := rescale digits places g.places
  return ⟨g.negative, digits, places⟩

end Numeric

end SchemaSql
