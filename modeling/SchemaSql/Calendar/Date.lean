/-!
# Dates

Days of the Gregorian calendar, extended to all years, and their count from the first day of the
year 1. A year before it has a number that is not positive.
-/

namespace SchemaSql

namespace Date

/-! ## The calendar -/

def isLeap (year : Int) : Bool :=
  year % 4 == 0 && (year % 100 != 0 || year % 400 == 0)

def monthLength (year : Int) (month : Nat) : Nat :=
  match month with
  | 2 => if isLeap year then 29 else 28
  | 4 | 6 | 9 | 11 => 30
  | _ => 31

def firstYear : Int := -262143

def lastYear : Int := 262142

/-- Whether the numbers name a day of a year that is dated. -/
def isReal (year : Int) (month day : Nat) : Bool :=
  firstYear ≤ year && year ≤ lastYear && 1 ≤ month && month ≤ 12 && 1 ≤ day &&
    day ≤ monthLength year month

end Date

structure Date where
  year : Int
  month : Nat
  day : Nat
  real : Date.isReal year month day = true
deriving DecidableEq

namespace Date

def ofCivil? (year : Int) (month day : Nat) : Option Date :=
  if h : isReal year month day = true then some ⟨year, month, day, h⟩ else none

/-! ## Counting days -/

/-- The days between the first day of year 1 and that of another year. -/
def daysBeforeYear (year : Int) : Int :=
  let past := year - 1
  365 * past + past / 4 - past / 100 + past / 400

def daysBeforeMonth (year : Int) (month : Nat) : Nat :=
  (List.range (month - 1)).foldl (fun days k ↦ days + monthLength year (k + 1)) 0

/-- The number of a day, zero for the first day of year 1. -/
def number (d : Date) : Int :=
  daysBeforeYear d.year + daysBeforeMonth d.year d.month + (d.day - 1)

/-- The days of four hundred years, after which the calendar repeats itself. -/
def cycleDays : Int := 146097

/-- The year in which the day of a number lies. A cycle has four centuries and a century
twenty-five times four years; the last century and the last year of each are a day longer. -/
def yearOfNumber (n : Int) : Int :=
  let cycle := n / cycleDays
  let inCycle := n % cycleDays
  let century := min (inCycle / 36524) 3
  let inCentury := inCycle - 36524 * century
  let four := inCentury / 1461
  let inFour := inCentury % 1461
  let one := min (inFour / 365) 3
  400 * cycle + 100 * century + 4 * four + one + 1

/-- The month in which a day lies that has so many days of the year before it. -/
def monthOfDay (year : Int) (passed : Nat) : Nat :=
  ((List.range 12).filter fun k ↦ daysBeforeMonth year (k + 1) ≤ passed).length

/-- The day of a number, if its year is dated. -/
def ofNumber? (n : Int) : Option Date :=
  let year := yearOfNumber n
  let passed := (n - daysBeforeYear year).toNat
  let month := monthOfDay year passed
  ofCivil? year month (passed - daysBeforeMonth year month + 1)

def unixEpoch : Int := 719162

/-- The number of 1 January 2000. -/
def millennium : Int := 730119

example : (ofCivil? 1970 1 1).map number = some unixEpoch := by decide
example : (ofCivil? 2000 1 1).map number = some millennium := by decide

/-! ## Text -/

/-- A natural number with zeros before it up to a width. -/
def padded (width n : Nat) : List Char :=
  let digits := Nat.toDigits 10 n
  List.replicate (width - digits.length) '0' ++ digits

/-- A year of four digits; beyond those a sign comes before it. -/
def writeYear (year : Int) : List Char :=
  if year < 0 then '-' :: padded 4 year.natAbs
  else if 9999 < year then '+' :: padded 4 year.natAbs
  else padded 4 year.natAbs

/-- The day as `YYYY-MM-DD`. -/
def write (d : Date) : List Char :=
  writeYear d.year ++ '-' :: (padded 2 d.month ++ '-' :: padded 2 d.day)

end Date

end SchemaSql
