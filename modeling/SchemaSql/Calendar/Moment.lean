import SchemaSql.Calendar.Date

/-!
# Moments

A time of a day, to the nanosecond and with room for a leap second, and a moment: a date and a
time on some clock, with the clock's offset from universal time where it is known. Moments are
counted in nanoseconds from the first instant of the year 1 on the same clock.
-/

namespace SchemaSql

/-! ## Times of a day -/

/-- A time of a day. The sixtieth second of a minute is a leap second. -/
structure ClockTime where
  hour : Nat
  minute : Nat
  second : Nat
  nano : Nat
  real : (hour < 24 ∧ minute < 60) ∧ second ≤ 60 ∧ nano < 1000000000
deriving DecidableEq

namespace ClockTime

def ofClock? (hour minute second nano : Nat) : Option ClockTime :=
  if h : (hour < 24 ∧ minute < 60) ∧ second ≤ 60 ∧ nano < 1000000000 then
    some ⟨hour, minute, second, nano, h⟩
  else none

def midnight : ClockTime :=
  ⟨0, 0, 0, 0, by decide⟩

def secondNanos : Nat := 1000000000

def dayNanos : Nat := 86400 * secondNanos

def nanos (t : ClockTime) : Nat :=
  ((t.hour * 60 + t.minute) * 60 + t.second) * secondNanos + t.nano

def ofNanos? (n : Nat) : Option ClockTime :=
  let seconds := n / secondNanos
  ofClock? (seconds / 3600) (seconds / 60 % 60) (seconds % 60) (n % secondNanos)

/-- The fraction of a second in groups of three digits, as many as it takes. -/
def writeFraction (nano : Nat) : List Char :=
  if nano = 0 then []
  else if nano % 1000000 = 0 then '.' :: Date.padded 3 (nano / 1000000)
  else if nano % 1000 = 0 then '.' :: Date.padded 6 (nano / 1000)
  else '.' :: Date.padded 9 nano

/-- The time as `HH:MM:SS`, with the fraction of the second if there is one. -/
def write (t : ClockTime) : List Char :=
  Date.padded 2 t.hour ++ ':' :: (Date.padded 2 t.minute ++ ':' :: (Date.padded 2 t.second ++
    writeFraction t.nano))

end ClockTime

/-! ## Moments -/

/-- A date and a time, and how many minutes the clock is ahead of universal time. -/
structure Moment where
  date : Date
  time : ClockTime
  ahead : Option Int
deriving DecidableEq

namespace Moment

def clockNanos (m : Moment) : Int :=
  m.date.number * ClockTime.dayNanos + m.time.nanos

/-- The nanoseconds of universal time; a clock of unknown offset is taken to show it. -/
def universalNanos (m : Moment) : Int :=
  m.clockNanos - m.ahead.getD 0 * (60 * ClockTime.secondNanos)

/-- The moment after so many nanoseconds on a clock, if its year is dated. -/
def ofNanos? (n : Int) (ahead : Option Int) : Option Moment := do
  let date ← Date.ofNumber? (n / ClockTime.dayNanos)
  let time ← ClockTime.ofNanos? (n % ClockTime.dayNanos).toNat
  return ⟨date, time, ahead⟩

/-- The day of universal time on which a minute lies that a clock shows. -/
def universalDay (date : Date) (time : ClockTime) (ahead : Int) : Int :=
  (date.number * 1440 + (time.hour * 60 + time.minute : Nat) - ahead) / 1440

/-- A moment of a clock less than a day from universal time; the day of universal time has to be
dated too. -/
def ofClock? (date : Date) (time : ClockTime) (ahead : Int) : Option Moment :=
  if ahead.natAbs < 1440 && (Date.ofNumber? (universalDay date time ahead)).isSome then
    some ⟨date, time, some ahead⟩
  else none

/-! ## Text -/

def writeOffset (ahead : Int) : List Char :=
  (if ahead < 0 then '-' else '+') ::
    (Date.padded 2 (ahead.natAbs / 60) ++ ':' :: Date.padded 2 (ahead.natAbs % 60))

/-- The moment as `YYYY-MM-DD HH:MM:SS`, then the fraction and the offset if there are any. -/
def write (m : Moment) : List Char :=
  m.date.write ++ ' ' :: (m.time.write ++
    match m.ahead with
    | none => []
    | some ahead => writeOffset ahead)

def render (m : Moment) : String :=
  .ofList m.write

end Moment

end SchemaSql
