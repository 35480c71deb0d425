import SchemaSql.Calendar.Moment
import SchemaSql.Number.Binary

/-!
# Timestamps

A number as a count of seconds of universal time from the beginning of 1970. Its part behind the
point is taken to the nearest nanosecond, as far as the second allows.
-/

namespace SchemaSql

namespace Moment

/-- The nanoseconds of the part of a number behind the point, computed with doubles. -/
def timestampNanos (x : Binary) : Nat :=
  match x.fractionalPart .double with
  | .finite part =>
    match part.mul .double ⟨false, ClockTime.secondNanos, 0⟩ with
    | .finite nanos => min nanos.nearest (ClockTime.secondNanos - 1)
    | _ => 0
  | _ => 0

def ofTimestamp? (x : Binary) : Option Moment :=
  ofNanos? ((Date.unixEpoch * 86400 + x.floor) * ClockTime.secondNanos + timestampNanos x) (some 0)

end Moment

end SchemaSql
