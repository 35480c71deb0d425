/-!
# Rounding of quotients

The natural number nearest to a fraction. A fraction in the middle of two numbers goes to the even
one, or away from zero.
-/

namespace SchemaSql

/-- The natural number nearest to `a / b`, a tie to the even one. -/
def nearestEven (a b : Nat) : Nat :=
  if 2 * (a % b) < b then a / b
  else if b < 2 * (a % b) then a / b + 1
  else a / b + a / b % 2

/-- The natural number nearest to `a / b`, a tie to the greater one. -/
def nearestAway (a b : Nat) : Nat :=
  (2 * a + b) / (2 * b)

end SchemaSql
