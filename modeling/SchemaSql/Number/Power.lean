/-!
# Powers

The powers that the encodings of numbers are made of: of two for bits and bytes, of ten for
decimal places.
-/

namespace SchemaSql

def twoPow (k : Nat) : Nat :=
  Nat.pow 2 k

def tenPow (k : Nat) : Nat :=
  Nat.pow 10 k

def bytePow (width : Nat) : Nat :=
  Nat.pow 256 width

@[simp]
theorem bytePow_zero : bytePow 0 = 1 := rfl

theorem twoPow_succ (k : Nat) : twoPow (k + 1) = 2 * twoPow k := by
  rw [Nat.mul_comm]
  rfl

theorem bytePow_succ (width : Nat) : bytePow (width + 1) = 256 * bytePow width := by
  rw [Nat.mul_comm]
  rfl

theorem twoPow_pos (k : Nat) : 0 < twoPow k := Nat.pow_pos (by decide)

theorem bytePow_pos (width : Nat) : 0 < bytePow width := Nat.pow_pos (by decide)

end SchemaSql
