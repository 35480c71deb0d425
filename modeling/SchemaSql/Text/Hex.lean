/-!
# Bytes in hexadecimal

Two digits a byte, the high one first. Letters are written in lower case and read in either.
-/

namespace SchemaSql.Text

def hexValue? (c : Char) : Option Nat :=
  if c.isDigit then some (c.toNat - '0'.toNat)
  else if 'a' ≤ c && c ≤ 'f' then some (c.toNat - 'a'.toNat + 10)
  else if 'A' ≤ c && c ≤ 'F' then some (c.toNat - 'A'.toNat + 10)
  else none

def hexByte (b : UInt8) : List Char :=
  [Nat.digitChar (b.toNat / 16), Nat.digitChar (b.toNat % 16)]

def hexOfBytes (bytes : List UInt8) : List Char :=
  bytes.flatMap hexByte

/-- The bytes that digits stand for, if every character is a digit and none is left over. -/
def bytesOfHex? : List Char → Option (List UInt8)
  | [] => some []
  | [_] => none
  | a :: b :: cs => do
    let high ← hexValue? a
    let low ← hexValue? b
    let bytes ← bytesOfHex? cs
    return .ofNat (high * 16 + low) :: bytes

theorem hexValue?_digitChar : ∀ n < 16, hexValue? (Nat.digitChar n) = some n := by
  decide

theorem bytesOfHex?_hexOfBytes (bytes : List UInt8) :
    bytesOfHex? (hexOfBytes bytes) = some bytes := by
  induction bytes with
  | nil => rfl
  | cons b bytes ih =>
    have hb := b.toNat_lt
    have hsum : UInt8.ofNat (b.toNat / 16 * 16 + b.toNat % 16) = b := by
      rw [Nat.div_add_mod', UInt8.ofNat_toNat]
    simp only [hexOfBytes] at ih
    simp only [hexOfBytes, hexByte, List.flatMap_cons, List.cons_append, List.nil_append,
      bytesOfHex?, hexValue?_digitChar (b.toNat / 16) (by omega),
      hexValue?_digitChar (b.toNat % 16) (by omega), ih, Option.bind_eq_bind,
      Option.bind_some, Option.pure_def, hsum]

end SchemaSql.Text
