import SchemaSql.Number.Power

/-!
# Bytes

Numbers in big-endian order and texts in UTF-8, as they travel to and from a server.
-/

namespace SchemaSql.Wire

abbrev Bytes := List UInt8

/-! ## Numbers -/

/-- The last bytes of a number, the high one first. -/
def bigEndian : Nat → Nat → Bytes
  | 0, _ => []
  | width + 1, n => bigEndian width (n / 256) ++ [.ofNat n]

def ofBigEndian (bytes : Bytes) : Nat :=
  bytes.foldl (fun n b ↦ n * 256 + b.toNat) 0

/-- An integer in two's complement. -/
def signedBytes (width : Nat) (i : Int) : Bytes :=
  bigEndian width (i % bytePow width).toNat

def ofSignedBytes (bytes : Bytes) : Int :=
  (ofBigEndian bytes : Int).bmod (bytePow bytes.length)

def takeBytes (width : Nat) (bytes : Bytes) : Option (Bytes × Bytes) :=
  if bytes.length < width then none else some (bytes.take width, bytes.drop width)

def takeInt32 (bytes : Bytes) : Option (Int × Bytes) :=
  (takeBytes 4 bytes).map fun (b, r) ↦ (ofSignedBytes b, r)

@[simp]
theorem length_bigEndian (width n : Nat) : (bigEndian width n).length = width := by
  induction width generalizing n with
  | zero => rfl
  | succ width ih => simp [bigEndian, ih]

theorem ofBigEndian_append_singleton (bytes : Bytes) (b : UInt8) :
    ofBigEndian (bytes ++ [b]) = ofBigEndian bytes * 256 + b.toNat := by
  simp [ofBigEndian]

theorem ofBigEndian_bigEndian (width n : Nat) :
    ofBigEndian (bigEndian width n) = n % bytePow width := by
  induction width generalizing n with
  | zero => simp [bigEndian, ofBigEndian, Nat.mod_one]
  | succ width ih =>
    have hsplit : n % bytePow (width + 1) = n % 256 + 256 * (n / 256 % bytePow width) := by
      rw [bytePow_succ, Nat.mod_mul]
    rw [bigEndian, ofBigEndian_append_singleton, ih, UInt8.toNat_ofNat', hsplit]
    omega

theorem takeBytes_append {width : Nat} {bytes : Bytes} (rest : Bytes)
    (h : bytes.length = width) : takeBytes width (bytes ++ rest) = some (bytes, rest) := by
  subst h
  simp [takeBytes]

/-! ## Texts -/

def utf8 (s : String) : Bytes :=
  s.toUTF8.data.toList

def ofUtf8? (bytes : Bytes) : Option String :=
  String.fromUTF8? ⟨bytes.toArray⟩

theorem ofUtf8?_utf8 (s : String) : ofUtf8? (utf8 s) = some s := by
  simpa [ofUtf8?, utf8, String.fromUTF8?] using ⟨s.isValidUTF8, rfl⟩

end SchemaSql.Wire
