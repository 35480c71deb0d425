import Mathlib.Data.List.Basic
import SchemaSql.Wire.Decoding

/-!
# Reading bytes back

An integer is read from its bytes in two's complement, and an array from its header and its
elements, as far as the lengths within can be told by signed numbers of 32 bits. So can the length
of anything that travels as one value, and an array is longer than each of its elements.
-/

namespace SchemaSql.Wire

/-! ## Integers -/

@[simp]
theorem length_signedBytes (width : Nat) (i : Int) : (signedBytes width i).length = width :=
  length_bigEndian _ _

/-- An integer in the range of so many bytes is read back from them. -/
theorem ofSignedBytes_signedBytes {width : Nat} {i : Int} (hlow : -(bytePow width : Int) ≤ i * 2)
    (hhigh : i * 2 < bytePow width) : ofSignedBytes (signedBytes width i) = i := by
  have hpos : (0 : Int) < bytePow width := Int.natCast_pos.2 (bytePow_pos width)
  have hvalue : (ofBigEndian (signedBytes width i) : Int) = i % bytePow width := by
    rw [signedBytes, ofBigEndian_bigEndian, Int.natCast_emod,
      Int.toNat_of_nonneg (Int.emod_nonneg i (Int.ne_of_gt hpos)), Int.emod_emod]
  calc
    ofSignedBytes (signedBytes width i) = (i % (bytePow width : Int)).bmod (bytePow width) := by
      rw [ofSignedBytes, hvalue, length_signedBytes]
    _ = i.bmod (bytePow width) := Int.emod_bmod i _
    _ = i := Int.bmod_eq_of_le_mul_two hlow hhigh

/-- A length that a signed number of 32 bits can tell. -/
def FitsLength (n : Nat) : Prop :=
  n < twoPow 31

instance (n : Nat) : Decidable (FitsLength n) :=
  inferInstanceAs (Decidable (n < twoPow 31))

theorem ofSignedBytes_length {n : Nat} (h : FitsLength n) :
    ofSignedBytes (signedBytes 4 n) = n := by
  have hbound : n < 2147483648 := h
  have hwidth : bytePow 4 = 4294967296 := rfl
  exact ofSignedBytes_signedBytes (by omega) (by omega)

theorem takeInt32_append {b : Bytes} (h : b.length = 4) (rest : Bytes) :
    takeInt32 (b ++ rest) = some (ofSignedBytes b, rest) := by
  rw [takeInt32, takeBytes_append rest h, Option.map_some]

/-! ## Arrays -/

/-- The elements of an array are taken one after another, each with its length. -/
theorem takeElements_flatMap {cells : List (Option Bytes)}
    (h : ∀ b, some b ∈ cells → FitsLength b.length) :
    takeElements cells.length (cells.flatMap lengthPrefixed) = some cells := by
  induction cells with
  | nil => rfl
  | cons cell cells ih =>
    have hrest := ih fun b hb ↦ h b (List.mem_cons_of_mem cell hb)
    rw [List.length_cons, takeElements, List.flatMap_cons]
    cases cell with
    | none =>
      have hnull : takeInt32 (signedBytes 4 (-1) ++ cells.flatMap lengthPrefixed) =
          some (-1, cells.flatMap lengthPrefixed) := by
        rw [takeInt32_append (length_signedBytes 4 _),
          ofSignedBytes_signedBytes (by decide) (by decide)]
      rw [lengthPrefixed, hnull]
      simp [hrest]
    | some b =>
      rw [lengthPrefixed, List.append_assoc, takeInt32_append (length_signedBytes 4 _),
        ofSignedBytes_length (h b List.mem_cons_self), Option.bind_eq_bind, Option.bind_some]
      dsimp only
      rw [if_neg (by omega), Int.toNat_natCast, takeBytes_append _ rfl, Option.bind_eq_bind,
        Option.bind_some, hrest]
      rfl

/-- Of the five parts of a header only the count of dimensions and that of elements matter. -/
theorem arrayElements_append {dimensions nulls type count index : Bytes} (rest : Bytes)
    (hdimensions : dimensions.length = 4) (hnulls : nulls.length = 4) (htype : type.length = 4)
    (hcount : count.length = 4) (hindex : index.length = 4) (hone : ofSignedBytes dimensions = 1)
    (hpositive : 0 ≤ ofSignedBytes count) :
    arrayElements (dimensions ++ (nulls ++ (type ++ (count ++ (index ++ rest))))) =
      takeElements (ofSignedBytes count).toNat rest := by
  simp only [arrayElements, takeInt32_append hdimensions, takeInt32_append hnulls,
    takeInt32_append htype, takeInt32_append hcount, takeInt32_append hindex, hone,
    Option.bind_eq_bind, Option.bind_some]
  rw [if_neg (by decide), if_pos trivial, if_neg (Int.not_lt.2 hpositive)]

/-- The elements of an array are found behind its header. -/
theorem arrayElements_arrayBytes (array element : TypeId) {cells : List (Option Bytes)}
    (hcount : FitsLength cells.length) (hcells : ∀ b, some b ∈ cells → FitsLength b.length) :
    arrayElements (arrayBytes array element cells) = some cells := by
  have hone : ofSignedBytes (signedBytes 4 1) = 1 :=
    ofSignedBytes_length (n := 1) (show 1 < twoPow 31 by decide)
  have hlength := ofSignedBytes_length hcount
  rw [arrayBytes]
  simp only [List.append_assoc]
  rw [arrayElements_append _ (length_signedBytes 4 _) (length_signedBytes 4 _)
    (length_bigEndian 4 _) (length_signedBytes 4 _) (length_bigEndian 4 _) hone (by omega),
    hlength, Int.toNat_natCast, takeElements_flatMap hcells]

/-- Bytes that can travel as one value: their length is told by a signed number of 32 bits. -/
def Sendable (bytes : Bytes) : Prop :=
  FitsLength bytes.length

instance (bytes : Bytes) : Decidable (Sendable bytes) :=
  inferInstanceAs (Decidable (FitsLength bytes.length))

theorem length_le_flatMap {cells : List (Option Bytes)} :
    cells.length ≤ (cells.flatMap lengthPrefixed).length := by
  induction cells with
  | nil => simp
  | cons cell cells ih =>
    have hcell : 1 ≤ (lengthPrefixed cell).length := by
      cases cell with
      | none => simp [lengthPrefixed]
      | some b =>
        rw [lengthPrefixed, List.length_append, length_signedBytes]
        omega
    rw [List.flatMap_cons, List.length_append, List.length_cons]
    omega

/-- What can travel as an array has elements that can. -/
theorem fits_of_sendable {array element : TypeId} {cells : List (Option Bytes)}
    (h : Sendable (arrayBytes array element cells)) :
    FitsLength cells.length ∧ ∀ b, some b ∈ cells → Sendable b := by
  have hbody : FitsLength (cells.flatMap lengthPrefixed).length := by
    have hbound : (arrayBytes array element cells).length < twoPow 31 := h
    rw [arrayBytes, List.length_append] at hbound
    exact Nat.lt_of_le_of_lt (Nat.le_add_left _ _) hbound
  refine ⟨Nat.lt_of_le_of_lt length_le_flatMap hbody, ?_⟩
  intro b hb
  have hwithin : b.length ≤ (cells.flatMap lengthPrefixed).length := by
    obtain ⟨before, after, rfl⟩ := List.append_of_mem hb
    rw [List.flatMap_append, List.flatMap_cons, lengthPrefixed]
    simp only [List.length_append]
    omega
  exact Nat.lt_of_le_of_lt hwithin hbody

def decodeElement (element : WireType) : Option Bytes → Except DecodeFault Json
  | none => .ok .null
  | some bytes => decode element true bytes

theorem decode_array (id : TypeId) (element : WireType) (nested : Bool) (bytes : Bytes) :
    decode (.array id element) nested bytes = do
      let cells ← orMalformed (arrayElements bytes)
      let values ← cells.mapM (decodeElement element)
      return .array values := by
  have hread : (fun cell : Option Bytes ↦
      match cell with
      | none => .ok .null
      | some bytes => decode element true bytes) = decodeElement element := by
    funext cell
    cases cell <;> rfl
  rw [← hread]
  rfl

/-- An array that can travel is read element by element. -/
theorem decode_arrayBytes (id : TypeId) (element : WireType) (nested : Bool)
    {cells : List (Option Bytes)} (h : Sendable (arrayBytes id element.id cells)) :
    decode (.array id element) nested (arrayBytes id element.id cells) = do
      let values ← cells.mapM (decodeElement element)
      return .array values := by
  obtain ⟨hcount, hcells⟩ := fits_of_sendable h
  rw [decode_array, arrayElements_arrayBytes id element.id hcount hcells, orMalformed]
  rfl

end SchemaSql.Wire
