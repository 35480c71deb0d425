import Mathlib.Data.List.Basic
import SchemaSql.Proofs.Text.Runs
import SchemaSql.Wire.Uuid

/-!
# Reading identifiers back

The text of an identifier has a hyphen where the scheme of a uniform resource name has a colon, and
is too short for braces, so that nothing is unwrapped. Without its hyphens it is the digits of the
sixteen bytes.
-/

namespace SchemaSql

namespace Text

@[simp]
theorem length_hexOfBytes (bytes : List UInt8) :
    (hexOfBytes bytes).length = 2 * bytes.length := by
  induction bytes with
  | nil => rfl
  | cons b bytes ih =>
    simp only [hexOfBytes] at ih
    simp only [hexOfBytes, hexByte, List.flatMap_cons, List.length_append, List.length_cons,
      List.length_nil, ih]
    omega

theorem isBlank_of_mem_hexOfBytes {bytes : List UInt8} {c : Char} (h : c ∈ hexOfBytes bytes) :
    isBlank c = false := by
  have hdigit : ∀ n < 16, isBlank (Nat.digitChar n) = false := by decide
  obtain ⟨b, _, hc⟩ := List.mem_flatMap.1 h
  have hb := b.toNat_lt
  rcases List.mem_pair.1 hc with rfl | rfl
  · exact hdigit _ (by omega)
  · exact hdigit _ (by omega)

/-- A text without blanks at its ends needs no trimming. -/
theorem trim_ofList {cs : List Char} (h : trimBoth cs = cs) :
    trim (String.ofList cs) = String.ofList cs := by
  rw [trim, String.toList_ofList, h]

end Text

namespace Wire.Uuid

def hyphened (a b c d e : List Char) : List Char :=
  a ++ '-' :: (b ++ '-' :: (c ++ '-' :: (d ++ '-' :: e)))

section

variable {a b c d e : List Char} (ha : a.length = 8) (hb : b.length = 4) (hc : c.length = 4)
  (hd : d.length = 4) (he : e.length = 12)
include ha hb hc hd he

theorem dropHyphens?_hyphened :
    dropHyphens? (hyphened a b c d e) = some (a ++ b ++ c ++ d ++ e) := by
  have hlength : (hyphened a b c d e).length = 36 := by
    simp [hyphened, ha, hb, hc, hd, he]
  have hmarks : [8, 13, 18, 23].all (fun i ↦ (hyphened a b c d e)[i]? == some '-') = true := by
    simp [hyphened, List.getElem?_append, List.getElem?_cons, ha, hb, hc, hd]
  rw [dropHyphens?, hlength, hmarks, if_pos (by decide)]
  simp [hyphened, List.drop_append, List.drop_of_length_le, ha, hb, hc, hd]

theorem unwrap_hyphened : unwrap (hyphened a b c d e) = hyphened a b c d e := by
  have hlength : (hyphened a b c d e).length = 36 := by
    simp [hyphened, ha, hb, hc, hd, he]
  have hmark : ((hyphened a b c d e).take scheme.length)[8]? = some '-' := by
    rw [List.getElem?_take_of_lt (by decide)]
    simp [hyphened, ha]
  have hcolon : scheme[8]? = some ':' := by decide
  have hscheme : Text.sameLetters ((hyphened a b c d e).take scheme.length) scheme = false := by
    rw [Text.sameLetters, beq_eq_false_iff_ne]
    intro hsame
    have heighth := congrArg (fun cs : List Char ↦ cs[8]?) hsame
    simp only [List.getElem?_map, hmark, hcolon, Option.map_some] at heighth
    revert heighth
    decide
  rw [unwrap, if_neg (by simp [hlength]), hscheme, if_neg (by decide)]

end

/-- The groups of the digits, one after another, are the digits. -/
theorem join_groups {digits : List Char} (h : digits.length = 32) :
    digits.take 8 ++ (digits.drop 8).take 4 ++ (digits.drop 12).take 4 ++ (digits.drop 16).take 4 ++
      (digits.drop 20).take 12 = digits := by
  calc
    _ = digits.take (8 + 4 + 4 + 4 + 12) := by simp only [List.take_add]
    _ = digits := List.take_of_length_le (by omega)

theorem write_eq (u : Uuid) :
    u.write = hyphened ((Text.hexOfBytes u.bytes).take 8)
      (((Text.hexOfBytes u.bytes).drop 8).take 4) (((Text.hexOfBytes u.bytes).drop 12).take 4)
      (((Text.hexOfBytes u.bytes).drop 16).take 4)
      (((Text.hexOfBytes u.bytes).drop 20).take 12) := rfl

/-- An identifier is read back from its text. -/
theorem read?_render (u : Uuid) : read? u.render = some u := by
  have hdigits : (Text.hexOfBytes u.bytes).length = 32 := by
    rw [Text.length_hexOfBytes, u.sixteen]
  have hlength : u.write.length = 36 := by
    simp [write_eq, hyphened, hdigits]
  have hgroups : dropHyphens? (unwrap u.write) = some (Text.hexOfBytes u.bytes) := by
    rw [write_eq, unwrap_hyphened, dropHyphens?_hyphened, join_groups hdigits]
    all_goals simp [hdigits]
  rw [read?, render, String.toList_ofList, if_neg (by omega), hgroups]
  simp only [Option.bind_eq_bind, Option.bind_some, Text.bytesOfHex?_hexOfBytes]
  exact dif_pos u.sixteen

/-- The text of an identifier has no blanks. -/
theorem trim_render (u : Uuid) : Text.trim u.render = u.render := by
  have hblank : ∀ c ∈ u.write, Text.isBlank c = false := by
    have hpart (i n : Nat) : ∀ c ∈ ((Text.hexOfBytes u.bytes).drop i).take n,
        Text.isBlank c = false :=
      fun _ hc ↦ Text.isBlank_of_mem_hexOfBytes (List.mem_of_mem_drop (List.mem_of_mem_take hc))
    simp only [write, List.forall_mem_append, List.forall_mem_cons]
    exact ⟨hpart 0 8, by decide, hpart 8 4, by decide, hpart 12 4, by decide, hpart 16 4,
      by decide, hpart 20 12⟩
  exact Text.trim_ofList (Text.trimBoth_of_forall hblank)

end Wire.Uuid

end SchemaSql
