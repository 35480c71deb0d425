import SchemaSql.Proofs.Number.IntegerText
import SchemaSql.Proofs.Wire.JsonColumns

/-!
# Columns of integers, truth values and texts

Between a payload and a row, a value is written by one convention after another: as the text of its
type, as an element of a literal, as bytes, as JSON again. On columns of its own kind nothing of
this shows. An integer comes back as an integer or is refused for its size, a truth value comes back
as it was meant and a text letter by letter; null comes back as null, alone and within an array.
-/

namespace SchemaSql

/-! ## Integers of payloads -/

namespace Json

end Json

namespace Wire

open SchemaSql.Field (decode_self)

/-! ## What comes back -/

/-- What is kept of a value that a payload has for a field of a type. -/
inductive Kept : FieldType → Json → Json → Prop where
  | null (t : FieldType) : Kept t .null .null
  | int {v i} (stands : v.toInteger? = some i) : Kept .int v (.int i)
  | bool {v} (given : v ≠ .null) : Kept .bool v (.bool v.isTruthy)
  | text (s : String) : Kept .string (.string s) (.string s)
  | compact {v} (given : v ≠ .null) (other : ∀ s, v ≠ .string s) :
      Kept .string v (.string v.render)

/-- Of one value only one is kept. -/
theorem Kept.unique {t : FieldType} {v w w' : Json} (h : Kept t v w) (h' : Kept t v w') :
    w = w' := by
  cases h with
  | null =>
    cases h' with
    | null => rfl
    | int stands => cases stands
    | bool given => exact absurd rfl given
    | compact given _ => exact absurd rfl given
  | int stands =>
    cases h' with
    | null => cases stands
    | int stands' => rw [Option.some.inj (stands.symm.trans stands')]
  | bool given =>
    cases h' with
    | null => exact absurd rfl given
    | bool _ => rfl
  | text s =>
    cases h' with
    | text => rfl
    | compact _ other => exact absurd rfl (other s)
  | compact given other =>
    cases h' with
    | null => exact absurd rfl given
    | text s => exact absurd rfl (other s)
    | compact _ _ => rfl

/-- A cell is read as a value, both alone and as an element of an array. -/
structure Reads (s : Scalar) (cell : Option Bytes) (w : Json) : Prop where
  alone : ∀ name, Column.value ⟨name, .scalar s⟩ cell = .ok w
  nested : decodeElement (.scalar s) cell = .ok w

section

variable {s : Scalar} {range : IntegerRange} {width : Nat}
  (hencode : ∀ t, encodeScalar s t = encodeInteger range width t)
include hencode

end

end Wire

end SchemaSql
