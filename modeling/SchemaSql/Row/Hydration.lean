import SchemaSql.Json.Reader
import SchemaSql.Row.Record
import SchemaSql.Schema.Table
import SchemaSql.Sql.ArrayLiteral

/-!
# Hydration

The values of a slice, in the order in which a table selects its columns, become a record. The
text of an array is taken apart, a decoder has its say, and JSON that comes as text is read.
-/

namespace SchemaSql

namespace Field

/-- An array that comes as a literal is taken apart. -/
def splitArray (f : Field) : Json → Except Error Json
  | .string text =>
    match ArrayLiteral.read? text with
    | some elements => .ok (.array (elements.map fun e ↦ (e.map Json.string).getD .null))
    | none => .error (.decode f.name (.notArrayLiteral text))
  | v => .ok v

/-- JSON that comes as text is read. -/
def readJson (f : Field) : Json → Except Error Json
  | .string text =>
    match Json.read? text with
    | some v => .ok v
    | none => .error (.decode f.name .notJson)
  | v => .ok v

def decode (f : Field) (v : Json) : Except Error Json := do
  let v ← if f.isArray then f.splitArray v else .ok v
  match f.decoder with
  | some decoder => return decoder v
  | none => if f.type = .json && !f.isArray then f.readJson v else return v

end Field

namespace Table

def hydrate (t : Table) (slice : List Json) : Except Error Record :=
  if slice.length < t.width then
    .error (.hydration (.shortSlice t.displayName t.width slice.length))
  else do
    let values ← (t.selected.zip slice).mapM fun (f, v) ↦ return (f.name, ← f.decode v)
    return { values }

end Table

/-- Whether a slice comes from a join that found no row. -/
def isUnmatched (slice : List Json) : Bool :=
  slice.all Json.isNull

end SchemaSql
