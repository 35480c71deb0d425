import SchemaSql.Schema.Coercion
import SchemaSql.Schema.Table
import SchemaSql.Sql.Clause

/-!
# Assignments

What a payload assigns to the columns of a table: one value for each field that is present in the
payload and may be written, in the order of declaration. Everything else in the payload is passed
over.
-/

namespace SchemaSql

structure Assignment where
  column : Identifier
  value : Param
deriving DecidableEq

namespace Field

/-- The value of a payload for a field, if there is one. -/
def present? (payload : Json) (f : Field) : Option (Field × Json) :=
  (payload.get? f.name).map fun v ↦ (f, v)

def assign (f : Field) (v : Json) : Except ValueError Assignment := do
  let value ← f.coerce v
  return ⟨f.column, value⟩

end Field

namespace Table

/-- What a payload assigns to those fields of the table that may be written. Something has to be
assigned. -/
def assignments (t : Table) (writable : Field → Bool) (payload : Json) :
    Except Error (List Assignment) :=
  match payload with
  | .object _ =>
    let given := (t.fields.filter writable).filterMap (Field.present? payload)
    match given.mapM fun (f, v) ↦ f.assign v with
    | .error e => .error (.value e)
    | .ok [] => .error .missingInput
    | .ok assignments => .ok assignments
  | _ => .error .missingInput

def updatePattern : String := "{name}=$?"

def insertClause (t : Table) (payload : Json) : Except Error Clause := do
  let assignments ← t.assignments Field.insertable payload
  return {
    fragments := assignments.map fun a ↦ a.column.quoted
    values := assignments.map Assignment.value }

def updateClause (t : Table) (payload : Json) : Except Error Clause := do
  let assignments ← t.assignments Field.updatable payload
  return {
    fragments := assignments.map fun a ↦ a.column.quoted
    values := assignments.map Assignment.value
    pattern := updatePattern }

end Table

end SchemaSql
