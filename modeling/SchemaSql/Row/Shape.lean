import SchemaSql.Error
import SchemaSql.Json.Basic
import SchemaSql.Row.Record

/-!
# Typed reading of records

The types that the value of a field can be asked for as. A value is never converted from one kind
to another; only a double can be had of any number.
-/

namespace SchemaSql

/-- A type that a value is asked for as. -/
inductive Shape where
  | int64
  | byte
  | double
  | bool
  | string
  | strings
  | optionalInt64
  | any
deriving DecidableEq

namespace Shape

def read? : Shape → Json → Option Json
  | int64, .number n => n.toInt64?.map .int
  | byte, .number n => (n.toInt64?.filter fun i ↦ 0 ≤ i && i < 256).map .int
  | double, .number n => some (.ofDouble n.toDouble)
  | bool, .bool b => some (.bool b)
  | string, .string s => some (.string s)
  | strings, .array vs =>
    if vs.all fun v ↦ v.kind == "string" then some (.array vs) else none
  | optionalInt64, .null => some .null
  | optionalInt64, .number n => n.toInt64?.map .int
  | any, v => some v
  | _, _ => none

end Shape

/-- A type that a whole record is asked for as. -/
inductive MapShape where
  /-- Every member has one type. -/
  | of (member : Shape)
  | any
deriving DecidableEq

namespace Record

/-- The record that is joined under a name, converted. A join that has none is none as well. -/
def joinedAs {α : Type} (convert : Record → Except Error α) (r : Record) (name : String) :
    Except Error (Option α) :=
  (r.join? name).mapM convert

/-- The value of a field as one of a type. A field that is missing has the value null. -/
def getAs (r : Record) (field : String) (shape : Shape) : Except Error Json :=
  match shape.read? ((r.get? field).getD .null) with
  | some v => .ok v
  | none => .error (.decode field .unsuited)

def readAs (r : Record) (shape : MapShape) : Except Error Json :=
  match shape, r.toJson with
  | .any, v => .ok v
  | .of member, .object members =>
    match members.mapM fun (k, v) ↦ (member.read? v).map fun v ↦ (k, v) with
    | some members => .ok (.object members)
    | none => .error (.hydration .unsuited)
  | .of _, _ => .error (.hydration .unsuited)

end Record

end SchemaSql
