import SchemaSql.Error
import SchemaSql.Schema.Field

/-!
# Tables and schemas

A table has a name, a key and fields in the order of their declaration. A schema is a table with
its joins: further tables, each of which is joined by its key to a field of the first.
-/

namespace SchemaSql

/-! ## Tables -/

structure Table where
  /-- The schema of the database that the table is in. -/
  space : Option Identifier
  name : Identifier
  /-- The column of the primary key. -/
  key : Identifier
  fields : List Field
  /-- Names of unique constraints with the fields that they guard. -/
  constraints : List (String × String)

namespace Table

def field? (t : Table) (name : String) : Option Field :=
  t.fields.find? fun f ↦ f.name == name

/-- The fields that are selected, in the order of declaration. -/
def selected (t : Table) : List Field :=
  t.fields.filter Field.selectable

def width (t : Table) : Nat :=
  t.selected.length

/-! ### Names in SQL -/

/-- The name of the table within its space, or within another one if it has none. -/
def qualifiedName (t : Table) (default : Option Identifier) : String :=
  match t.space.or default with
  | some space => Identifier.dotted space t.name
  | none => t.name.quoted

/-- The name for messages, without quotes. -/
def displayName (t : Table) : String :=
  match t.space with
  | some space => space.text ++ "." ++ t.name.text
  | none => t.name.text

def columnOf (t : Table) (f : Field) : String :=
  Identifier.dotted t.name f.column

def columnNamed (t : Table) (name : String) : Except Error String :=
  match t.field? name with
  | some f => .ok (t.columnOf f)
  | none => .error (.unknownField name)

def keyColumn (t : Table) : String :=
  Identifier.dotted t.name t.key

def selectColumns (t : Table) : List String :=
  t.selected.map t.columnOf

/-! ### Unique constraints -/

/-- The part of a constraint's name that names the field, where the constraint is named after the
table: `<table>_unique_<field>_index`. -/
def constraintSubject? (t : Table) (constraint : String) : Option String := do
  let cs ← t.name.text.toList.isPrefixOf? constraint.toList
  let cs ← "_unique_".toList.isPrefixOf? cs
  let cs ← "_index".toList.isSuffixOf? cs
  return .ofList cs

/-- The field that a unique constraint guards: the one declared last for it, or else the first
whose name or column the constraint is named after. -/
def guardedField? (t : Table) (constraint : String) : Option String :=
  match t.constraints.reverse.lookup constraint with
  | some field => some field
  | none => do
    let subject ← t.constraintSubject? constraint
    let f ← t.fields.find? fun f ↦ f.name == subject || f.column.text == subject
    return f.name

end Table

/-! ## Schemas -/

/-- A further table, joined by its key to a field. -/
structure Join where
  /-- The name under which the joined record is found. -/
  name : String
  table : Table
  field : String
  /-- The column of the field. -/
  column : Identifier

structure Schema extends Table where
  joins : List Join

namespace Schema

def join? (s : Schema) (name : String) : Option Join :=
  s.joins.find? fun j ↦ j.name == name

end Schema

end SchemaSql
