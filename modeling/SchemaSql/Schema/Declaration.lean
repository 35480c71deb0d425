import SchemaSql.Schema.Coercion
import SchemaSql.Schema.Table
import SchemaSql.Text.Alphanumeric

/-!
# Declarations

A schema is declared by texts and values, and checked once: names have to be identifiers, fields
and joins have to differ in name, options have to be of their field's type. A declaration that
passes becomes a schema; the first thing that is wrong decides the fault.
-/

namespace SchemaSql

/-! ## Fields -/

structure FieldDecl where
  name : String
  type : FieldType := .string
  /-- The name of the column, where it differs from the field's. -/
  column : Option String := none
  isArray : Bool := false
  options : Option (List Json) := none
  selectable : Bool := true
  insertable : Bool := true
  updatable : Bool := true
  nullable : Bool := false
  encoder : Option (String → String) := none
  decoder : Option (Json → Json) := none
  keys : Option (List String) := none

namespace FieldDecl

def isKeyCharacter (c : Char) : Bool :=
  c == '_' || c == '-' || Text.isAlphanumeric c

def checkKey (field key : String) : Except SchemaFault Unit :=
  if key.isEmpty then .error (.emptyKey field)
  else
    match key.toList.find? fun c ↦ !isKeyCharacter c with
    | some c => .error (.badKey c key field)
    | none => .ok ()

/-- Keys belong to a JSON field. -/
def checkKeys (d : FieldDecl) : Except SchemaFault Unit :=
  match d.keys with
  | none => .ok ()
  | some keys =>
    if d.type = .json then keys.forM (checkKey d.name)
    else .error (.keysWithoutJson d.name d.type)

def castOptions (d : FieldDecl) : Except SchemaFault (Option (List String)) :=
  match d.options with
  | none => .ok none
  | some options =>
    match options.mapM d.type.cast with
    | .ok texts => .ok (some texts)
    | .error fault => .error (.badOption d.name ⟨d.name, fault⟩)

def identifier (name : String) : Except SchemaFault Identifier :=
  match Identifier.read name with
  | .ok i => .ok i
  | .error fault => .error (.identifier fault)

/-- The declared field, if nothing is wrong with it by itself. -/
def check (d : FieldDecl) : Except SchemaFault Field := do
  if d.name.isEmpty then .error .emptyFieldName
  if d.name.toList.contains '.' then .error (.dottedFieldName d.name)
  let column ← identifier (d.column.getD d.name)
  d.checkKeys
  let options ← d.castOptions
  return {
    name := d.name
    column
    type := d.type
    isArray := d.isArray
    options
    selectable := d.selectable
    insertable := d.insertable
    updatable := d.updatable
    nullable := d.nullable
    encoder := d.encoder
    decoder := d.decoder
    keys := d.keys }

end FieldDecl

/-! ## Schemas -/

structure JoinDecl where
  name : String
  table : Table
  field : String

structure SchemaDecl where
  name : String
  space : Option String := none
  key : String := "id"
  fields : List FieldDecl := []
  joins : List JoinDecl := []
  constraints : List (String × String) := []

namespace SchemaDecl

/-- Checks fields one after another; their names have to differ from each other and from those
that were seen before. -/
def checkFields (table : Identifier) : List String → List FieldDecl →
    Except SchemaFault (List Field)
  | _, [] => .ok []
  | seen, d :: ds => do
    let f ← d.check
    if seen.contains f.name then .error (.duplicateField f.name table.text)
    let fs ← checkFields table (f.name :: seen) ds
    return f :: fs

/-- One join: its name has to be an identifier that no field and no join before it has. -/
def checkJoin (table : Identifier) (fields : List Field) (taken : List String) (d : JoinDecl) :
    Except SchemaFault Join := do
  if (Identifier.fault? d.name).isSome then .error (.badJoinName d.name table.text)
  if taken.contains d.name then .error (.joinCollides d.name table.text)
  match fields.find? fun f ↦ f.name == d.field with
  | some f => return ⟨d.name, d.table, d.field, f.column⟩
  | none => .error (.joinFieldUnknown d.name d.field table.text)

def checkJoins (table : Identifier) (fields : List Field) : List String → List JoinDecl →
    Except SchemaFault (List Join)
  | _, [] => .ok []
  | taken, d :: ds => do
    let j ← checkJoin table fields taken d
    let js ← checkJoins table fields (j.name :: taken) ds
    return j :: js

def checkConstraint (fields : List Field) (c : String × String) : Except SchemaFault Unit :=
  if fields.any fun f ↦ f.name == c.2 then .ok ()
  else .error (.constraintFieldUnknown c.1 c.2)

def build (d : SchemaDecl) : Except SchemaFault Schema := do
  let name ← FieldDecl.identifier d.name
  let space ← d.space.mapM FieldDecl.identifier
  let key ← FieldDecl.identifier d.key
  let fields ← checkFields name [] d.fields
  let joins ← checkJoins name fields (fields.map Field.name) d.joins
  d.constraints.forM (checkConstraint fields)
  return { space, name, key, fields, constraints := d.constraints, joins }

end SchemaDecl

end SchemaSql
