import SchemaSql.Wire.Decoding

/-!
# Rows

A row of a result, as it comes from the server: its columns with their names and types, and the
bytes of each.
-/

namespace SchemaSql.Wire

structure Column where
  name : String
  type : WireType
deriving DecidableEq

structure Row where
  columns : List Column
  cells : List (Option Bytes)
deriving DecidableEq

def Column.value (c : Column) : Option Bytes → Except Error Json
  | none => .ok .null
  | some bytes =>
    match decode c.type false bytes with
    | .ok v => .ok v
    | .error fault => .error (.decode c.name fault)

namespace Row

def values (r : Row) : Except Error (List Json) :=
  (r.columns.zip r.cells).mapM fun (c, cell) ↦ c.value cell

end Row

/-! ## Single columns -/

/-- A type that a single column is asked for as. -/
inductive Target where
  | int4
  | int8
  | bool
  | string
  | optionalString
deriving DecidableEq

namespace Target

def textNames : List String := ["citext", "ltree", "lquery", "ltxtquery"]

/-- Texts that come after a version number. -/
def versionedNames : List String := ["ltree", "lquery", "ltxtquery"]

def isTextual (t : WireType) : Bool :=
  match t with
  | .scalar s => s.isText
  | t => textNames.contains t.id.name

def accepts : Target → WireType → Bool
  | int4, t => t = .scalar .int4
  | int8, t => t = .scalar .int8
  | bool, t => t = .scalar .bool
  | string, t => isTextual t
  | optionalString, t => isTextual t

/-- Bytes without the version number that their type puts before them. -/
def dropVersion (t : WireType) (bytes : Bytes) : Option Bytes :=
  if versionedNames.contains t.id.name then
    match bytes with
    | 1 :: bytes => some bytes
    | _ => none
  else some bytes

def decode (target : Target) (t : WireType) (bytes : Bytes) : Option Json :=
  match target with
  | int4 => decodeScalar .int4 false bytes
  | int8 => decodeScalar .int8 false bytes
  | bool => decodeScalar .bool false bytes
  | string => (dropVersion t bytes).bind decodeText
  | optionalString => (dropVersion t bytes).bind decodeText

/-- The value of a cell, where only an optional text may be null. -/
def read? (target : Target) (t : WireType) (cell : Option Bytes) : Option Json :=
  if !target.accepts t then none
  else
    match cell with
    | some bytes => target.decode t bytes
    | none => if target = optionalString then some .null else none

end Target

namespace Row

def column (r : Row) (index : Nat) (target : Target) : Except Error Json :=
  match r.columns[index]? with
  | none => .error (.decode (renderInteger index) .unsuited)
  | some c =>
    match target.read? c.type (r.cells[index]?.getD none) with
    | some v => .ok v
    | none => .error (.decode c.name .unsuited)

end Row

end SchemaSql.Wire
