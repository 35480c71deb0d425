import SchemaSql.Json.Basic

/-!
# Records

A row under the names of its fields, with the records of other tables that were joined to it. A
join that found no row is attached without a record.
-/

namespace SchemaSql

structure Record where
  values : List (String × Json) := []
  joins : List (String × Option Record) := []

namespace Record

/-! ## Fields -/

def get? (r : Record) (field : String) : Option Json :=
  r.values.lookup field

/-- Puts null in place of the value of a field. -/
def clearFirst (field : String) : List (String × Json) → List (String × Json)
  | [] => []
  | (name, v) :: values =>
    if name = field then (name, .null) :: values else (name, v) :: clearFirst field values

/-- The value of a field, and the record with null in its place. -/
def take (r : Record) (field : String) : Option Json × Record :=
  (r.get? field, { r with values := clearFirst field r.values })

/-! ## Joins -/

/-- Adds a joined record, or the absence of one, after those before it. -/
def attach (r : Record) (name : String) (joined : Option Record) : Record :=
  { r with joins := r.joins ++ [(name, joined)] }

def hasJoin (r : Record) (name : String) : Bool :=
  r.joins.any fun j ↦ j.1 == name

def join? (r : Record) (name : String) : Option Record :=
  (r.joins.lookup name).join

/-! ## As JSON -/

mutual

/-- The record as an object, each joined record under its name. -/
def toJson : Record → Json
  | ⟨values, joins⟩ => .ofMembers (values ++ joinMembers joins)

def joinMembers : List (String × Option Record) → List (String × Json)
  | [] => []
  | (name, none) :: joins => (name, .null) :: joinMembers joins
  | (name, some r) :: joins => (name, r.toJson) :: joinMembers joins

end

end Record

end SchemaSql
