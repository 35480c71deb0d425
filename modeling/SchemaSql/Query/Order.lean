import SchemaSql.Json.Basic
import SchemaSql.Schema.Table
import SchemaSql.Text.Blank
import SchemaSql.Text.Case

/-!
# Order

By which column rows are ordered, and in which direction. Only declared fields can be asked for,
and of a JSON field only its declared keys; what was asked for never reaches the SQL itself.
-/

namespace SchemaSql

/-! ## Directions -/

inductive Direction where
  | ascending
  | descending
deriving DecidableEq

namespace Direction

def sql : Direction → String
  | ascending => "ASC"
  | descending => "DESC"

/-- The direction that a method names, in letters of any case. -/
def read? (method : String) : Option Direction :=
  let cs := Text.trimBoth method.toList
  if Text.sameLetters cs "asc".toList then some ascending
  else if Text.sameLetters cs "desc".toList then some descending
  else none

def ofMethod (field method : String) : Except Error Direction :=
  match read? method with
  | some direction => .ok direction
  | none => .error (.value ⟨field, .badMethod method⟩)

end Direction

/-- The order that a caller asks for. -/
structure OrderRequest where
  field : Option String := none
  method : Option String := none
deriving DecidableEq

namespace OrderRequest

def ofField (field : String) : OrderRequest :=
  { field := some field }

def ascending (r : OrderRequest) : OrderRequest :=
  { r with method := some "asc" }

def descending (r : OrderRequest) : OrderRequest :=
  { r with method := some "desc" }

/-- A method of blanks alone is no method. -/
def given (method : Option String) : Option String :=
  method.filter fun m ↦ !(Text.trimBoth m.toList).isEmpty

/-- A request with what is missing taken from other places. -/
def orElse (r : Option OrderRequest) (field method : Option String) : OrderRequest :=
  ⟨(r.bind OrderRequest.field).or field, (r.bind OrderRequest.method).or method⟩

/-- A dotted name: what stands before its first dot, and what after it. -/
def splitDot (name : String) : String × Option String :=
  match name.toList.dropWhile (· != '.') with
  | [] => (name, none)
  | _ :: rest => (.ofList (name.toList.takeWhile (· != '.')), some (.ofList rest))

end OrderRequest

/-! ## Terms -/

/-- A column, perhaps a key within it, and perhaps a direction. -/
structure OrderTerm where
  column : String
  key : Option String
  direction : Option Direction
deriving DecidableEq

namespace OrderTerm

def sql (o : OrderTerm) : String :=
  o.column ++
    (match o.key with
      | none => ""
      | some key => "->'" ++ key ++ "'") ++
    match o.direction with
    | none => ""
    | some direction => " " ++ direction.sql

end OrderTerm

namespace Field

/-- The key of a field that is asked for; a JSON field needs one of its own, another has none. -/
def orderKey (f : Field) (requested : String) (key : Option String) :
    Except Error (Option String) :=
  if f.type = .json then
    match f.keys, key with
    | none, _ => .error (.missingConfig f.name)
    | some _, none => .error .missingField
    | some keys, some key =>
      if keys.contains key then .ok (some key) else .error (.unknownField requested)
  else
    match key with
    | none => .ok none
    | some _ => .error (.unknownField requested)

end Field

namespace Table

/-- The order that is asked for by a field, or by a field and a key after a dot. -/
def orderTerm (t : Table) (request : OrderRequest) : Except Error OrderTerm :=
  match request.field.filter fun f ↦ !f.isEmpty with
  | none => .error .missingField
  | some requested =>
    let (name, key) := OrderRequest.splitDot requested
    match t.field? name with
    | none => .error (.unknownField name)
    | some f => do
      let key ← f.orderKey requested key
      let direction ← (OrderRequest.given request.method).mapM (Direction.ofMethod name)
      return ⟨t.columnOf f, key, direction⟩

/-- The order by the primary key, ascending if nothing else is asked for. -/
def keyOrder (t : Table) (method : Option String) : Except Error OrderTerm := do
  let direction ← (OrderRequest.given method).mapM (Direction.ofMethod t.key.text)
  return ⟨t.keyColumn, none, some (direction.getD .ascending)⟩

end Table

end SchemaSql
