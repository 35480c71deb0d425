import SchemaSql.Repository.Session
import SchemaSql.Repository.Statements

/-!
# Operations of a repository

Each operation logs one statement, has it executed and reads the rows that come back. A violated
unique constraint is traced to the field that it guards.
-/

namespace SchemaSql

/-- Rows of a page, and the number of all rows that match where a row told it. -/
structure PageResult where
  total : Option Int := none
  items : List Record := []

namespace Repository

/-! ## Executing -/

/-- A violated unique constraint in terms of the field that it guards, if one is known. -/
def explainError (r : Repository) : Error → List LogEvent × Error
  | .uniqueViolation constraint text =>
    match r.schema.guardedField? constraint with
    | some field =>
      ([.uniqueViolation r.schema.displayName constraint field],
        .uniqueConstraint field constraint)
    | none => ([], .uniqueViolation constraint text)
  | e => ([], e)

def fetch (r : Repository) (s : Statement) : Session (List Wire.Row) := do
  Session.log (r.config.log.events s)
  s.fetchAll.explaining r.explainError

/-! ## Reading rows -/

/-- Reads a row; the plan keeps it loaded. -/
def readRow (plan : JoinPlan) (row : Wire.Row) : Except Error (JoinPlan × Record) := do
  let values ← row.values
  match plan.hydrate values with
  | (plan, .ok record) => return (plan, record)
  | (_, .error e) => .error e

def readFirst (plan : JoinPlan) : List Wire.Row → Except Error (Option Record)
  | [] => .ok none
  | row :: _ => do
    let (_, record) ← readRow plan row
    return some record

def readAll (plan : JoinPlan) : List Wire.Row → Except Error (List Record)
  | [] => .ok []
  | row :: rows => do
    let (plan, record) ← readRow plan row
    let records ← readAll plan rows
    return record :: records

/-- The total that is known, or else the one that the loaded row tells. -/
def totalOf (plan : JoinPlan) : Option Int → Except Error (Option Int)
  | some total => .ok (some total)
  | none => do
    match ← plan.reservedValue JoinPlan.total with
    | .number n => return n.toInt64?
    | _ => return none

def readPage (plan : JoinPlan) (total : Option Int) : List Wire.Row → Except Error PageResult
  | [] => .ok { total }
  | row :: rows => do
    let (plan, record) ← readRow plan row
    let total ← totalOf plan total
    let result ← readPage plan total rows
    return { result with items := record :: result.items }

/-! ## Operations -/

def orMissing (missing : Missing) : Option Record → Except Error Record
  | some record => .ok record
  | none => .error (.notFound missing)

def add (r : Repository) (payload : Json) : Session Record := do
  let s ← Session.ofExcept (r.insertStatement payload)
  let rows ← r.fetch s
  let record ← Session.ofExcept (readFirst r.plan rows)
  Session.ofExcept (orMissing (.inserted r.schema.displayName) record)

def save (r : Repository) (key payload : Json) : Session Record := do
  let s ← Session.ofExcept (r.updateStatement key payload)
  let rows ← r.fetch s
  let record ← Session.ofExcept (readFirst r.plan rows)
  Session.ofExcept
    (orMissing (.byKey r.schema.displayName r.schema.key.text key.render) record)

def get (r : Repository) (key : Json) : Session (Option Record) := do
  let s ← Session.ofExcept (r.getStatement key)
  let rows ← r.fetch s
  Session.ofExcept (readFirst r.plan rows)

def all (r : Repository) (request : ListRequest) : Session (List Record) := do
  let s ← Session.ofExcept (r.listStatement r.plan request none)
  let rows ← r.fetch s
  Session.ofExcept (readAll r.plan rows)

def filter (r : Repository) (request : ListRequest) : Session PageResult := do
  let plan := r.plan.withTotal
  let s ← Session.ofExcept (r.listStatement plan request (some (r.page request)))
  let rows ← r.fetch s
  Session.ofExcept (readPage plan none rows)

/-- Deletes the row of a key; the result is the number of rows deleted. -/
def delete (r : Repository) (key : Json) : Session Nat := do
  let s ← Session.ofExcept (r.deleteStatement key)
  Session.log (r.config.log.events s)
  s.execute.explaining r.explainError

end Repository

end SchemaSql
