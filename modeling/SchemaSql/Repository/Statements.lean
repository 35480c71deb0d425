import SchemaSql.Query.Assignment
import SchemaSql.Query.JoinPlan
import SchemaSql.Query.Request
import SchemaSql.Repository.Page

/-!
# Statements of a repository

The statement of each operation on a table. An insertion or an update is put before a selection,
under the name of the table, so that the rows it returns can be joined at once.
-/

namespace SchemaSql

/-- A table with the settings for its operations. -/
structure Repository where
  schema : Schema
  config : Config := {}

namespace Repository

/-! ## Parts -/

def plan (r : Repository) : JoinPlan :=
  .ofSchema r.schema r.config.space

def source (r : Repository) : String :=
  r.schema.qualifiedName r.config.space

def tag (r : Repository) (operation : String) : String :=
  r.schema.name.text ++ "." ++ operation

/-- The parameter of a primary key, coerced by the field that has the column, if one has it. -/
def keyParam (r : Repository) (key : Json) : Except Error Param :=
  if key.isNull then .error .missingInput
  else
    match r.schema.fields.find? fun f ↦ f.column == r.schema.key with
    | some f =>
      match f.coerceScalar key with
      | .ok p => .ok p
      | .error e => .error (.value e)
    | none => .ok (.text key.plainText)

/-- The selection of the rows that a statement before it, named as the table, returns. -/
def selectReturned (r : Repository) : String :=
  " RETURNING *) " ++ r.plan.selectFrom r.schema.name.quoted

/-! ## Writing -/

/-- Inserts a row and selects it. -/
def insertStatement (r : Repository) (payload : Json) : Except Error Statement := do
  let insert ← r.schema.insertClause payload
  let start := "WITH " ++ r.schema.name.quoted ++ " AS (INSERT INTO " ++ r.source ++ " ("
  return Statement.ofText start
    |>.tagged (r.tag "add")
    |>.pushNames insert
    |>.push ") VALUES ("
    |>.pushClauseAs insert Template.slot
    |>.push ")"
    |>.push r.selectReturned

/-- Updates the row of a key and selects it. -/
def updateStatement (r : Repository) (key payload : Json) : Except Error Statement := do
  let update ← r.schema.updateClause payload
  let key ← r.keyParam key
  let start := "WITH " ++ r.schema.name.quoted ++ " AS (UPDATE " ++ r.source ++ " SET "
  return Statement.ofText start
    |>.tagged (r.tag "save")
    |>.pushClause update
    |>.push (" WHERE " ++ r.schema.keyColumn ++ "=")
    |>.bind key
    |>.push r.selectReturned

def deleteStatement (r : Repository) (key : Json) : Except Error Statement := do
  let key ← r.keyParam key
  return Statement.ofText ("DELETE FROM " ++ r.source ++ " WHERE " ++ r.schema.keyColumn ++ "=")
    |>.tagged (r.tag "delete")
    |>.bind key

/-! ## Reading -/

def getStatement (r : Repository) (key : Json) : Except Error Statement := do
  let key ← r.keyParam key
  return Statement.ofText (r.plan.selectFrom r.source)
    |>.tagged (r.tag "get")
    |>.push (" WHERE " ++ r.schema.keyColumn ++ "=")
    |>.bind key

/-- The order that is asked for; where no field is named, that of the primary key. -/
def listOrder (r : Repository) (plan : JoinPlan) (request : Option OrderRequest) :
    Except Error OrderTerm :=
  match request with
  | some order =>
    if order.field.isSome then plan.order order else r.schema.keyOrder order.method
  | none => r.schema.keyOrder none

/-- Selects a page of the rows that are asked for, or without a page all of them up to a limit. -/
def listStatement (r : Repository) (plan : JoinPlan) (request : ListRequest)
    (page : Option Page) : Except Error Statement := do
  let predicate ← plan.filter request.filter request.search
  let order ← r.listOrder plan request.order
  let s := Statement.ofText (plan.selectFrom r.source)
    |>.tagged (r.tag (if page.isSome then "filter" else "all"))
    |>.push " WHERE "
    |>.pushClause predicate
    |>.push " ORDER BY "
    |>.push order.sql
  match page, request.limit with
  | some page, _ => return s.limitOffset page.size.toInt page.offset.toInt
  | none, some limit => return s.limit (r.config.clampPage limit).toInt
  | none, none => return s

def page (r : Repository) (request : ListRequest) : Page :=
  .ofRequest r.config request.page request.limit

end Repository

end SchemaSql
