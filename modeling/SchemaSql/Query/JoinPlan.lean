import SchemaSql.Query.Order
import SchemaSql.Query.Predicate
import SchemaSql.Row.Cursor
import SchemaSql.Row.Hydration

/-!
# Plans of joined queries

A plan lays out the rows of a query over a table and its joins: the columns of the table, then
those of each join, then reserved expressions of one column each. What it renders and what it
reads follows this one layout.
-/

namespace SchemaSql

structure JoinPlan where
  schema : Schema
  /-- The space of joined tables that have none of their own. -/
  space : Option Identifier
  /-- Expressions after the columns of tables, by name. -/
  reserved : List (String × String)
  cursor : Cursor

namespace JoinPlan

/-! ## Layout -/

def rootSlice : String := "@root"

def reservedSlice (name : String) : String :=
  "@" ++ name

/-- The plan of a schema, without reserved expressions. -/
def ofSchema (schema : Schema) (space : Option Identifier) : JoinPlan where
  schema
  space
  reserved := []
  cursor :=
    schema.joins.foldl (fun c j ↦ c.register j.name j.table.width)
      (({} : Cursor).register rootSlice schema.width)

/-- Adds an expression of one column after everything else. -/
def reserve (p : JoinPlan) (name expression : String) : JoinPlan :=
  { p with
    reserved := p.reserved ++ [(name, expression)]
    cursor := p.cursor.register (reservedSlice name) 1 }

/-- The name of the reserved count of all rows. -/
def total : String := "total"

/-- Reserves the count of all rows that match, whatever page is fetched. -/
def withTotal (p : JoinPlan) : JoinPlan :=
  p.reserve total "COUNT(*) OVER()"

def width (p : JoinPlan) : Nat :=
  p.cursor.width

/-! ## Rendering -/

/-- Texts with a comma between two of them; empty ones are left out. -/
def commaList (texts : List String) : String :=
  ", ".intercalate (texts.filter fun t ↦ !t.isEmpty)

def columnList (p : JoinPlan) : String :=
  commaList (p.schema.selectColumns ++ p.schema.joins.flatMap fun j ↦ j.table.selectColumns)

def selectList (p : JoinPlan) : String :=
  commaList (p.columnList :: p.reserved.map Prod.snd)

def joinSql (p : JoinPlan) (j : Join) : String :=
  "LEFT JOIN " ++ j.table.qualifiedName p.space ++ " ON " ++ j.table.keyColumn ++ "=" ++
    Identifier.dotted p.schema.name j.column

def joinsSql (p : JoinPlan) : String :=
  " ".intercalate (p.schema.joins.map p.joinSql)

def selectFrom (p : JoinPlan) (source : String) : String :=
  let joins := p.joinsSql
  "SELECT " ++ p.selectList ++ " FROM " ++ source ++ if joins.isEmpty then "" else " " ++ joins

/-! ## Predicates -/

def joinPredicates (payload : Json) (j : Join) : Except Error (List Predicate) :=
  match payload.get? j.name with
  | none => .ok []
  | some (.object members) => j.table.predicates (.object members)
  | some _ => .error (.value ⟨j.name, .joinNotObject⟩)

/-- The predicates that a payload asks for, by table. A payload that is null asks for none. -/
def predicateGroups (p : JoinPlan) : Option Json → Except Error (List (List Predicate))
  | none => .ok []
  | some .null => .ok []
  | some payload => do
    let root ← p.schema.predicates payload
    let joined ← p.schema.joins.mapM (joinPredicates payload)
    return root :: joined

def parenthesized (text : String) : String :=
  "(" ++ text ++ ")"

/-- Groups of predicates as a clause with a fragment for each group that is not empty. Of more
than one, each is put in parentheses. -/
def groupClause (combinator : Combinator) (groups : List (List Predicate)) : Clause :=
  let clauses := (groups.filter fun g ↦ !g.isEmpty).map (Predicate.clause combinator)
  let templates := clauses.map Clause.template
  { fragments := if 1 < templates.length then templates.map parenthesized else templates
    values := clauses.flatMap Clause.values
    separator := combinator.separator
    empty := Combinator.empty }

/-- What a payload asks for, of the table and of its joins. -/
def predicate (p : JoinPlan) (payload : Option Json) (combinator : Combinator) :
    Except Error Clause := do
  let groups ← p.predicateGroups payload
  return groupClause combinator groups

/-- Rows that match any predicate of a search and every predicate of a filter. -/
def filter (p : JoinPlan) (filter search : Option Json) : Except Error Clause := do
  let search ← p.predicate search .or
  let filter ← p.predicate filter .and
  return {
    fragments := [parenthesized search.template, parenthesized filter.template]
    values := search.values ++ filter.values
    separator := Combinator.separator .and
    empty := Combinator.empty }

/-! ## Order -/

/-- The order that is asked for; a dotted name that begins with a join asks for a field of the
joined table. -/
def order (p : JoinPlan) (request : OrderRequest) : Except Error OrderTerm :=
  match request.field.map OrderRequest.splitDot with
  | some (head, some rest) =>
    match p.schema.join? head with
    | some j => j.table.orderTerm { request with field := some rest }
    | none => p.schema.orderTerm request
  | _ => p.schema.orderTerm request

/-! ## Reading rows -/

/-- The record of a join, unless no row was found. -/
def hydrateJoin (cursor : Cursor) (j : Join) : Except Error (String × Option Record) := do
  let slice ← cursor.values j.name
  if isUnmatched slice then return (j.name, none)
  else return (j.name, some (← j.table.hydrate slice))

def hydrateLoaded (p : JoinPlan) : Except Error Record := do
  let slice ← p.cursor.values rootSlice
  let record ← p.schema.hydrate slice
  let joins ← p.schema.joins.mapM (hydrateJoin p.cursor)
  return { record with joins }

/-- Loads a row and reads it as a record. The row stays loaded even if it cannot be read. -/
def hydrate (p : JoinPlan) (row : List Json) : JoinPlan × Except Error Record :=
  match p.cursor.load row with
  | .error e => (p, .error e)
  | .ok cursor =>
    let loaded := { p with cursor }
    (loaded, loaded.hydrateLoaded)

/-- The value of a reserved expression in the row that is loaded. -/
def reservedValue (p : JoinPlan) (name : String) : Except Error Json :=
  p.cursor.value (reservedSlice name)

end JoinPlan

end SchemaSql
