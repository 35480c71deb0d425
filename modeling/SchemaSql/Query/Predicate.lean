import SchemaSql.Schema.Coercion
import SchemaSql.Schema.Table
import SchemaSql.Sql.Clause

/-!
# Predicates

A payload asks for rows by conditions on fields. The shape of a value decides the condition: a
list asks for membership, an object for a range, text for a substring, anything else for equality.
A predicate gives both its SQL and the values of its slots, so that they belong together.
-/

namespace SchemaSql

/-! ## Combining predicates -/

/-- How predicates are combined. -/
inductive Combinator where
  | and
  | or
deriving DecidableEq

namespace Combinator

def sql : Combinator → String
  | .and => "AND"
  | .or => "OR"

def separator (c : Combinator) : String :=
  " " ++ c.sql ++ " "

/-- What stands for a combination of no predicates. -/
def empty : String := "1=1"

end Combinator

/-! ## Conditions -/

inductive Condition where
  /-- The value is an element of the array in the column. -/
  | element (value : Param)
  | isNull
  /-- The text matches a pattern, whatever the case of its letters. -/
  | like (pattern : String)
  /-- The text of a JSON value matches a pattern. -/
  | textLike (pattern : String)
  | atLeast (bound : Param)
  | atMost (bound : Param)
  | oneOf (values : List Param)
  | never
  | equals (value : Param)
deriving DecidableEq

structure Predicate where
  column : String
  condition : Condition
deriving DecidableEq

namespace Predicate

/-- The SQL of a predicate, with a slot for each of its values. -/
def template (p : Predicate) : String :=
  match p.condition with
  | .element _ => Template.slot ++ " = ANY(" ++ p.column ++ ")"
  | .isNull => p.column ++ " IS NULL"
  | .like _ => p.column ++ " ILIKE " ++ Template.slot
  | .textLike _ => p.column ++ "::text ILIKE " ++ Template.slot
  | .atLeast _ => p.column ++ ">=" ++ Template.slot
  | .atMost _ => p.column ++ "<=" ++ Template.slot
  | .oneOf values =>
    p.column ++ " IN (" ++ ", ".intercalate (values.map fun _ ↦ Template.slot) ++ ")"
  | .never => "1=0"
  | .equals _ => p.column ++ "=" ++ Template.slot

def values (p : Predicate) : List Param :=
  match p.condition with
  | .element value => [value]
  | .isNull => []
  | .like pattern => [.text pattern]
  | .textLike pattern => [.text pattern]
  | .atLeast bound => [bound]
  | .atMost bound => [bound]
  | .oneOf values => values
  | .never => []
  | .equals value => [value]

def clause (combinator : Combinator) (predicates : List Predicate) : Clause where
  fragments := predicates.map template
  values := predicates.flatMap values
  separator := combinator.separator
  empty := Combinator.empty

end Predicate

/-! ## Conditions of a field -/

namespace Field

/-- The pattern of the texts in which a text occurs. -/
def containing (text : String) : String :=
  "%" ++ text ++ "%"

def bound (f : Field) (make : Param → Condition) : Option Json → Except ValueError (List Condition)
  | none => .ok []
  | some v => do
    let p ← f.coerceScalar v
    return [make p]

/-- The conditions of a range with `from`, `to` or both. -/
def range (f : Field) (v : Json) : Except ValueError (List Condition) :=
  if !f.type.isOrdered then f.fails (.notOrdered f.type)
  else
    match v.get? "from", v.get? "to" with
    | none, none => f.fails .noBound
    | least, greatest => do
      let lower ← f.bound .atLeast least
      let upper ← f.bound .atMost greatest
      return lower ++ upper

def membership (f : Field) : List Json → Except ValueError (List Condition)
  | [] => .ok [.never]
  | vs => do
    let params ← vs.mapM f.coerceScalar
    return [.oneOf params]

/-- The condition that the value is another one; for free text, that it contains it. -/
def likeness (f : Field) (v : Json) : Except ValueError (List Condition) := do
  let p ← f.coerceScalar v
  if f.options.isSome || f.type != .string then return [.equals p]
  else return [.like (containing p.display)]

def elementConditions (f : Field) (v : Json) : Except ValueError (List Condition) := do
  let elements ← f.elements v
  elements.mapM fun e ↦ return .element (← f.coerceScalar e)

def conditions (f : Field) (v : Json) : Except ValueError (List Condition) :=
  if f.isArray then f.elementConditions v
  else
    match v with
    | .null => .ok [.isNull]
    | v =>
      if f.type = .json then .ok [.textLike (containing v.plainText)]
      else
        match v with
        | .object _ => f.range v
        | .array vs => f.membership vs
        | v => f.likeness v

end Field

/-! ## Predicates of a table -/

namespace Table

def fieldPredicates (t : Table) (payload : Json) (f : Field) :
    Except ValueError (List Predicate) :=
  match payload.get? f.name with
  | none => .ok []
  | some v => do
    let conditions ← f.conditions v
    return conditions.map fun c ↦ ⟨t.columnOf f, c⟩

/-- The predicates that a payload asks for, in the order of the fields. -/
def predicates (t : Table) (payload : Json) : Except Error (List Predicate) :=
  match payload with
  | .object _ =>
    match t.fields.mapM (t.fieldPredicates payload) with
    | .ok groups => .ok groups.flatten
    | .error e => .error (.value e)
  | _ => .error .missingInput

def whereClause (t : Table) (payload : Json) (combinator : Combinator) : Except Error Clause := do
  let predicates ← t.predicates payload
  return Predicate.clause combinator predicates

end Table

end SchemaSql
