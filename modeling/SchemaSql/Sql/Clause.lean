import SchemaSql.Sql.Param
import SchemaSql.Sql.Template

/-!
# Clauses

A clause is a list of SQL fragments with the values of their slots. Each fragment is put into a
pattern, and a separator stands between two of them.
-/

namespace SchemaSql

/-- Fragments of SQL and the values of their slots, each in order. -/
structure Clause where
  fragments : List String
  values : List Param
  pattern : String := Template.identity
  separator : String := ", "
  /-- The text of a clause without fragments. -/
  empty : String := ""
deriving DecidableEq

namespace Clause

def length (c : Clause) : Nat :=
  c.fragments.length

def isEmpty (c : Clause) : Bool :=
  c.fragments.isEmpty

def fillPattern (pattern fragment : String) : String :=
  .ofList (Template.fill fragment.toList pattern.toList)

/-- The text of the clause under a pattern, its slots without numbers. -/
def templateAs (c : Clause) (pattern : String) : String :=
  if c.isEmpty then c.empty
  else c.separator.intercalate (c.fragments.map (fillPattern pattern))

/-- The text of the clause, its slots without numbers. -/
def template (c : Clause) : String :=
  c.templateAs c.pattern

/-- The text with slots numbered from `start`, and the next free number. -/
def renderFrom (c : Clause) (pattern : Option String) (start : Nat) : String × Nat :=
  Template.numberFrom start (c.templateAs (pattern.getD c.pattern))

def render (c : Clause) (pattern : Option String) : String :=
  (c.renderFrom pattern 1).1

def valuesWith (c : Clause) (extra : Param) : List Param :=
  c.values ++ [extra]

end Clause

end SchemaSql
