import SchemaSql.Text.Quoted

/-!
# Parameters

The value of a numbered slot of a statement: a text, or SQL's null.
-/

namespace SchemaSql

/-- The value that a slot of a statement is bound to. -/
inductive Param where
  | null
  | text (s : String)
deriving DecidableEq

namespace Param

def ofOption : Option String → Param
  | none => null
  | some s => text s

def toOption : Param → Option String
  | null => none
  | text s => some s

def isNull : Param → Bool
  | null => true
  | text _ => false

/-- The text, or the word for null. -/
def display : Param → String
  | null => "NULL"
  | text s => s

/-- The text in quotes, or the word for null without them. -/
def inspect : Param → String
  | null => "NULL"
  | text s => Text.quoted s

@[simp]
theorem ofOption_toOption (p : Param) : ofOption p.toOption = p := by
  cases p <;> rfl

end Param

end SchemaSql
