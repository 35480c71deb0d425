/-!
# Types of fields

What kind of value a field holds, independent of how its column is stored.
-/

namespace SchemaSql

inductive FieldType where
  | string
  | int
  | float
  | bool
  | date
  | json
deriving DecidableEq, Inhabited

namespace FieldType

def name : FieldType → String
  | string => "string"
  | int => "int"
  | float => "float"
  | bool => "bool"
  | date => "date"
  | json => "json"

/-- Whether the values have an order that a range can be asked by. -/
def isOrdered : FieldType → Bool
  | int | float | date => true
  | string | bool | json => false

end FieldType

end SchemaSql
