import SchemaSql.Json.Basic
import SchemaSql.Schema.FieldType
import SchemaSql.Sql.Identifier

/-!
# Fields

A field of a table: its name in payloads and records, the column that stores it, and what may be
done with it.
-/

namespace SchemaSql

/-- A field whose declaration was found to be in order. -/
structure Field where
  name : String
  column : Identifier
  type : FieldType
  /-- Whether a value is a list of values of the type. -/
  isArray : Bool
  /-- The texts that a value may have. -/
  options : Option (List String)
  selectable : Bool
  insertable : Bool
  updatable : Bool
  nullable : Bool
  /-- Applied to the text of a value before it is bound. -/
  encoder : Option (String → String)
  /-- Applied to the value of a column after it was read. -/
  decoder : Option (Json → Json)
  /-- The keys within a JSON value that rows can be ordered by. -/
  keys : Option (List String)

end SchemaSql
