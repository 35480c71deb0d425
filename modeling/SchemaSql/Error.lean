import SchemaSql.Number.Integer
import SchemaSql.Number.FloatText
import SchemaSql.Schema.FieldType
import SchemaSql.Sql.Identifier

/-!
# Errors

What can go wrong, by cause, from the declaration of a table to the reading of a row. The wording
of a cause is in its `message`; `Error.message` adds what kind of error it is.
-/

namespace SchemaSql

/-! ## Values -/

inductive ValueKind where
  | value
  | float
  | date
deriving DecidableEq

/-- Why a value does not suit a field. -/
inductive ValueFault where
  | nullNotAllowed
  | notList (kind : String)
  | notInteger (shown : String)
  | notNumber (shown : String)
  | notDate (shown : String)
  | notOption (text : String) (options : List String)
  | notOrdered (type : FieldType)
  | noBound
  | badMethod (method : String)
  | joinNotObject
  | other (kind : ValueKind) (text : String)
deriving DecidableEq

namespace ValueFault

def kind : ValueFault → ValueKind
  | notNumber _ => .float
  | notDate _ => .date
  | other kind _ => kind
  | _ => .value

def message : ValueFault → String
  | nullNotAllowed => "null is not allowed"
  | notList kind => s!"expected a list, got {kind}"
  | notInteger shown => s!"{shown} is not an integer"
  | notNumber shown => s!"{shown} is not a number"
  | notDate shown => s!"{shown} is not a date"
  | notOption text options =>
    let listed := ", ".intercalate options
    s!"'{text}' is not one of [{listed}]"
  | notOrdered type => "range filters need an int, float or date field, not " ++ type.name
  | noBound => "range filter needs 'from' and/or 'to'"
  | badMethod method => s!"invalid order method '{method}'"
  | joinNotObject => "join filters must be an object"
  | other _ text => text

end ValueFault

structure ValueError where
  field : String
  fault : ValueFault
deriving DecidableEq

namespace ValueError

def message (e : ValueError) : String :=
  (match e.fault.kind with
    | .value => "Invalid value for field '"
    | .float => "Invalid float for field '"
    | .date => "Invalid date for field '") ++
    e.field ++ "': " ++ e.fault.message

end ValueError

/-! ## Declarations -/

inductive SchemaFault where
  | identifier (fault : IdentifierFault)
  | emptyFieldName
  | dottedFieldName (field : String)
  | keysWithoutJson (field : String) (type : FieldType)
  | emptyKey (field : String)
  | badKey (c : Char) (key field : String)
  | badOption (field : String) (cause : ValueError)
  | duplicateField (field table : String)
  | badJoinName (join table : String)
  | joinCollides (join table : String)
  | joinFieldUnknown (join field table : String)
  | constraintFieldUnknown (constraint field : String)
  | other (text : String)
deriving DecidableEq

namespace SchemaFault

def message : SchemaFault → String
  | identifier fault => fault.message
  | emptyFieldName => "Field name cannot be empty"
  | dottedFieldName field => s!"Field name '{field}' cannot contain '.'"
  | keysWithoutJson field type =>
    s!"Field '{field}' declares JSON keys but is of type " ++ type.name
  | emptyKey field => s!"Field '{field}' declares an empty JSON key"
  | badKey c key field => s!"Invalid character '{c}' in JSON key '{key}' of field '{field}'"
  | badOption field cause => s!"Invalid option for field '{field}': " ++ cause.message
  | duplicateField field table => s!"Duplicate field '{field}' in table '{table}'"
  | badJoinName join table => s!"Invalid join name '{join}' in table '{table}'"
  | joinCollides join table =>
    s!"Join name '{join}' collides with another field or join in table '{table}'"
  | joinFieldUnknown join field table =>
    s!"Join '{join}' references unknown field '{field}' in table '{table}'"
  | constraintFieldUnknown constraint field =>
    s!"Unique constraint '{constraint}' references unknown field '{field}'"
  | other text => text

end SchemaFault

/-! ## Rows -/

/-- Why a row does not fit what was planned for it. -/
inductive HydrationFault where
  | shortSlice (table : String) (expected found : Nat)
  | shortRow (found width : Nat)
  | noRow
  | unknownSlice (name : String)
  | emptySlice (name : String)
  | unsuited
  | other (text : String)
deriving DecidableEq

namespace HydrationFault

def message : HydrationFault → String
  | shortSlice table expected found =>
    s!"table '{table}' expects {expected} values, row slice has {found}"
  | shortRow found width => s!"row has {found} values, offsets cover {width}"
  | noRow => "no row loaded"
  | unknownSlice name => s!"no offset registered for '{name}'"
  | emptySlice name => s!"slice '{name}' is empty"
  | unsuited => "the record does not suit the requested type"
  | other text => text

end HydrationFault

/-- Why the value of a column cannot be read. -/
inductive DecodeFault where
  | notArrayLiteral (text : String)
  | unsupportedType (type : String)
  | notJson
  | malformed
  | unsuited
  | other (text : String)
deriving DecidableEq

namespace DecodeFault

def message : DecodeFault → String
  | notArrayLiteral text => s!"'{text}' is not an array literal"
  | unsupportedType type => s!"unsupported column type {type}"
  | notJson => "the text is not JSON"
  | malformed => "the bytes are not of the column's type"
  | unsuited => "the value does not suit the requested type"
  | other text => text

end DecodeFault

/-! ## Statements -/

/-- Why a parameter cannot be bound to a type of the server. -/
inductive BindFault where
  | integer (fault : IntegerFault)
  | float (fault : FloatFault)
  | notJson
  | notUuid
  | notDecimal
  | notArrayLiteral (text : String)
  | notLabel (text type : String)
  | notBoolean (text : String)
  | notDate (text : String)
  | notTimestamp (text : String)
  | unsupportedType (type : String)
deriving DecidableEq

namespace BindFault

def message : BindFault → String
  | integer fault => fault.message
  | float fault => fault.message
  | notJson => "the text is not JSON"
  | notUuid => "the text is not a UUID"
  | notDecimal => "the text is not a decimal"
  | notArrayLiteral text => s!"'{text}' is not an array literal"
  | notLabel text type => s!"'{text}' is not a label of enum {type}"
  | notBoolean text => s!"'{text}' is not a boolean"
  | notDate text => s!"'{text}' is not a date"
  | notTimestamp text => s!"'{text}' is not a timestamp"
  | unsupportedType type => s!"cannot bind text parameter to type {type}"

end BindFault

inductive ValidationFault where
  | slotCount (slots params : Nat)
  | other (text : String)
deriving DecidableEq

namespace ValidationFault

def message : ValidationFault → String
  | slotCount slots params => s!"Statement: placeholders({slots}) != params({params})"
  | other text => text

end ValidationFault

/-- Why the text of a statement cannot be sent to a server. -/
inductive TextFault where
  | zeroByte
deriving DecidableEq

namespace TextFault

def message : TextFault → String
  | zeroByte => "string contains embedded null"

end TextFault

inductive QueryFault where
  | refused (code message : String)
  | unbound (position : Nat) (cause : BindFault)
  | paramCount (asked given : Nat)
  | unsendable (cause : TextFault)
deriving DecidableEq

namespace QueryFault

def message : QueryFault → String
  | refused code text => s!"db error: {code}: {text}"
  | unbound position cause => s!"error serializing parameter {position}: " ++ cause.message
  | paramCount asked given => s!"expected {asked} parameters but got {given}"
  | unsendable cause => "error encoding message to server: " ++ cause.message

end QueryFault

/-- Which row was looked for and not found. -/
inductive Missing where
  | inserted (table : String)
  | byKey (table key value : String)
  | single
  | other (text : String)
deriving DecidableEq

namespace Missing

def message : Missing → String
  | inserted table => s!"insert into {table} returned no row"
  | byKey table key value => s!"{table} with {key}={value}"
  | single => "Expected one row, got none"
  | other text => text

end Missing

/-! ## Stops -/

/-- Why a program stops on the spot, without an error that its caller could handle. -/
inductive Stop where
  /-- A part of a row was taken that reaches past the row's last value. -/
  | pastRow (stop length : Nat)
deriving DecidableEq

namespace Stop

def message : Stop → String
  | pastRow stop length => s!"range end index {stop} out of range for slice of length {length}"

end Stop

/-! ## All errors -/

inductive Error where
  | missingInput
  | missingField
  | unknownField (field : String)
  | missingConfig (field : String)
  | value (e : ValueError)
  | schema (fault : SchemaFault)
  | hydration (fault : HydrationFault)
  | validation (fault : ValidationFault)
  | connection (text : String)
  | query (fault : QueryFault)
  | notFound (missing : Missing)
  | uniqueConstraint (field constraint : String)
  | uniqueViolation (constraint text : String)
  | foreignKeyViolation (text : String)
  | checkViolation (text : String)
  | decode (column : String) (fault : DecodeFault)
  | pool (text : String)
  | stopped (cause : Stop)
deriving DecidableEq

namespace Error

def message : Error → String
  | missingInput => "Missing input"
  | missingField => "Missing field"
  | unknownField field => "Unknown field: " ++ field
  | missingConfig field => s!"Missing config for field '{field}'"
  | value e => e.message
  | schema fault => "Schema error: " ++ fault.message
  | hydration fault => "Hydration error: " ++ fault.message
  | validation fault => "Validation error: " ++ fault.message
  | connection text => "Connection error: " ++ text
  | query fault => "Query error: " ++ fault.message
  | notFound missing => "Not found: " ++ missing.message
  | uniqueConstraint field constraint =>
    s!"Unique constraint '{constraint}' violated on field '{field}'"
  | uniqueViolation constraint text => s!"Unique constraint violation: {constraint}: {text}"
  | foreignKeyViolation text => "Foreign key violation: " ++ text
  | checkViolation text => "Check constraint violation: " ++ text
  | decode column fault => s!"Decode error on column '{column}': " ++ fault.message
  | pool text => "Pool error: " ++ text
  | stopped cause => cause.message

/-- The field that an error is about, if it is about one. -/
def field? : Error → Option String
  | unknownField field => some field
  | missingConfig field => some field
  | value e => some e.field
  | uniqueConstraint field _ => some field
  | _ => none

def isInvalidValue : Error → Bool
  | value _ => true
  | _ => false

/-- Whether a row violates a unique constraint, whatever field it guards. -/
def isUniqueViolation : Error → Bool
  | uniqueConstraint _ _ => true
  | uniqueViolation _ _ => true
  | _ => false

def isNotFound : Error → Bool
  | notFound _ => true
  | _ => false

end Error

end SchemaSql
