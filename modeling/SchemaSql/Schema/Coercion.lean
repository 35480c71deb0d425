import SchemaSql.Calendar.Layout
import SchemaSql.Calendar.Timestamp
import SchemaSql.Error
import SchemaSql.Json.Printer
import SchemaSql.Schema.Field
import SchemaSql.Sql.ArrayLiteral
import SchemaSql.Sql.Param

/-!
# Coercion

Every value of a payload becomes the canonical text of its field's type before it is bound. A
value is cast to the type, held against the options of the field, and encoded last; the elements
of an array field are coerced one by one and written as an array literal.
-/

namespace SchemaSql

/-! ## Casting to a type -/

namespace Json

/-- Whether a double is below `2 ^ 63` in magnitude. -/
def withinInt64 (x : Binary) : Bool :=
  let (a, b) := x.fraction
  a < twoPow 63 * b

/-- The integer that a value stands for: a number is cut toward zero. -/
def toInteger? : Json → Option Int
  | number n =>
    match n.toInt64?, n.toDouble with
    | some i, _ => some i
    | none, .finite x => if withinInt64 x then some x.trunc else none
    | none, _ => none
  | string s => (int64.read (Text.trimBoth s.toList)).toOption
  | bool b => some (if b then 1 else 0)
  | _ => none

def toDouble? : Json → Option Binary.Extended
  | number n => some n.toDouble
  | string s => (Binary.Extended.read .double (Text.trimBoth s.toList)).toOption
  | bool b => some (Binary.ofInt .double (if b then 1 else 0))
  | _ => none

/-- The moment that a value stands for: a text that is one, or a number of seconds. -/
def toMoment? : Json → Option Moment
  | string s => Moment.read? s
  | number n =>
    match n.toDouble with
    | .finite x => Moment.ofTimestamp? x
    | _ => none
  | _ => none

end Json

namespace FieldType

/-- Floats are written without an exponent, and whole ones without a point. -/
def floatLayout : FloatLayout :=
  ⟨none, false, .away⟩

/-- The canonical text of a value under a type. -/
def cast : FieldType → Json → Except ValueFault String
  | string, v => .ok v.plainText
  | int, v =>
    match v.toInteger? with
    | some i => .ok (renderInteger i)
    | none => .error (.notInteger v.render)
  | float, v =>
    match v.toDouble? with
    | some x => .ok (.ofList (floatLayout.write .double x))
    | none => .error (.notNumber v.render)
  | bool, v => .ok (if v.isTruthy then "true" else "false")
  | json, v => .ok v.render
  | date, v =>
    match v.toMoment? with
    | some m => .ok m.render
    | none => .error (.notDate v.render)

end FieldType

/-! ## Values of a field -/

namespace Field

def fails {α : Type} (f : Field) (fault : ValueFault) : Except ValueError α :=
  .error ⟨f.name, fault⟩

def cast (f : Field) (v : Json) : Except ValueError String :=
  match f.type.cast v with
  | .ok text => .ok text
  | .error fault => f.fails fault

/-- Whether the field admits a text; one without options admits every text. -/
def admits (f : Field) (text : String) : Bool :=
  match f.options with
  | none => true
  | some options => options.contains text

def encode (f : Field) (text : String) : String :=
  match f.encoder with
  | none => text
  | some encoder => encoder text

/-- One value of the field, or one element of an array field. -/
def coerceScalar (f : Field) (v : Json) : Except ValueError Param :=
  if v.isNull then
    if f.nullable then .ok .null else f.fails .nullNotAllowed
  else do
    let text ← f.cast v
    if f.admits text then return .text (f.encode text)
    else f.fails (.notOption text (f.options.getD []))

def elements (f : Field) : Json → Except ValueError (List Json)
  | .array elements => .ok elements
  | v => f.fails (.notList v.kind)

/-- A value as it is inserted or assigned. -/
def coerce (f : Field) (v : Json) : Except ValueError Param :=
  if !f.isArray then f.coerceScalar v
  else if v.isNull && f.nullable then .ok .null
  else do
    let elements ← f.elements v
    let params ← elements.mapM f.coerceScalar
    return .text (ArrayLiteral.write (params.map Param.toOption))

end Field

end SchemaSql
