import SchemaSql.Calendar.Layout
import SchemaSql.Error
import SchemaSql.Json.Printer
import SchemaSql.Json.Reader
import SchemaSql.Number.Numeric
import SchemaSql.Sql.ArrayLiteral
import SchemaSql.Sql.Param
import SchemaSql.Text.Blank
import SchemaSql.Text.Case
import SchemaSql.Wire.Bytes
import SchemaSql.Wire.Type
import SchemaSql.Wire.Uuid

/-!
# Binding texts

The canonical text of a parameter becomes the bytes of the type that the server asks for. The
elements of an array literal are bound one by one to the type of the elements.
-/

namespace SchemaSql.Wire

/-! ## Scalars -/

def trueWords : List String := ["t", "true", "1", "y", "yes", "on"]
def falseWords : List String := ["f", "false", "0", "n", "no", "off"]

/-- The truth value of a word in letters of any case. -/
def readBool? (text : String) : Option Bool :=
  let word := Text.lowerCase (Text.trim text)
  if trueWords.contains word then some true
  else if falseWords.contains word then some false
  else none

def encodeInteger (range : IntegerRange) (width : Nat) (text : String) : Except BindFault Bytes :=
  match range.read (Text.trimBoth text.toList) with
  | .ok i => .ok (signedBytes width i)
  | .error fault => .error (.integer fault)

def encodeFloat (format : BinaryFormat) (width : Nat) (text : String) : Except BindFault Bytes :=
  match Binary.Extended.read format (Text.trimBoth text.toList) with
  | .ok x => .ok (bigEndian width (x.toBits format))
  | .error fault => .error (.float fault)

/-- The version of the encoding of binary JSON, before its text. -/
def jsonbVersion : UInt8 := 1

def encodeJson (text : String) : Except BindFault Bytes :=
  match Json.read? text with
  | some v => .ok (utf8 v.render)
  | none => .error .notJson

def negativeSign : Nat := 0x4000

/-- Signs from here on stand for values that are no finite decimals. -/
def specialSigns : Nat := 0xc000

/-- A decimal: the number of its groups, its weight, sign and places, and the groups. -/
def numericBytes (x : Numeric) : Bytes :=
  let g := x.group
  bigEndian 2 g.groups.length ++ signedBytes 2 g.weight ++
    bigEndian 2 (if g.negative then negativeSign else 0) ++ bigEndian 2 g.places ++
    g.groups.flatMap (bigEndian 2)

def microNanos : Int := 1000

/-- The first instant of the year 2000, from which the server counts. -/
def millenniumNanos : Int := Date.millennium * ClockTime.dayNanos

/-- The microseconds since the year 2000, toward zero. -/
def microsSinceMillennium (nanos : Int) : Int :=
  (nanos - millenniumNanos).tdiv microNanos

def readMoment (fault : String → BindFault) (text : String) : Except BindFault Moment :=
  match Moment.read? text with
  | some m => .ok m
  | none => .error (fault text)

def encodeScalar (s : Scalar) (text : String) : Except BindFault Bytes :=
  match s with
  | .text | .varchar | .bpchar | .name | .unknown => .ok (utf8 text)
  | .int2 => encodeInteger int16 2 text
  | .int4 => encodeInteger int32 4 text
  | .int8 => encodeInteger int64 8 text
  | .float4 => encodeFloat .single 4 text
  | .float8 => encodeFloat .double 8 text
  | .bool =>
    match readBool? text with
    | some b => .ok [if b then 1 else 0]
    | none => .error (.notBoolean text)
  | .json => encodeJson text
  | .jsonb => (encodeJson text).map (jsonbVersion :: ·)
  | .uuid =>
    match Uuid.read? (Text.trim text) with
    | some u => .ok u.bytes
    | none => .error .notUuid
  | .date =>
    (readMoment .notDate text).map fun m ↦ signedBytes 4 (m.date.number - Date.millennium)
  | .timestamp =>
    (readMoment .notTimestamp text).map fun m ↦
      signedBytes 8 (microsSinceMillennium m.clockNanos)
  | .timestamptz =>
    (readMoment .notTimestamp text).map fun m ↦
      signedBytes 8 (microsSinceMillennium m.universalNanos)
  | .numeric =>
    match Numeric.read? (Text.trimBoth text.toList) with
    | some x => .ok (numericBytes x)
    | none => .error .notDecimal

/-! ## Arrays -/

/-- A value after its length; null has the length minus one and no bytes. -/
def lengthPrefixed : Option Bytes → Bytes
  | none => signedBytes 4 (-1)
  | some bytes => signedBytes 4 bytes.length ++ bytes

/-- An array of one dimension: the count of dimensions, whether there are nulls, the type of the
elements, their number, the index of the first, and the elements. -/
def arrayBytes (array element : TypeId) (elements : List (Option Bytes)) : Bytes :=
  signedBytes 4 1 ++ signedBytes 4 (if elements.any Option.isNone then 1 else 0) ++
    bigEndian 4 element.oid ++ signedBytes 4 elements.length ++
    bigEndian 4 (WireType.firstIndex array) ++ elements.flatMap lengthPrefixed

/-! ## All types -/

def encodeText : WireType → String → Except BindFault Bytes
  | .scalar s, text => encodeScalar s text
  | .enum id labels, text =>
    if labels.contains text then .ok (utf8 text)
    else .error (.notLabel text (WireType.enum id labels).displayName)
  | .domain _ base, text => encodeText base text
  | .array id element, text =>
    match ArrayLiteral.read? text with
    | none => .error (.notArrayLiteral text)
    | some elements => do
      let elements ← elements.mapM fun
        | none => .ok none
        | some s => (encodeText element s).map some
      return arrayBytes id element.id elements
  | .other id, _ => .error (.unsupportedType (WireType.other id).displayName)

/-- The bytes of a parameter under a type; null has none. -/
def encode (t : WireType) : Param → Except BindFault (Option Bytes)
  | .null => .ok none
  | .text s => (encodeText t s).map some

end SchemaSql.Wire
