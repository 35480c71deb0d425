import SchemaSql.Wire.Encoding

/-!
# Reading columns

The bytes of a column become a JSON value: numbers and truth values stay what they are, dates,
identifiers and decimals become their texts, arrays become lists. JSON comes as its text, except
within an array, where it is read in place.
-/

namespace SchemaSql.Wire

/-! ## Scalars -/

def orMalformed {α : Type} : Option α → Except DecodeFault α
  | some a => .ok a
  | none => .error .malformed

def decodeText (bytes : Bytes) : Option Json :=
  (ofUtf8? bytes).map Json.string

def decodeInteger (width : Nat) (bytes : Bytes) : Option Json :=
  if bytes.length = width then some (.int (ofSignedBytes bytes)) else none

/-- A number of a binary format, as a double. -/
def decodeFloat (format : BinaryFormat) (width : Nat) (bytes : Bytes) : Option Json :=
  if bytes.length = width then
    some (.ofDouble ((Binary.Extended.ofBits format (ofBigEndian bytes)).convert .double))
  else none

/-- JSON as its compact text, or as the value itself. -/
def decodeJson (nested : Bool) (bytes : Bytes) : Option Json := do
  let text ← ofUtf8? bytes
  let v ← Json.read? text
  return if nested then v else .string v.render

/-- The text of a moment that lies so many microseconds after the beginning of 2000. -/
def decodeMoment (ahead : Option Int) (bytes : Bytes) : Option Json :=
  if bytes.length = 8 then
    let nanos := ofSignedBytes bytes * microNanos + millenniumNanos
    (Moment.ofNanos? nanos ahead).map fun m ↦ .string m.render
  else none

def takeGroups : Nat → Bytes → Option (List Nat)
  | 0, _ => some []
  | count + 1, bytes => do
    let (b, r) ← takeBytes 2 bytes
    let gs ← takeGroups count r
    return ofBigEndian b :: gs

/-- The text of a finite decimal. Bytes after its groups are passed over. -/
def decodeNumeric (bytes : Bytes) : Option Json := do
  let (count, r) ← takeBytes 2 bytes
  let (weight, r) ← takeBytes 2 r
  let (sign, r) ← takeBytes 2 r
  let (places, r) ← takeBytes 2 r
  let groups ← takeGroups (ofBigEndian count) r
  if specialSigns ≤ ofBigEndian sign then none
  else
    let negative := ofBigEndian sign == negativeSign
    let x ← Numeric.ofGroups? ⟨groups, ofSignedBytes weight, negative, ofBigEndian places⟩
    return .string (.ofList x.write)

def decodeScalar (s : Scalar) (nested : Bool) (bytes : Bytes) : Option Json :=
  match s with
  | .text | .varchar | .bpchar | .name | .unknown => decodeText bytes
  | .int2 => decodeInteger 2 bytes
  | .int4 => decodeInteger 4 bytes
  | .int8 => decodeInteger 8 bytes
  | .float4 => decodeFloat .single 4 bytes
  | .float8 => decodeFloat .double 8 bytes
  | .bool =>
    match bytes with
    | [b] => some (.bool (b != 0))
    | _ => none
  | .json => decodeJson nested bytes
  | .jsonb =>
    match bytes with
    | version :: bytes => if version = jsonbVersion then decodeJson nested bytes else none
    | [] => none
  | .uuid => (Uuid.ofBytes? bytes).map fun u ↦ .string u.render
  | .date =>
    if bytes.length = 4 then
      (Date.ofNumber? (Date.millennium + ofSignedBytes bytes)).map fun d ↦
        .string (.ofList d.write)
    else none
  | .timestamp => decodeMoment none bytes
  | .timestamptz => decodeMoment (some 0) bytes
  | .numeric => decodeNumeric bytes

/-! ## Arrays -/

/-- So many elements, each after its length; nothing may be left over. -/
def takeElements : Nat → Bytes → Option (List (Option Bytes))
  | 0, bytes => if bytes.isEmpty then some [] else none
  | count + 1, bytes => do
    let (length, r) ← takeInt32 bytes
    if length < 0 then
      let es ← takeElements count r
      return none :: es
    else
      let (b, r) ← takeBytes length.toNat r
      let es ← takeElements count r
      return some b :: es

/-- The elements of an array of one dimension, or of none. The type of the elements and the index
of the first are not looked at. -/
def arrayElements (bytes : Bytes) : Option (List (Option Bytes)) := do
  let (dimensions, r) ← takeInt32 bytes
  let (_, r) ← takeInt32 r
  let (_, r) ← takeInt32 r
  if dimensions = 0 then takeElements 0 r
  else if dimensions = 1 then
    let (count, r) ← takeInt32 r
    let (_, r) ← takeInt32 r
    if count < 0 then none else takeElements count.toNat r
  else none

/-! ## All types -/

/-- The value of a column that is not null; `nested` within an array. -/
def decode : WireType → Bool → Bytes → Except DecodeFault Json
  | .scalar s, nested, bytes => orMalformed (decodeScalar s nested bytes)
  | .enum _ _, _, bytes => orMalformed (decodeText bytes)
  | .domain _ base, nested, bytes => decode base nested bytes
  | .array _ element, _, bytes => do
    let elements ← orMalformed (arrayElements bytes)
    let values ← elements.mapM fun
      | none => .ok .null
      | some b => decode element true b
    return .array values
  | .other id, _, _ => .error (.unsupportedType (WireType.other id).displayName)

end SchemaSql.Wire
