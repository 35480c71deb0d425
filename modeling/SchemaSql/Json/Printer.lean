import SchemaSql.Json.Basic
import SchemaSql.Number.FloatText

/-!
# Writing JSON

The compact text of a value: no blanks, members in the order of their keys, and only those
characters of a string escaped that have to be.
-/

namespace SchemaSql

namespace Json

/-! ## Scalars -/

/-- Doubles between a hundred-thousandth and ten to the sixteenth are written without an exponent,
and always with a point or an exponent. -/
def doubleLayout : FloatLayout :=
  ⟨some (-5, 15), true, .toEven⟩

def Number.write : Number → List Char
  | .int i => writeInteger i
  | .float x => doubleLayout.writeFinite .double x

def hexDigit (n : Nat) : Char :=
  Nat.digitChar n

/-- A character within a string: control characters, the quote and the backslash are escaped. -/
def escape (c : Char) : List Char :=
  if c = '"' then ['\\', '"']
  else if c = '\\' then ['\\', '\\']
  else if c = '\n' then ['\\', 'n']
  else if c = '\r' then ['\\', 'r']
  else if c = '\t' then ['\\', 't']
  else if c = '\x08' then ['\\', 'b']
  else if c = '\x0c' then ['\\', 'f']
  else if c.toNat < 0x20 then
    ['\\', 'u', '0', '0', hexDigit (c.toNat / 16), hexDigit (c.toNat % 16)]
  else [c]

def writeString (s : String) : List Char :=
  '"' :: (s.toList.flatMap escape ++ ['"'])

/-! ## Values -/

mutual

def write : Json → List Char
  | .null => "null".toList
  | .bool b => (if b then "true" else "false").toList
  | .number n => n.write
  | .string s => writeString s
  | .array elements => '[' :: (writeElements elements ++ [']'])
  | .object members => '{' :: (writeMembers members ++ ['}'])

def writeElements : List Json → List Char
  | [] => []
  | [v] => v.write
  | v :: w :: vs => v.write ++ ',' :: writeElements (w :: vs)

def writeMembers : List (String × Json) → List Char
  | [] => []
  | [(k, v)] => writeString k ++ ':' :: v.write
  | (k, v) :: m :: ms => writeString k ++ ':' :: (v.write ++ ',' :: writeMembers (m :: ms))

end

def render (v : Json) : String :=
  .ofList v.write

/-- A value as plain text: a string stands for itself, any other value for its JSON text. -/
def plainText : Json → String
  | .string s => s
  | v => v.render

end Json

end SchemaSql
