import SchemaSql.Number.Shortest
import SchemaSql.Number.Integer
import SchemaSql.Text.Case

/-!
# Binary numbers as text

Writing a number in its shortest digits under a layout, and reading one: a sign, digits with at
most one point, an exponent, or the words `inf`, `infinity` and `nan` in any case.
-/

namespace SchemaSql

/-- How the shortest digits of a number are laid out. -/
structure FloatLayout where
  /-- The places of the leading digit that are written without an exponent; all when absent. -/
  positional : Option (Int × Int)
  /-- Whether a whole number written without an exponent ends in `.0`. -/
  wholePoint : Bool
  tie : Tie

namespace FloatLayout

/-- Digits with the point put before `places` of them. -/
def insertPoint (digits : List Char) (places : Nat) : List Char :=
  if places < digits.length then
    digits.take (digits.length - places) ++ '.' :: digits.drop (digits.length - places)
  else '0' :: '.' :: (List.replicate (places - digits.length) '0' ++ digits)

def writePositional (l : FloatLayout) (d : Decimal) : List Char :=
  match d.place with
  | .ofNat k =>
    d.text ++ List.replicate k '0' ++ (if l.wholePoint then ['.', '0'] else [])
  | .negSucc k => insertPoint d.text (k + 1)

/-- A decimal with one digit before the point and a signed exponent. -/
def writeScientific (d : Decimal) : List Char :=
  let mantissa :=
    match d.text with
    | [] => []
    | [c] => [c]
    | c :: cs => c :: '.' :: cs
  let sign := if d.leading < 0 then '-' else '+'
  mantissa ++ 'e' :: sign :: Nat.toDigits 10 d.leading.natAbs

def writeDecimal (l : FloatLayout) (d : Decimal) : List Char :=
  match l.positional with
  | none => l.writePositional d
  | some (least, greatest) =>
    if least ≤ d.leading && d.leading ≤ greatest then l.writePositional d else writeScientific d

def writeFinite (l : FloatLayout) (f : BinaryFormat) (x : Binary) : List Char :=
  let magnitude :=
    if x.isZero then l.writePositional ⟨0, 0⟩ else l.writeDecimal (x.shortest f l.tie)
  if x.negative then '-' :: magnitude else magnitude

def write (l : FloatLayout) (f : BinaryFormat) : Binary.Extended → List Char
  | .finite x => l.writeFinite f x
  | .infinite negative => if negative then "-inf".toList else "inf".toList
  | .notANumber _ => "NaN".toList

end FloatLayout

inductive FloatFault where
  | empty
  | malformed
deriving DecidableEq

namespace FloatFault

def message : FloatFault → String
  | empty => "cannot parse float from empty string"
  | malformed => "invalid float literal"

end FloatFault

namespace Binary.Extended

def digitsValue (cs : List Char) : Nat :=
  Nat.ofDigitChars 10 cs 0

/-- The exponent after `e` or `E`: a sign and at least one digit, up to the end of the text. -/
def readExponent (cs : List Char) : Option Int :=
  let (negative, digits) : Bool × List Char :=
    match cs with
    | '+' :: r => (false, r)
    | '-' :: r => (true, r)
    | r => (false, r)
  if digits.isEmpty || !digits.all Char.isDigit then none
  else some (if negative then -(digitsValue digits : Int) else digitsValue digits)

/-- A number without its sign: digits with at most one point, then perhaps an exponent. -/
def readMagnitude (f : BinaryFormat) (negative : Bool) (cs : List Char) : Option Extended :=
  let whole := cs.takeWhile Char.isDigit
  let rest := cs.dropWhile Char.isDigit
  let (part, rest) : List Char × List Char :=
    match rest with
    | '.' :: r => (r.takeWhile Char.isDigit, r.dropWhile Char.isDigit)
    | r => ([], r)
  if whole.isEmpty && part.isEmpty then none
  else
    let exponent? : Option Int :=
      match rest with
      | [] => some 0
      | 'e' :: r => readExponent r
      | 'E' :: r => readExponent r
      | _ => none
    exponent?.map fun exponent ↦
      ofDecimal f negative (digitsValue (whole ++ part)) (exponent - part.length)

/-- A number or a word for an infinity or no number, after its sign. -/
def readUnsigned (f : BinaryFormat) (negative : Bool) (cs : List Char) : Option Extended :=
  if Text.sameLetters cs "inf".toList || Text.sameLetters cs "infinity".toList then
    some (.infinite negative)
  else if Text.sameLetters cs "nan".toList then some (.notANumber negative)
  else readMagnitude f negative cs

def read (f : BinaryFormat) : List Char → Except FloatFault Extended
  | [] => .error .empty
  | '+' :: cs => (readUnsigned f false cs).elim (.error .malformed) .ok
  | '-' :: cs => (readUnsigned f true cs).elim (.error .malformed) .ok
  | cs => (readUnsigned f false cs).elim (.error .malformed) .ok

end Binary.Extended

end SchemaSql
