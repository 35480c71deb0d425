import SchemaSql.Json.Basic
import SchemaSql.Text.Hex

/-!
# Reading JSON

A reader takes what it needs from the front of the text and returns the rest. Values nest at most
127 deep. A number with a point or an exponent, or one beyond 64 bits, becomes a double: its first
digits that fit into 64 bits, scaled by a power of ten.
-/

namespace SchemaSql

namespace Json

/-! ## Blanks -/

def isBlank (c : Char) : Bool :=
  c == ' ' || c == '\n' || c == '\t' || c == '\r'

def skipBlanks (cs : List Char) : List Char :=
  cs.dropWhile isBlank

/-! ## Numbers -/

def greatestSignificand : Nat :=
  twoPow 64 - 1

/-- Collects digits while the number has 64 bits; the rest starts at the first digit that is not
taken. -/
def collectDigits : Nat → List Char → Nat × List Char
  | n, [] => (n, [])
  | n, c :: cs =>
    if c.isDigit then
      let step := n * 10 + IntegerRange.digitValue c
      if greatestSignificand < step then (n, c :: cs) else collectDigits step cs
    else (n, c :: cs)

def greatestPower : Nat :=
  308

def powerOfTen (k : Nat) : Binary.Extended :=
  Binary.round .double false (tenPow k) 1

/-- `x · 10 ^ k`, rounded at each step. -/
def scaleUp (x : Binary) (k : Nat) : Binary.Extended :=
  match powerOfTen k with
  | .finite p => x.mul .double p
  | other => other

/-- `x / 10 ^ k`, rounded at each step. -/
def scaleDown (x : Binary) (k : Nat) : Binary.Extended :=
  match powerOfTen k with
  | .finite p => x.div .double p
  | _ => .finite ⟨x.negative, 0, BinaryFormat.double.leastExponent⟩

/-- The double that `significand · 10 ^ exponent` is read as, if it is finite. A division beyond
the greatest power of ten is done in two steps; beyond its double nothing is left. -/
def scaled (negative : Bool) (significand : Nat) (exponent : Int) : Option Binary :=
  let zero : Binary := ⟨negative, 0, BinaryFormat.double.leastExponent⟩
  match Binary.round .double negative significand 1 with
  | .finite x =>
    if x.isZero then some zero
    else
      match exponent with
      | .ofNat k => if k ≤ greatestPower then (scaleUp x k).toFinite? else none
      | .negSucc k =>
        let places := k + 1
        if places ≤ greatestPower then (scaleDown x places).toFinite?
        else if places ≤ 2 * greatestPower then
          match scaleDown x greatestPower with
          | .finite y => (scaleDown y (places - greatestPower)).toFinite?
          | _ => none
        else some zero
  | _ => none

/-- What follows the mantissa of a double: perhaps an exponent, a sign and at least one digit. -/
def readExponent (negative : Bool) (significand : Nat) (exponent : Int) (cs : List Char) :
    Option (Number × List Char) :=
  let finish (e : Int) (rest : List Char) : Option (Number × List Char) :=
    (scaled negative significand e).map fun x ↦ (.float x, rest)
  let explicit (below : Bool) (cs : List Char) : Option (Number × List Char) :=
    let digits := cs.takeWhile Char.isDigit
    if digits.isEmpty then none
    else
      let e : Int := Nat.ofDigitChars 10 digits 0
      finish (exponent + if below then -e else e) (cs.dropWhile Char.isDigit)
  let signed (cs : List Char) : Option (Number × List Char) :=
    match cs with
    | '+' :: r => explicit false r
    | '-' :: r => explicit true r
    | r => explicit false r
  match cs with
  | 'e' :: r => signed r
  | 'E' :: r => signed r
  | _ => finish exponent cs

/-- What follows the point of a double: at least one digit, then perhaps an exponent. -/
def readFraction (negative : Bool) (significand : Nat) (exponent : Int) (cs : List Char) :
    Option (Number × List Char) :=
  if (cs.takeWhile Char.isDigit).isEmpty then none
  else
    let (collected, rest) := collectDigits significand cs
    let taken : Int := (cs.length : Int) - rest.length
    readExponent negative collected (exponent - taken) (rest.dropWhile Char.isDigit)

/-- A number without fraction and exponent. Minus zero and what has more than 64 bits is a
double. -/
def wholeNumber (negative : Bool) (significand : Nat) : Option Number :=
  if !negative then some (.int significand)
  else if significand = 0 || !int64.contains (-significand) then
    (scaled true significand 0).map .float
  else some (.int (-significand))

/-- A number after its sign. A leading zero stands alone. -/
def readMagnitude (negative : Bool) (cs : List Char) : Option (Number × List Char) :=
  let digits := cs.takeWhile Char.isDigit
  if digits.isEmpty || (digits.head? == some '0' && 1 < digits.length) then none
  else
    let (significand, rest) := collectDigits 0 cs
    let beyond := rest.takeWhile Char.isDigit
    match rest.dropWhile Char.isDigit with
    | '.' :: r => readFraction negative significand beyond.length r
    | r =>
      if r.head? == some 'e' || r.head? == some 'E' || !beyond.isEmpty then
        readExponent negative significand beyond.length r
      else (wholeNumber negative significand).map fun n ↦ (n, r)

def readNumber : List Char → Option (Number × List Char)
  | '-' :: cs => readMagnitude true cs
  | cs => readMagnitude false cs

/-! ## Strings -/

def hexUnit? (a b c d : Char) : Option Nat := do
  let a ← Text.hexValue? a
  let b ← Text.hexValue? b
  let c ← Text.hexValue? c
  let d ← Text.hexValue? d
  return ((a * 16 + b) * 16 + c) * 16 + d

/-- Whether a 16-bit unit is one half of a pair and no character by itself. -/
def isSurrogate (unit : Nat) : Bool :=
  0xD800 ≤ unit && unit ≤ 0xDFFF

/-- The character of a pair of 16-bit units, if they are a high and a low half. -/
def pairChar? (high low : Nat) : Option Char :=
  if high ≤ 0xDBFF && 0xDC00 ≤ low && low ≤ 0xDFFF then
    some (.ofNat (0x10000 + (high - 0xD800) * 0x400 + (low - 0xDC00)))
  else none

def shortEscape? (c : Char) : Option Char :=
  if c = '"' || c = '\\' || c = '/' then some c
  else if c = 'b' then some '\x08'
  else if c = 'f' then some '\x0c'
  else if c = 'n' then some '\n'
  else if c = 'r' then some '\r'
  else if c = 't' then some '\t'
  else none

def before (c : Char) (found : Option (List Char × List Char)) : Option (List Char × List Char) :=
  found.map fun (s, r) ↦ (c :: s, r)

def readString : List Char → Option (List Char × List Char)
  | [] => none
  | '"' :: cs => some ([], cs)
  | '\\' :: 'u' :: a :: b :: c :: d :: cs =>
    match hexUnit? a b c d with
    | none => none
    | some unit =>
      if isSurrogate unit then
        match cs with
        | '\\' :: 'u' :: e :: f :: g :: h :: cs =>
          match (hexUnit? e f g h).bind (pairChar? unit) with
          | some x => before x (readString cs)
          | none => none
        | _ => none
      else before (.ofNat unit) (readString cs)
  | '\\' :: c :: cs =>
    match shortEscape? c with
    | some x => before x (readString cs)
    | none => none
  | c :: cs => if c.toNat < 0x20 || c = '\\' then none else before c (readString cs)

/-! ## Values -/

/-- The elements of an array after its first bracket and up to its last, at least one. Each
element takes a character, so a bound on their number is no loss. -/
def readElements (element : List Char → Option (Json × List Char)) :
    Nat → List Char → Option (List Json × List Char)
  | 0, _ => none
  | bound + 1, cs => do
    let (v, r) ← element cs
    match skipBlanks r with
    | ',' :: r =>
      let (vs, r) ← readElements element bound r
      return (v :: vs, r)
    | ']' :: r => return ([v], r)
    | _ => none

def readMember (value : List Char → Option (Json × List Char)) (cs : List Char) :
    Option ((String × Json) × List Char) :=
  match skipBlanks cs with
  | '"' :: r => do
    let (key, r) ← readString r
    match skipBlanks r with
    | ':' :: r =>
      let (v, r) ← value r
      return ((.ofList key, v), r)
    | _ => none
  | _ => none

def readMembers (value : List Char → Option (Json × List Char)) :
    Nat → List Char → Option (List (String × Json) × List Char)
  | 0, _ => none
  | bound + 1, cs => do
    let (m, r) ← readMember value cs
    match skipBlanks r with
    | ',' :: r =>
      let (ms, r) ← readMembers value bound r
      return (m :: ms, r)
    | '}' :: r => return ([m], r)
    | _ => none

def readScalar : List Char → Option (Json × List Char)
  | 'n' :: 'u' :: 'l' :: 'l' :: r => some (.null, r)
  | 't' :: 'r' :: 'u' :: 'e' :: r => some (.bool true, r)
  | 'f' :: 'a' :: 'l' :: 's' :: 'e' :: r => some (.bool false, r)
  | '"' :: r => (readString r).map fun (s, r) ↦ (.string (.ofList s), r)
  | cs => (readNumber cs).map fun (n, r) ↦ (.number n, r)

/-- A value whose arrays and objects nest at most so deep, after any blanks. -/
def readValue : Nat → List Char → Option (Json × List Char)
  | depth, cs =>
    match depth, skipBlanks cs with
    | 0, '[' :: _ => none
    | 0, '{' :: _ => none
    | depth + 1, '[' :: r =>
      match skipBlanks r with
      | ']' :: r => some (.array [], r)
      | r => (readElements (readValue depth) r.length r).map fun (vs, r) ↦ (.array vs, r)
    | depth + 1, '{' :: r =>
      match skipBlanks r with
      | '}' :: r => some (.object [], r)
      | r => (readMembers (readValue depth) r.length r).map fun (ms, r) ↦ (ofMembers ms, r)
    | _, r => readScalar r

def greatestDepth : Nat :=
  127

def read? (text : String) : Option Json :=
  match readValue greatestDepth text.toList with
  | some (v, r) => if (skipBlanks r).isEmpty then some v else none
  | none => none

end Json

end SchemaSql
