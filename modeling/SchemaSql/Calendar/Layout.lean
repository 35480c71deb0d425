import SchemaSql.Number.Power
import SchemaSql.Calendar.Moment
import SchemaSql.Text.Blank

/-!
# Reading moments

A layout says in which order the parts of a date and a time stand in a text. Loose layouts take
numbers of fewer digits and blanks before them; the strict one takes each part in its full width.
A text is tried under one layout after another, those with an offset first.
-/

namespace SchemaSql

namespace Layout

/-! ## Parts -/

/-- What has been read so far; what a layout leaves out keeps its first value. -/
structure Parts where
  year : Int := 0
  month : Nat := 1
  day : Nat := 1
  hour : Nat := 0
  minute : Nat := 0
  second : Nat := 0
  nano : Nat := 0
  ahead : Option Int := none
deriving DecidableEq

namespace Parts

def moment? (p : Parts) : Option Moment := do
  let date ← Date.ofCivil? p.year p.month p.day
  let time ← ClockTime.ofClock? p.hour p.minute p.second p.nano
  match p.ahead with
  | none => return ⟨date, time, none⟩
  | some ahead => Moment.ofClock? date time ahead

end Parts

inductive Item where
  | year
  | month
  | day
  | hour
  | minute
  | second
  /-- A point and digits, or nothing. -/
  | fraction
  | offset
  | blanks
  | mark (c : Char)
deriving DecidableEq

/-! ## Numbers -/

/-- At most so many digits, at least one, and the number they make. -/
def readUpTo (width : Nat) (cs : List Char) : Option (Nat × List Char) :=
  let digits := (cs.take width).takeWhile Char.isDigit
  if digits.isEmpty then none
  else some (Nat.ofDigitChars 10 digits 0, cs.drop digits.length)

def readExactly (width : Nat) (cs : List Char) : Option (Nat × List Char) :=
  let digits := (cs.take width).takeWhile Char.isDigit
  if digits.length < width then none
  else some (Nat.ofDigitChars 10 digits 0, cs.drop width)

def readAll (cs : List Char) : Option (Nat × List Char) :=
  readUpTo cs.length cs

/-- A year: up to four digits, or any number of them after a sign. -/
def readYear : List Char → Option (Int × List Char)
  | '+' :: cs => (readAll cs).map fun (n, r) ↦ ((n : Int), r)
  | '-' :: cs => (readAll cs).map fun (n, r) ↦ (-(n : Int), r)
  | cs => (readUpTo 4 cs).map fun (n, r) ↦ ((n : Int), r)

/-- The digits after the point of a second, in nanoseconds; those beyond the ninth are passed
over. -/
def readNanos (cs : List Char) : Option (Nat × List Char) :=
  let digits := (cs.take 9).takeWhile Char.isDigit
  if digits.isEmpty then none
  else
    some (Nat.ofDigitChars 10 digits 0 * tenPow (9 - digits.length),
      (cs.drop digits.length).dropWhile Char.isDigit)

/-- A point with its digits, or nothing. -/
def readFraction : List Char → Option (Nat × List Char)
  | '.' :: cs => readNanos cs
  | cs => some (0, cs)

/-! ## Offsets -/

/-- The sign of an offset: a plus, a hyphen or a minus sign. -/
def readSign : List Char → Option (Int × List Char)
  | '+' :: cs => some (1, cs)
  | '-' :: cs => some (-1, cs)
  | '\u2212' :: cs => some (-1, cs)
  | _ => none

/-- The minutes of an offset, below sixty. -/
def readMinutes (cs : List Char) : Option (Nat × List Char) :=
  match readExactly 2 cs with
  | some (n, r) => if n < 60 then some (n, r) else none
  | none => none

/-- An offset in minutes: `Z`, or a sign, two digits for the hours and the minutes after what
`minutes` takes for their separation. -/
def readOffset (minutes : List Char → Option (Nat × List Char)) (cs : List Char) :
    Option (Int × List Char) :=
  match cs with
  | 'Z' :: r => some (0, r)
  | 'z' :: r => some (0, r)
  | _ => do
    let (sign, r) ← readSign cs
    let (h, r) ← readExactly 2 r
    let (m, r) ← minutes r
    return (sign * (h * 60 + m : Nat), r)

def colonMinutes : List Char → Option (Nat × List Char)
  | ':' :: cs => readMinutes cs
  | _ => none

/-- Minutes after any run of colons and blanks; none at the end of the text. -/
def looseMinutes (cs : List Char) : Option (Nat × List Char) :=
  match cs.dropWhile fun c ↦ c == ':' || Text.isBlank c with
  | [] => some (0, [])
  | r => readMinutes r

/-! ## Loose layouts -/

/-- A number below a hundred, after any blanks. -/
def readPair (cs : List Char) : Option (Nat × List Char) :=
  readUpTo 2 (Text.trimStart cs)

def Item.read (p : Parts) (cs : List Char) : Item → Option (Parts × List Char)
  | .year => (readYear (Text.trimStart cs)).map fun (n, r) ↦ ({ p with year := n }, r)
  | .month => (readPair cs).map fun (n, r) ↦ ({ p with month := n }, r)
  | .day => (readPair cs).map fun (n, r) ↦ ({ p with day := n }, r)
  | .hour => (readPair cs).map fun (n, r) ↦ ({ p with hour := n }, r)
  | .minute => (readPair cs).map fun (n, r) ↦ ({ p with minute := n }, r)
  | .second => (readPair cs).map fun (n, r) ↦ ({ p with second := n }, r)
  | .fraction => (readFraction cs).map fun (n, r) ↦ ({ p with nano := n }, r)
  | .offset =>
    (readOffset looseMinutes (Text.trimStart cs)).map fun (n, r) ↦ ({ p with ahead := some n }, r)
  | .blanks => some (p, Text.trimStart cs)
  | .mark c =>
    match cs with
    | d :: r => if c = d then some (p, r) else none
    | [] => none

def readItems : Parts → List Item → List Char → Option (Parts × List Char)
  | p, [], cs => some (p, cs)
  | p, i :: is, cs => do
    let (p, cs) ← i.read p cs
    readItems p is cs

def read? (items : List Item) (cs : List Char) : Option Moment :=
  match readItems {} items cs with
  | some (p, []) => p.moment?
  | _ => none

/-- Year, month and day with a mark between them. -/
def yearFirst (c : Char) : List Item :=
  [.year, .mark c, .month, .mark c, .day]

/-- Day, month and year with points between them. -/
def dayFirst : List Item :=
  [.day, .mark '.', .month, .mark '.', .year]

def toMinute : List Item :=
  [.hour, .mark ':', .minute]

def toSecond : List Item :=
  toMinute ++ [.mark ':', .second, .fraction]

/-- The loose layouts, in the order in which they are tried. -/
def looseLayouts : List (List Item) := [
  yearFirst '-' ++ .blanks :: toSecond ++ [.offset],
  yearFirst '-' ++ .mark 'T' :: toSecond ++ [.offset],
  yearFirst '-' ++ .blanks :: toSecond,
  yearFirst '-' ++ .mark 'T' :: toSecond,
  yearFirst '-' ++ .blanks :: toMinute,
  yearFirst '-' ++ .mark 'T' :: toMinute,
  yearFirst '/' ++ .blanks :: toSecond,
  yearFirst '/' ++ .blanks :: toMinute,
  dayFirst ++ .blanks :: toSecond,
  dayFirst ++ .blanks :: toMinute,
  yearFirst '-',
  yearFirst '/',
  dayFirst,
  [.year, .month, .day]]

/-! ## The strict layout -/

/-- A number in its full width, then a mark. -/
def readMarked (width : Nat) (isMark : Char → Bool) (cs : List Char) : Option (Nat × List Char) :=
  match readExactly width cs with
  | some (n, c :: r) => if isMark c then some (n, r) else none
  | _ => none

def isDateMark (c : Char) : Bool :=
  c == 'T' || c == 't' || c == ' '

/-- Reads a whole text as `YYYY-MM-DDTHH:MM:SS` with a fraction or without, and an offset. -/
def readStrict? (cs : List Char) : Option Moment := do
  let (year, cs) ← readMarked 4 (· == '-') cs
  let (month, cs) ← readMarked 2 (· == '-') cs
  let (day, cs) ← readMarked 2 isDateMark cs
  let (hour, cs) ← readMarked 2 (· == ':') cs
  let (minute, cs) ← readMarked 2 (· == ':') cs
  let (second, cs) ← readExactly 2 cs
  let (nano, cs) ← readFraction cs
  let (ahead, cs) ← readOffset colonMinutes cs
  if cs.isEmpty then Parts.moment? ⟨year, month, day, hour, minute, second, nano, ahead⟩ else none

end Layout

namespace Moment

/-- Reads a text as a moment: under the strict layout, or else under the first loose one that
fits. -/
def read? (text : String) : Option Moment :=
  let cs := Text.trimBoth text.toList
  if cs.isEmpty then none
  else (Layout.readStrict? cs).or (Layout.looseLayouts.findSome? fun items ↦ Layout.read? items cs)

end Moment

end SchemaSql
