import SchemaSql.Text.Case
import SchemaSql.Text.Hex

/-!
# Universally unique identifiers

Sixteen bytes, written in hexadecimal in groups of 8, 4, 4, 4 and 12 digits. They are read also
without hyphens, in braces and as a uniform resource name, whose scheme may be in either case.
-/

namespace SchemaSql.Wire

structure Uuid where
  bytes : List UInt8
  sixteen : bytes.length = 16
deriving DecidableEq

namespace Uuid

def ofBytes? (bytes : List UInt8) : Option Uuid :=
  if h : bytes.length = 16 then some ⟨bytes, h⟩ else none

/-! ## Writing -/

def write (u : Uuid) : List Char :=
  let digits := Text.hexOfBytes u.bytes
  let group (start count : Nat) : List Char := (digits.drop start).take count
  group 0 8 ++ '-' :: (group 8 4 ++ '-' :: (group 12 4 ++ '-' :: (group 16 4 ++
    '-' :: group 20 12)))

def render (u : Uuid) : String :=
  .ofList u.write

/-! ## Reading -/

/-- The digits without hyphens, which have to stand where the groups meet. -/
def dropHyphens? (cs : List Char) : Option (List Char) :=
  if cs.length = 36 && [8, 13, 18, 23].all fun i ↦ cs[i]? == some '-' then
    some (cs.take 8 ++ (cs.drop 9).take 4 ++ (cs.drop 14).take 4 ++ (cs.drop 19).take 4 ++
      cs.drop 24)
  else none

def scheme : List Char := "urn:uuid:".toList

/-- What stands between braces, or after the scheme. -/
def unwrap (cs : List Char) : List Char :=
  if cs.length = 38 && cs.head? == some '\x7b' && cs.getLast? == some '\x7d' then
    cs.tail.dropLast
  else if Text.sameLetters (cs.take scheme.length) scheme then cs.drop scheme.length
  else cs

def read? (text : String) : Option Uuid := do
  let cs := text.toList
  let digits ← if cs.length = 32 then some cs else dropHyphens? (unwrap cs)
  ofBytes? (← Text.bytesOfHex? digits)

end Uuid

end SchemaSql.Wire
