/-!
# Templates

A template is SQL text in which `$?` marks a slot for a parameter. Slots are numbered only when
the text is complete, so that templates can be put together freely. A pattern is a template in
which `{name}` stands for a fragment.
-/

namespace SchemaSql.Template

def slot : String := "$?"

/-! ## Slots -/

/-- The text before the first slot, and the texts after each. -/
def pieces : List Char → List Char × List (List Char)
  | [] => ([], [])
  | '$' :: '?' :: cs =>
    let (first, rest) := pieces cs
    ([], first :: rest)
  | c :: cs =>
    let (first, rest) := pieces cs
    (c :: first, rest)

def slotCount (cs : List Char) : Nat :=
  (pieces cs).2.length

def numbered (n : Nat) : List Char :=
  '$' :: Nat.toDigits 10 n

/-- The text with its slots numbered from `n` on, and the number after the last slot. -/
def numberSlots : Nat → List Char → List Char × Nat
  | n, [] => ([], n)
  | n, '$' :: '?' :: cs =>
    let (text, next) := numberSlots (n + 1) cs
    (numbered n ++ text, next)
  | n, c :: cs =>
    let (text, next) := numberSlots n cs
    (c :: text, next)

def numberFrom (start : Nat) (template : String) : String × Nat :=
  let (text, next) := numberSlots start template.toList
  (.ofList text, next)

/-! ## Patterns -/

/-- The pattern that is nothing but the fragment. -/
def identity : String := "{name}"

/-- A pattern with a fragment in each of its places. -/
def fill (fragment : List Char) : List Char → List Char
  | [] => []
  | '\x7b' :: 'n' :: 'a' :: 'm' :: 'e' :: '\x7d' :: cs => fragment ++ fill fragment cs
  | c :: cs => c :: fill fragment cs

theorem fill_identity (fragment : List Char) : fill fragment identity.toList = fragment := by
  simp [identity, fill]

end SchemaSql.Template
