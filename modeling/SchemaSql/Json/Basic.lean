import SchemaSql.Number.Integer
import SchemaSql.Number.Binary

/-!
# JSON values

A number is an integer or a double. The members of an object are kept in the order of their keys,
each key once.
-/

namespace SchemaSql

/-- A JSON number: an integer that was written as one, or a double. -/
inductive Json.Number where
  | int (i : Int)
  | float (x : Binary)
deriving DecidableEq

inductive Json where
  | null
  | bool (b : Bool)
  | number (n : Json.Number)
  | string (s : String)
  | array (elements : List Json)
  | object (members : List (String × Json))
deriving Inhabited

namespace Json

/-! ## Numbers -/

namespace Number

def toDouble : Number → Binary.Extended
  | int i => Binary.ofInt .double i
  | float x => .finite x

/-- The integer that a number was written as, if it has 64 bits. -/
def toInt64? : Number → Option Int
  | int i => if int64.contains i then some i else none
  | float _ => none

end Number

def int (i : Int) : Json :=
  .number (.int i)

def nat (n : Nat) : Json :=
  .number (.int n)

/-- A double as a value: one that is not finite has no JSON form and becomes `null`. -/
def ofDouble : Binary.Extended → Json
  | .finite x => .number (.float x)
  | _ => .null

/-! ## Objects -/

/-- Puts a member into its place; a member of the same key is replaced. -/
def insertMember (key : String) (value : Json) : List (String × Json) → List (String × Json)
  | [] => [(key, value)]
  | (k, v) :: members =>
    if key < k then (key, value) :: (k, v) :: members
    else if key = k then (key, value) :: members
    else (k, v) :: insertMember key value members

/-- The object with these members; of two with one key the last counts. -/
def ofMembers (members : List (String × Json)) : Json :=
  .object (members.foldl (fun sorted m ↦ insertMember m.1 m.2 sorted) [])

def get? (key : String) : Json → Option Json
  | object members => members.lookup key
  | _ => none

/-! ## Kinds of values -/

def isNull : Json → Bool
  | null => true
  | _ => false

/-- The kind of a value, as messages name it. -/
def kind : Json → String
  | null => "null"
  | bool _ => "bool"
  | number _ => "number"
  | string _ => "string"
  | array _ => "list"
  | object _ => "object"

/-- Whether a value counts as true: not null, not zero, not empty. -/
def isTruthy : Json → Bool
  | null => false
  | bool b => b
  | number n =>
    match n.toDouble with
    | .finite x => !x.isZero
    | _ => true
  | string s => !s.isEmpty
  | array elements => !elements.isEmpty
  | object members => !members.isEmpty

/-! ## Looking up what was put -/

theorem lookup_insertMember_self (key : String) (value : Json) (members : List (String × Json)) :
    (insertMember key value members).lookup key = some value := by
  induction members with
  | nil => simp [insertMember]
  | cons m members ih =>
    obtain ⟨k, v⟩ := m
    unfold insertMember
    split
    · simp
    · split
      · simp
      · rename_i h
        rw [List.lookup_cons, beq_eq_false_iff_ne.2 h]
        exact ih

end Json

end SchemaSql
