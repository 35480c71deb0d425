import SchemaSql.Repository.Session

/-!
# Servers

A server is asked in two rounds. First it takes the text of a statement and tells the types of its
parameters and columns; then it takes the bytes of the parameters and answers. A client of a
server binds the parameters in between.
-/

namespace SchemaSql

open Wire

/-! ## What a server says -/

/-- The refusal of a statement: a code, a text, and perhaps the constraint that it violates. -/
structure Refusal where
  code : String
  text : String
  constraint : Option String := none
deriving DecidableEq

namespace Refusal

def unknownConstraint : String := "unknown"

/-- A refusal as an error; violations of constraints have errors of their own. -/
def toError (r : Refusal) : Error :=
  let constraint := r.constraint.getD unknownConstraint
  if r.code = "23505" then .uniqueViolation constraint r.text
  else if r.code = "23503" then .foreignKeyViolation (constraint ++ ": " ++ r.text)
  else if r.code = "23514" then .checkViolation (constraint ++ ": " ++ r.text)
  else .query (.refused r.code r.text)

end Refusal

/-- What a server tells about a statement: how many parameters it has, the type of the one at a
position, and the columns of its rows. -/
structure Description where
  paramCount : Nat
  paramType : Nat → WireType
  columns : List Column

/-- What a server answers: the cells of rows, and how many rows were affected. -/
structure Answer where
  rows : List (List (Option Bytes)) := []
  affected : Nat := 0

structure Server where
  describe : String → Except Refusal Description
  execute : String → List (Option Bytes) → Except Refusal Answer

/-! ## Asking a server -/

/-- What reached a server: the text of a statement, and the bytes of its parameters. -/
structure Exchange where
  sql : Option String := none
  bound : Option (List (Option Bytes)) := none
deriving DecidableEq

def bindParams (paramType : Nat → WireType) :
    Nat → List Param → Except QueryFault (List (Option Bytes))
  | _, [] => .ok []
  | position, p :: ps => do
    let b ← (encode (paramType position) p).mapError (.unbound position)
    let bs ← bindParams paramType (position + 1) ps
    return b :: bs

namespace Server

/-- Has a statement executed. What reached the server is told whether it succeeds or not. A text
with a zero byte cannot be sent. -/
def ask (server : Server) (request : Request) :
    Exchange × Except Error (List Column × Answer) :=
  if request.sql.toList.contains '\x00' then ({}, .error (.query (.unsendable .zeroByte)))
  else
    let sent : Exchange := { sql := some request.sql }
    match server.describe request.sql with
    | .error refusal => (sent, .error refusal.toError)
    | .ok description =>
      if description.paramCount ≠ request.params.length then
        (sent, .error (.query (.paramCount description.paramCount request.params.length)))
      else
        match bindParams description.paramType 0 request.params with
        | .error fault => (sent, .error (.query fault))
        | .ok bound =>
          let sent := { sent with bound := some bound }
          match server.execute request.sql bound with
          | .error refusal => (sent, .error refusal.toError)
          | .ok answer => (sent, .ok (description.columns, answer))

/-- The client of a server. -/
def client (server : Server) : Client where
  rows request := do
    let (columns, answer) ← (server.ask request).2
    return answer.rows.map fun cells ↦ ⟨columns, cells⟩
  count request := do
    let (_, answer) ← (server.ask request).2
    return answer.affected

end Server

/-! ## Servers that follow a script -/

/-- The greatest number of a slot in a text, outside of quotes. -/
def greatestSlot : Option Char → List Char → Nat
  | _, [] => 0
  | none, '$' :: cs =>
    max (Nat.ofDigitChars 10 (cs.takeWhile Char.isDigit) 0) (greatestSlot none cs)
  | none, c :: cs => greatestSlot (if c = '"' || c = '\x27' then some c else none) cs
  | some quote, c :: cs => greatestSlot (if c = quote then none else some quote) cs

/-- What a server is to say, whatever statement it gets. -/
structure Script where
  /-- The types of the first parameters; all others are texts. -/
  params : List WireType := []
  columns : List Column := []
  answer : Answer := {}
  refusal : Option Refusal := none
  /-- Whether the refusal comes in the first round. -/
  refusedAtOnce : Bool := false

namespace Script

def paramType (s : Script) (position : Nat) : WireType :=
  s.params[position]?.getD (.scalar .text)

def server (s : Script) : Server where
  describe sql :=
    match s.refusal, s.refusedAtOnce with
    | some refusal, true => .error refusal
    | _, _ => .ok ⟨greatestSlot none sql.toList, s.paramType, s.columns⟩
  execute _ _ :=
    match s.refusal with
    | some refusal => .error refusal
    | none => .ok s.answer

end Script

end SchemaSql
