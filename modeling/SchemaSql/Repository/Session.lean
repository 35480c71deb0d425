import SchemaSql.Repository.Log
import SchemaSql.Wire.Row

/-!
# Sessions

An operation talks to a client that executes statements, and to a log. A session keeps both in one
sequence of steps, so that what was asked, what was logged and in which order can be told from
its outcome.
-/

namespace SchemaSql

/-- A statement as it is handed to a client. -/
structure Request where
  sql : String
  params : List Param
deriving DecidableEq

/-- What executes statements: one answer in rows, and one in a count of rows. -/
structure Client where
  rows : Request → Except Error (List Wire.Row)
  count : Request → Except Error Nat

inductive Step where
  | logged (event : LogEvent)
  | asked (request : Request)
deriving DecidableEq

/-- A computation with a client: the steps that it took, and its result. -/
def Session (α : Type) : Type :=
  Client → List Step × Except Error α

namespace Session

variable {α β : Type}

def run (s : Session α) (client : Client) : List Step × Except Error α :=
  s client

protected def pure (a : α) : Session α :=
  fun _ ↦ ([], .ok a)

protected def bind (s : Session α) (f : α → Session β) : Session β :=
  fun client ↦
    match s client with
    | (steps, .error e) => (steps, .error e)
    | (steps, .ok a) =>
      let (further, result) := f a client
      (steps ++ further, result)

instance : Monad Session where
  pure := Session.pure
  bind := Session.bind

/-- A result that takes no step. -/
def ofExcept (result : Except Error α) : Session α :=
  fun _ ↦ ([], result)

def log (events : List LogEvent) : Session Unit :=
  fun _ ↦ (events.map Step.logged, .ok ())

def rows (request : Request) : Session (List Wire.Row) :=
  fun client ↦ ([.asked request], client.rows request)

def count (request : Request) : Session Nat :=
  fun client ↦ ([.asked request], client.count request)

/-- Puts another error in place of one, and logs what it found out. -/
def explaining (explain : Error → List LogEvent × Error) (s : Session α) : Session α :=
  fun client ↦
    match s client with
    | (steps, .ok a) => (steps, .ok a)
    | (steps, .error e) =>
      let (events, e) := explain e
      (steps ++ events.map Step.logged, .error e)

/-- The first row of an answer, which has to have one. -/
def single (request : Request) : Session Wire.Row := do
  match ← rows request with
  | row :: _ => return row
  | [] => ofExcept (.error (.notFound .single))

end Session

namespace Statement

def request (s : Statement) : Request :=
  ⟨s.sql, s.params⟩

def fetchAll (s : Statement) : Session (List Wire.Row) := do
  Session.ofExcept s.validate
  Session.rows s.request

def fetchFirst (s : Statement) : Session (Option Wire.Row) := do
  let rows ← s.fetchAll
  return rows.head?

/-- The number of rows that the statement affects. -/
def execute (s : Statement) : Session Nat := do
  Session.ofExcept s.validate
  Session.count s.request

end Statement

end SchemaSql
