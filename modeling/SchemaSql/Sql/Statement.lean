import SchemaSql.Error
import SchemaSql.Sql.Clause

/-!
# Statements

A whole SQL statement in parts: texts that are taken as they are, and slots, which are numbered in
their order. Values are kept beside the parts; the statement holds together when there are as many
of them as slots.
-/

namespace SchemaSql

inductive StatementPart where
  | text (s : String)
  | slot
deriving DecidableEq

/-- A statement with the values of its slots and a tag for the log. -/
structure Statement where
  parts : List StatementPart := []
  params : List Param := []
  tag : Option String := none
deriving DecidableEq

namespace Statement

/-! ## Putting a statement together -/

def ofText (sql : String) : Statement :=
  { parts := [.text sql] }

def tagged (s : Statement) (tag : String) : Statement :=
  { s with tag := some tag }

/-- Adds text as it is. It continues a text that is the last part, and empty text adds no part. -/
def push (s : Statement) (sql : String) : Statement :=
  if sql.isEmpty then s
  else
    match s.parts.getLast? with
    | some (.text last) => { s with parts := s.parts.dropLast ++ [.text (last ++ sql)] }
    | _ => { s with parts := s.parts ++ [.text sql] }

/-- Adds a slot whose value is added apart from it. -/
def pushSlot (s : Statement) : Statement :=
  { s with parts := s.parts ++ [.slot] }

def bind (s : Statement) (value : Param) : Statement :=
  { s.pushSlot with params := s.params ++ [value] }

/-- Adds the pieces of a template that follow slots, each after its slot. -/
def pushPieces (s : Statement) : List (List Char) → Statement
  | [] => s
  | piece :: pieces => (s.pushSlot.push (.ofList piece)).pushPieces pieces

def pushTemplate (s : Statement) (template : String) (values : List Param) : Statement :=
  let (first, rest) := Template.pieces template.toList
  let s := (s.push (.ofList first)).pushPieces rest
  { s with params := s.params ++ values }

def pushClause (s : Statement) (c : Clause) : Statement :=
  s.pushTemplate c.template c.values

def pushClauseAs (s : Statement) (c : Clause) (pattern : String) : Statement :=
  s.pushTemplate (c.templateAs pattern) c.values

/-- Adds the fragments of a clause without its values. -/
def pushNames (s : Statement) (c : Clause) : Statement :=
  s.push (c.templateAs Template.identity)

def limit (s : Statement) (rows : Int) : Statement :=
  (s.push " LIMIT ").bind (.text (renderInteger rows))

def limitOffset (s : Statement) (rows skipped : Int) : Statement :=
  ((s.limit rows).push " OFFSET ").bind (.text (renderInteger skipped))

/-! ## The finished statement -/

def textFrom : Nat → List StatementPart → List Char
  | _, [] => []
  | n, .text s :: parts => s.toList ++ textFrom n parts
  | n, .slot :: parts => Template.numbered n ++ textFrom (n + 1) parts

def sql (s : Statement) : String :=
  .ofList (textFrom 1 s.parts)

def slotCount (s : Statement) : Nat :=
  s.parts.count .slot

/-- Refuses a statement whose slots and values do not match in number. -/
def validate (s : Statement) : Except Error Unit :=
  if s.slotCount = s.params.length then .ok ()
  else .error (.validation (.slotCount s.slotCount s.params.length))

end Statement

end SchemaSql
