import SchemaSql.Sql.Statement

/-!
# The statement log

What is logged about statements, and how long their texts may be. A text is cut between two
characters, never within one.
-/

namespace SchemaSql

inductive LogLevel where
  | trace
  | debug
  | info
  | warn
  | error
deriving DecidableEq

namespace LogLevel

def name : LogLevel → String
  | trace => "TRACE"
  | debug => "DEBUG"
  | info => "INFO"
  | warn => "WARN"
  | error => "ERROR"

end LogLevel

inductive LogEvent where
  /-- A statement that is about to be executed. -/
  | statement (level : LogLevel) (tag : String) (paramCount : Nat) (sql : String)
  /-- A violated constraint that was traced to the field that it guards. -/
  | uniqueViolation (table constraint field : String)
deriving DecidableEq

namespace LogEvent

def level : LogEvent → LogLevel
  | statement level _ _ _ => level
  | uniqueViolation _ _ _ => .debug

def violationMessage : String := "unique constraint violated"

end LogEvent

structure LogConfig where
  enabled : Bool := true
  level : LogLevel := .debug
  /-- The greatest length of a text in bytes of UTF-8. -/
  greatestLength : Option Nat := some 500
deriving DecidableEq

namespace LogConfig

/-- The last place between two characters of a text with at most so many bytes before it. The bytes
are walked back one by one until they end where a character does; the start of the text is such a
place. -/
def boundaryBefore (sql : String) : Nat → sql.Pos
  | 0 => sql.startPos
  | bytes + 1 =>
    if h : (String.Pos.Raw.mk (bytes + 1)).IsValid sql then ⟨⟨bytes + 1⟩, h⟩
    else boundaryBefore sql bytes

/-- The text up to so many bytes, without the character that they would end within. -/
def cutBytes (sql : String) (bytes : Nat) : String :=
  if sql.utf8ByteSize ≤ bytes then sql else (sql.sliceTo (boundaryBefore sql bytes)).copy

def ellipsis : String := "..."

def truncate (c : LogConfig) (sql : String) : String :=
  match c.greatestLength with
  | none => sql
  | some bytes => if bytes < sql.utf8ByteSize then cutBytes sql bytes ++ ellipsis else sql

def noTag : String := "-"

def events (c : LogConfig) (s : Statement) : List LogEvent :=
  if c.enabled then
    [.statement c.level (s.tag.getD noTag) s.params.length (c.truncate s.sql)]
  else []

end LogConfig

end SchemaSql
