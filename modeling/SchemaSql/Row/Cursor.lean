import SchemaSql.Error
import SchemaSql.Json.Basic

/-!
# Cursors over rows

A cursor divides rows of values into named slices that lie one after another. A row that is at
least as wide as all of them can be loaded and read slice by slice. Only loading compares a row with
the slices: one that is registered behind a loaded row cannot be read, and trying to stops the
program.
-/

namespace SchemaSql

/-- Where a slice begins in a row, and how many values it has. -/
structure Slice where
  start : Nat
  count : Nat
deriving DecidableEq

structure Cursor where
  slices : List (String × Slice) := []
  /-- The number of values of all slices. -/
  width : Nat := 0
  /-- The row that was loaded last. -/
  row : Option (List Json) := none

namespace Cursor

def register (c : Cursor) (name : String) (count : Nat) : Cursor :=
  { c with slices := c.slices ++ [(name, ⟨c.width, count⟩)], width := c.width + count }

/-- The slice of a name, the first one if there are more. -/
def slice? (c : Cursor) (name : String) : Option Slice :=
  c.slices.lookup name

def load (c : Cursor) (row : List Json) : Except Error Cursor :=
  if row.length < c.width then .error (.hydration (.shortRow row.length c.width))
  else .ok { c with row := some row }

def values (c : Cursor) (name : String) : Except Error (List Json) :=
  match c.row, c.slice? name with
  | none, _ => .error (.hydration .noRow)
  | some _, none => .error (.hydration (.unknownSlice name))
  | some row, some slice =>
    if slice.start + slice.count ≤ row.length then .ok ((row.drop slice.start).take slice.count)
    else .error (.stopped (.pastRow (slice.start + slice.count) row.length))

def value (c : Cursor) (name : String) : Except Error Json := do
  match ← c.values name with
  | v :: _ => return v
  | [] => .error (.hydration (.emptySlice name))

end Cursor

end SchemaSql
