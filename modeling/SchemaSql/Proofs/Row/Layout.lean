import Mathlib.Data.List.Basic
import SchemaSql.Row.Cursor

/-!
# The layout of a cursor

A row is laid out in stretches of columns, each under a name. A cursor to which they are registered
one after another has a slice for each stretch, which begins where the one before it ends, so that
every slice covers the columns of its own stretch and nothing else.
-/

namespace SchemaSql

/-- Columns of a row that belong together, under a name. -/
structure Stretch where
  name : String
  columns : List String

namespace Stretch

/-- The slices of stretches from `start` on, each where the one before it ends. -/
def slicesFrom : Nat → List Stretch → List (String × Slice)
  | _, [] => []
  | start, g :: gs =>
    (g.name, ⟨start, g.columns.length⟩) :: slicesFrom (start + g.columns.length) gs

def columnsOf (gs : List Stretch) : List String :=
  gs.flatMap columns

theorem columnsOf_append (gs hs : List Stretch) :
    columnsOf (gs ++ hs) = columnsOf gs ++ columnsOf hs :=
  List.flatMap_append

theorem slicesFrom_append (start : Nat) (gs hs : List Stretch) :
    slicesFrom start (gs ++ hs) =
      slicesFrom start gs ++ slicesFrom (start + (columnsOf gs).length) hs := by
  induction gs generalizing start with
  | nil => rfl
  | cons g gs ih =>
    calc
      slicesFrom start (g :: gs ++ hs) =
          (g.name, ⟨start, g.columns.length⟩) ::
            slicesFrom (start + g.columns.length) (gs ++ hs) := rfl
      _ = slicesFrom start (g :: gs) ++
            slicesFrom (start + g.columns.length + (columnsOf gs).length) hs := by
        rw [ih, slicesFrom, List.cons_append]
      _ = slicesFrom start (g :: gs) ++
            slicesFrom (start + (columnsOf (g :: gs)).length) hs := by
        rw [Nat.add_assoc, columnsOf, columnsOf, List.flatMap_cons, List.length_append]

/-- Each slice covers the columns of its own stretch. -/
theorem slicesFrom_covers {gs : List Stretch} {g : Stretch} {i : Nat} (before : List String)
    (h : gs[i]? = some g) :
    ∃ slice, (slicesFrom before.length gs)[i]? = some (g.name, slice) ∧
      ((before ++ columnsOf gs).drop slice.start).take slice.count = g.columns := by
  induction gs generalizing before i with
  | nil => simp at h
  | cons first gs ih =>
    cases i with
    | zero =>
      obtain rfl := Option.some.inj h
      refine ⟨⟨before.length, first.columns.length⟩, rfl, ?_⟩
      simp [columnsOf]
    | succ i =>
      obtain ⟨slice, hslice, hcovers⟩ := ih (before ++ first.columns) h
      refine ⟨slice, ?_, ?_⟩
      · rw [slicesFrom, List.getElem?_cons_succ, ← List.length_append]
        exact hslice
      · rw [columnsOf, List.flatMap_cons, ← List.append_assoc]
        exact hcovers

/-- The columns of a stretch begin after all those before it. -/
theorem take_drop_columnsOf (before after : List Stretch) (g : Stretch) :
    ((columnsOf (before ++ g :: after)).drop (columnsOf before).length).take g.columns.length =
      g.columns := by
  rw [columnsOf_append, List.drop_left, columnsOf, List.flatMap_cons, List.take_left]

/-- A stretch whose name none before it has is found under its name. -/
theorem lookup_slicesFrom {start : Nat} {before after : List Stretch} {g : Stretch}
    (h : g.name ∉ before.map name) :
    (slicesFrom start (before ++ g :: after)).lookup g.name =
      some ⟨start + (columnsOf before).length, g.columns.length⟩ := by
  induction before generalizing start with
  | nil => simp [slicesFrom, columnsOf]
  | cons first before ih =>
    have hne : g.name ≠ first.name := fun heq ↦ h (by simp [heq])
    have hrest : g.name ∉ before.map name := fun hmem ↦ h (List.mem_cons_of_mem _ hmem)
    calc
      (slicesFrom start (first :: before ++ g :: after)).lookup g.name =
          (slicesFrom (start + first.columns.length) (before ++ g :: after)).lookup g.name := by
        rw [List.cons_append, slicesFrom, List.lookup_cons, beq_eq_false_iff_ne.2 hne]
      _ = some ⟨start + first.columns.length + (columnsOf before).length, g.columns.length⟩ :=
        ih hrest
      _ = some ⟨start + (columnsOf (first :: before)).length, g.columns.length⟩ := by
        rw [Nat.add_assoc, columnsOf, columnsOf, List.flatMap_cons, List.length_append]

/-- No slice reaches past the columns of all stretches. -/
theorem stop_le_of_mem_slicesFrom {start : Nat} {gs : List Stretch} {named : String × Slice}
    (h : named ∈ slicesFrom start gs) :
    named.2.start + named.2.count ≤ start + (columnsOf gs).length := by
  induction gs generalizing start with
  | nil => cases h
  | cons g gs ih =>
    rw [columnsOf, List.flatMap_cons, List.length_append, ← Nat.add_assoc]
    rcases List.mem_cons.1 h with hsame | hmem
    · rw [hsame]
      exact Nat.le_add_right _ _
    · exact ih hmem

end Stretch

namespace Cursor

/-- The cursor has a slice for each stretch, back to back from the first column on, and is as wide
as all of them. -/
structure LaysOut (c : Cursor) (gs : List Stretch) : Prop where
  slices_eq : c.slices = Stretch.slicesFrom 0 gs
  width_eq : c.width = (Stretch.columnsOf gs).length

namespace LaysOut

variable {c : Cursor} {gs : List Stretch}

theorem register (h : c.LaysOut gs) (name : String) (columns : List String) :
    (c.register name columns.length).LaysOut (gs ++ [⟨name, columns⟩]) where
  slices_eq := by
    rw [Stretch.slicesFrom_append, Nat.zero_add, ← h.width_eq, ← h.slices_eq]
    rfl
  width_eq := by
    rw [Stretch.columnsOf_append, List.length_append, ← h.width_eq]
    simp [Cursor.register, Stretch.columnsOf]

theorem slice?_eq {before after : List Stretch} {g : Stretch}
    (h : c.LaysOut (before ++ g :: after)) (hname : g.name ∉ before.map Stretch.name) :
    c.slice? g.name = some ⟨(Stretch.columnsOf before).length, g.columns.length⟩ := by
  rw [Cursor.slice?, h.slices_eq, Stretch.lookup_slicesFrom hname, Nat.zero_add]

theorem stop_le (h : c.LaysOut gs) {name : String} {slice : Slice}
    (hslice : c.slice? name = some slice) : slice.start + slice.count ≤ c.width := by
  obtain ⟨before, after, hslices, _⟩ := List.lookup_eq_some_iff.1 hslice
  have hmem : (name, slice) ∈ Stretch.slicesFrom 0 gs := by
    rw [← h.slices_eq, hslices]
    exact List.mem_append_right before List.mem_cons_self
  have hstop := Stretch.stop_le_of_mem_slicesFrom hmem
  rwa [Nat.zero_add, ← h.width_eq] at hstop

/-- Loading a row leaves the layout as it is. -/
theorem load (h : c.LaysOut gs) {row : List Json} {loaded : Cursor}
    (hload : c.load row = .ok loaded) :
    loaded.LaysOut gs ∧ loaded.row = some row ∧ c.width ≤ row.length := by
  unfold Cursor.load at hload
  split at hload
  · cases hload
  · rename_i hwide
    obtain rfl := Except.ok.inj hload
    exact ⟨⟨h.slices_eq, h.width_eq⟩, rfl, Nat.le_of_not_lt hwide⟩

end LaysOut

theorem values_eq_ok {c : Cursor} {row : List Json} {name : String} {slice : Slice}
    (hrow : c.row = some row) (hslice : c.slice? name = some slice)
    (hwithin : slice.start + slice.count ≤ row.length) :
    c.values name = .ok ((row.drop slice.start).take slice.count) := by
  rw [values, hrow, hslice]
  exact if_pos hwithin

end Cursor

end SchemaSql
