import Mathlib.Data.List.Basic
import SchemaSql.Row.Cursor

/-!
# Cursors in any order of use

A cursor may be registered to, loaded and read in any order. What a name stands for is then decided
by two things in the history of its use: the slice that was registered first under the name, and the
row that was loaded last with success. Slices that were there before any row was loaded fit into
every row that is loaded afterwards. A slice that is registered behind a loaded row may reach past
it, as nothing but loading holds rows against slices, and to read it stops the program.
-/

namespace SchemaSql.Cursor

/-! ## Uses -/

inductive Use where
  | register (name : String) (count : Nat)
  | load (row : List Json)
  | values (name : String)
  | value (name : String)

/-- The cursor after a use. A row that is refused leaves it as it is, and so does reading. -/
def after (c : Cursor) : Use → Cursor
  | .register name count => c.register name count
  | .load row =>
    match c.load row with
    | .ok loaded => loaded
    | .error _ => c
  | .values _ => c
  | .value _ => c

def afterUses (uses : List Use) : Cursor :=
  uses.foldl after {}

/-! ## Histories -/

namespace Use

/-- The number of columns that a use adds. -/
def columns : Use → Nat
  | register _ count => count
  | _ => 0

/-- The slice that a use registers, where `width` columns are there already. -/
def registered (width : Nat) : Use → List (String × Slice)
  | register name count => [(name, ⟨width, count⟩)]
  | _ => []

/-- The row that is loaded after a use: another one only if it covers the columns there are. -/
def rowAfter (width : Nat) (row : Option (List Json)) : Use → Option (List Json)
  | load next => if width ≤ next.length then some next else row
  | _ => row

def columnsOf : List Use → Nat
  | [] => 0
  | use :: uses => use.columns + columnsOf uses

/-- The slices that uses register, back to back from `width` on. -/
def slicesFrom : Nat → List Use → List (String × Slice)
  | _, [] => []
  | width, use :: uses => use.registered width ++ slicesFrom (width + use.columns) uses

def rowFrom : Nat → Option (List Json) → List Use → Option (List Json)
  | _, row, [] => row
  | width, row, use :: uses => rowFrom (width + use.columns) (use.rowAfter width row) uses

end Use

def firstSlice? (uses : List Use) (name : String) : Option Slice :=
  (Use.slicesFrom 0 uses).lookup name

/-- The row that was loaded last with success. -/
def lastRow? (uses : List Use) : Option (List Json) :=
  Use.rowFrom 0 none uses

/-- The slice of a name lies within the loaded row, if there are both. -/
def Fits (uses : List Use) (name : String) : Prop :=
  ∀ row slice, lastRow? uses = some row → firstSlice? uses name = some slice →
    slice.start + slice.count ≤ row.length

/-! ## State after uses -/

/-- A use adds its slice and its columns, and replaces the row by its own if that is wide enough. -/
theorem after_eq (c : Cursor) (use : Use) :
    (c.after use).slices = c.slices ++ use.registered c.width ∧
      (c.after use).width = c.width + use.columns ∧
      (c.after use).row = use.rowAfter c.width c.row := by
  cases use with
  | register name count => exact ⟨rfl, rfl, rfl⟩
  | load row =>
    by_cases hwide : c.width ≤ row.length
    · have hload : c.load row = .ok { c with row := some row } := if_neg (Nat.not_lt.2 hwide)
      rw [after, hload]
      exact ⟨(List.append_nil c.slices).symm, rfl, (if_pos hwide).symm⟩
    · have hload : c.load row = .error (.hydration (.shortRow row.length c.width)) :=
        if_pos (Nat.lt_of_not_le hwide)
      rw [after, hload]
      exact ⟨(List.append_nil c.slices).symm, rfl, (if_neg hwide).symm⟩
  | values name => exact ⟨(List.append_nil c.slices).symm, rfl, rfl⟩
  | value name => exact ⟨(List.append_nil c.slices).symm, rfl, rfl⟩

theorem foldl_after_eq (c : Cursor) (uses : List Use) :
    (uses.foldl after c).slices = c.slices ++ Use.slicesFrom c.width uses ∧
      (uses.foldl after c).width = c.width + Use.columnsOf uses ∧
      (uses.foldl after c).row = Use.rowFrom c.width c.row uses := by
  induction uses generalizing c with
  | nil => exact ⟨(List.append_nil c.slices).symm, rfl, rfl⟩
  | cons use uses ih =>
    obtain ⟨hslices, hwidth, hrow⟩ := c.after_eq use
    obtain ⟨ihslices, ihwidth, ihrow⟩ := ih (c.after use)
    refine ⟨?_, ?_, ?_⟩
    · rw [List.foldl_cons, ihslices, hslices, hwidth, List.append_assoc, Use.slicesFrom]
    · rw [List.foldl_cons, ihwidth, hwidth, Nat.add_assoc, Use.columnsOf]
    · rw [List.foldl_cons, ihrow, hwidth, hrow, Use.rowFrom]

theorem slices_afterUses (uses : List Use) : (afterUses uses).slices = Use.slicesFrom 0 uses :=
  (foldl_after_eq {} uses).1

theorem width_afterUses (uses : List Use) : (afterUses uses).width = Use.columnsOf uses :=
  (foldl_after_eq {} uses).2.1.trans (Nat.zero_add _)

theorem row_afterUses (uses : List Use) : (afterUses uses).row = lastRow? uses :=
  (foldl_after_eq {} uses).2.2

theorem slice?_afterUses (uses : List Use) (name : String) :
    (afterUses uses).slice? name = firstSlice? uses name := by
  rw [slice?, slices_afterUses, firstSlice?]

/-! ## Bounds -/

namespace Use

/-- Every slice ends within the columns that are there after all uses. -/
theorem stop_le_of_mem {width : Nat} {uses : List Use} {named : String × Slice}
    (h : named ∈ slicesFrom width uses) :
    named.2.start + named.2.count ≤ width + columnsOf uses := by
  induction uses generalizing width with
  | nil => cases h
  | cons use uses ih =>
    rw [columnsOf, ← Nat.add_assoc]
    rcases List.mem_append.1 h with hhere | hrest
    · cases use with
      | register name count =>
        rw [List.mem_singleton.1 hhere]
        exact Nat.le_add_right _ _
      | load row => cases hhere
      | values name => cases hhere
      | value name => cases hhere
    · exact ih hrest

/-- A row that comes to be loaded covers the columns that were there before. -/
theorem le_length_of_rowFrom {least width : Nat} {start : Option (List Json)} {uses : List Use}
    {row : List Json} (hstart : ∀ r, start = some r → least ≤ r.length) (hleast : least ≤ width)
    (h : rowFrom width start uses = some row) : least ≤ row.length := by
  induction uses generalizing width start with
  | nil => exact hstart row h
  | cons use uses ih =>
    -- The width never shrinks, so that a row that is loaded later is held against no less.
    refine ih ?_ (Nat.le_trans hleast (Nat.le_add_right _ _)) h
    intro r hr
    cases use with
    | load next =>
      rw [rowAfter] at hr
      split at hr
      · rename_i hwide
        obtain rfl := Option.some.inj hr
        exact Nat.le_trans hleast hwide
      · exact hstart r hr
    | register name count => exact hstart r hr
    | values name => exact hstart r hr
    | value name => exact hstart r hr

theorem slicesFrom_append (width : Nat) (uses later : List Use) :
    slicesFrom width (uses ++ later) =
      slicesFrom width uses ++ slicesFrom (width + columnsOf uses) later := by
  induction uses generalizing width with
  | nil => rfl
  | cons use uses ih =>
    rw [List.cons_append, slicesFrom, slicesFrom, ih, List.append_assoc, columnsOf, Nat.add_assoc]

theorem rowFrom_append (width : Nat) (row : Option (List Json)) (uses later : List Use) :
    rowFrom width row (uses ++ later) =
      rowFrom (width + columnsOf uses) (rowFrom width row uses) later := by
  induction uses generalizing width row with
  | nil => rfl
  | cons use uses ih =>
    rw [List.cons_append, rowFrom, rowFrom, ih, columnsOf, Nat.add_assoc]

end Use

theorem stop_le_of_firstSlice? {uses : List Use} {name : String} {slice : Slice}
    (h : firstSlice? uses name = some slice) :
    slice.start + slice.count ≤ Use.columnsOf uses := by
  obtain ⟨before, after, hslices, _⟩ := List.lookup_eq_some_iff.1 h
  have hmem : (name, slice) ∈ Use.slicesFrom 0 uses := by
    rw [hslices]
    exact List.mem_append_right before List.mem_cons_self
  simpa using Use.stop_le_of_mem hmem

/-- A name that is registered before any row was loaded stands for a slice within every row that is
loaded later on. -/
theorem fits_of_registered {uses : List Use} (hunloaded : lastRow? uses = none) (name : String)
    (count : Nat) (later : List Use) : Fits (uses ++ .register name count :: later) name := by
  rw [List.append_cons]
  have hunloaded : lastRow? (uses ++ [.register name count]) = none := by
    rw [lastRow?, Use.rowFrom_append]
    exact hunloaded
  obtain ⟨slice, hfirst⟩ :
      ∃ slice, firstSlice? (uses ++ [.register name count]) name = some slice := by
    rw [firstSlice?, Use.slicesFrom_append, List.lookup_append, ← Option.isSome_iff_exists,
      Option.isSome_or]
    simp [Use.slicesFrom, Use.registered]
  generalize uses ++ [.register name count] = uses at hunloaded hfirst
  intro row found hrow hfound
  have hsame : found = slice := by
    rw [firstSlice?] at hfirst
    rw [firstSlice?, Use.slicesFrom_append, List.lookup_append, hfirst] at hfound
    exact (Option.some.inj hfound).symm
  have hcovers : Use.columnsOf uses ≤ row.length := by
    rw [lastRow?] at hunloaded
    rw [lastRow?, Use.rowFrom_append, Nat.zero_add, hunloaded] at hrow
    exact Use.le_length_of_rowFrom (by simp) (Nat.le_refl _) hrow
  rw [hsame]
  exact Nat.le_trans (stop_le_of_firstSlice? hfirst) hcovers

/-- Right after a row was loaded every slice lies within it. -/
theorem fits_load {uses : List Use} {row : List Json} (hwide : Use.columnsOf uses ≤ row.length)
    (name : String) : Fits (uses ++ [.load row]) name := by
  intro found slice hfound hslice
  have hloaded : lastRow? (uses ++ [.load row]) = some row := by
    rw [lastRow?, Use.rowFrom_append, Nat.zero_add]
    exact if_pos hwide
  have hfirst : firstSlice? uses name = some slice := by
    rw [← hslice, firstSlice?, firstSlice?, Use.slicesFrom_append]
    exact congrArg _ (List.append_nil _).symm
  obtain rfl := Option.some.inj (hloaded.symm.trans hfound)
  exact Nat.le_trans (stop_le_of_firstSlice? hfirst) hwide

/-! ## Readings -/

/-- A reading that stays within the loaded row: it is refused if there is no row or no slice, and
otherwise gives the values of the slice. -/
inductive ReadsWithin (uses : List Use) (name : String) : Except Error (List Json) → Prop where
  | noRow (unloaded : lastRow? uses = none) : ReadsWithin uses name (.error (.hydration .noRow))
  | unknown (unregistered : firstSlice? uses name = none) :
    ReadsWithin uses name (.error (.hydration (.unknownSlice name)))
  | read {row slice} (loaded : lastRow? uses = some row)
      (registered : firstSlice? uses name = some slice)
      (within : slice.start + slice.count ≤ row.length) :
      ReadsWithin uses name (.ok ((row.drop slice.start).take slice.count))

/-- The reading of a first value: it is refused as that of all values is, and if there are none. -/
inductive ReadsFirst (uses : List Use) (name : String) : Except Error Json → Prop where
  | refused {fault} (refusal : ReadsWithin uses name (.error fault)) :
    ReadsFirst uses name (.error fault)
  | empty (reading : ReadsWithin uses name (.ok [])) :
    ReadsFirst uses name (.error (.hydration (.emptySlice name)))
  | read {v vs} (reading : ReadsWithin uses name (.ok (v :: vs))) : ReadsFirst uses name (.ok v)

/-- A slice that does not fit is not read: the program stops. -/
theorem values_of_not_fits {uses : List Use} {name : String} (h : ¬ Fits uses name) :
    ∃ stop, (afterUses uses).values name = .error (.stopped stop) := by
  simp only [Fits, not_forall] at h
  obtain ⟨row, slice, hrow, hslice, hpast⟩ := h
  refine ⟨.pastRow (slice.start + slice.count) row.length, ?_⟩
  rw [values, row_afterUses, slice?_afterUses, hrow, hslice]
  exact if_neg hpast

theorem readsWithin_of_fits {uses : List Use} {name : String} (h : Fits uses name) :
    ReadsWithin uses name ((afterUses uses).values name) := by
  rw [values, row_afterUses, slice?_afterUses]
  cases hrow : lastRow? uses with
  | none => exact .noRow hrow
  | some row =>
    cases hslice : firstSlice? uses name with
    | none => exact .unknown hslice
    | some slice =>
      have hwithin := h row slice hrow hslice
      dsimp only
      rw [if_pos hwithin]
      exact .read hrow hslice hwithin

theorem ReadsWithin.ne_stopped {uses : List Use} {name : String} {stop : Stop} :
    ¬ ReadsWithin uses name (.error (.stopped stop)) :=
  nofun

/-- Reading stays within the loaded row exactly if the slice does. -/
theorem readsWithin_iff (uses : List Use) (name : String) :
    ReadsWithin uses name ((afterUses uses).values name) ↔ Fits uses name := by
  constructor
  · intro hreads
    by_contra hpast
    obtain ⟨stop, hstop⟩ := values_of_not_fits hpast
    rw [hstop] at hreads
    exact hreads.ne_stopped
  · exact readsWithin_of_fits

theorem readsFirst_of_fits {uses : List Use} {name : String} (h : Fits uses name) :
    ReadsFirst uses name ((afterUses uses).value name) := by
  have hreads := readsWithin_of_fits h
  rw [value]
  cases hvalues : (afterUses uses).values name with
  | error fault => exact .refused (hvalues ▸ hreads)
  | ok vs =>
    cases vs with
    | nil => exact .empty (hvalues ▸ hreads)
    | cons v vs => exact .read (hvalues ▸ hreads)

theorem ReadsFirst.ne_stopped {uses : List Use} {name : String} {stop : Stop} :
    ¬ ReadsFirst uses name (.error (.stopped stop))
  | .refused refusal => refusal.ne_stopped

/-- The first value is read from within the loaded row exactly if the slice lies within it. -/
theorem readsFirst_iff (uses : List Use) (name : String) :
    ReadsFirst uses name ((afterUses uses).value name) ↔ Fits uses name := by
  constructor
  · intro hreads
    by_contra hpast
    obtain ⟨stop, hstop⟩ := values_of_not_fits hpast
    rw [value, hstop] at hreads
    exact hreads.ne_stopped
  · exact readsFirst_of_fits

end SchemaSql.Cursor
