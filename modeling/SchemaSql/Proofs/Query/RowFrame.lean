import SchemaSql.Proofs.Query.PlanUse
import SchemaSql.Proofs.Query.ReservedSlots

/-!
# What a plan keeps between rows

The only thing that reading a row changes in a plan is the row itself. How the next row is read does
not depend on it: two plans with the same tables, expressions and slices read every row alike,
whatever rows they hold. A row that is too short changes nothing at all. An expression that is
reserved behind the tables does not change what the tables are read as.
-/

namespace SchemaSql

/-! ## Cursors with one layout -/

namespace Cursor

def unloaded (c : Cursor) : Cursor :=
  { c with row := none }

/-- A cursor that loads a row forgets the one before. -/
theorem load_eq_of_unloaded {c d : Cursor} (h : c.unloaded = d.unloaded) (row : List Json) :
    c.load row = d.load row := by
  obtain ⟨slices, width, held⟩ := c
  obtain ⟨slices', width', held'⟩ := d
  obtain ⟨rfl, rfl, -⟩ := Cursor.mk.inj h
  rfl

theorem unloaded_of_load {c loaded : Cursor} {row : List Json} (h : c.load row = .ok loaded) :
    loaded.unloaded = c.unloaded := by
  unfold load at h
  split at h
  · cases h
  · obtain rfl := Except.ok.inj h
    rfl

/-- What a name stood for before a further slice was registered it stands for afterwards. -/
theorem slice?_register {c : Cursor} {name : String} {slice : Slice}
    (h : c.slice? name = some slice) (other : String) (count : Nat) :
    (c.register other count).slice? name = some slice := by
  rw [slice?, register, List.lookup_append, ← slice?, h]
  rfl

end Cursor

namespace JoinPlan

/-! ## Plans with one layout -/

def unloaded (p : JoinPlan) : JoinPlan :=
  { p with cursor := p.cursor.unloaded }

theorem unloaded_hydrate (p : JoinPlan) (row : List Json) :
    (p.hydrate row).1.unloaded = p.unloaded := by
  unfold hydrate
  split
  · rfl
  · rename_i loaded hload
    rw [unloaded, unloaded, Cursor.unloaded_of_load hload]

theorem unloaded_after (p : JoinPlan) (use : Use) :
    (p.after use).unloaded =
      match use with
      | .reserve name expression => p.unloaded.reserve name expression
      | _ => p.unloaded := by
  cases use with
  | reserve name expression => rfl
  | hydrate row => exact p.unloaded_hydrate row
  | reservedValue name => rfl

theorem width_eq_of_unloaded {p q : JoinPlan} (h : p.unloaded = q.unloaded) :
    p.width = q.width :=
  congrArg (fun plan ↦ plan.cursor.width) h

/-- Plans that differ at most in the row that they hold no longer differ once they load a row. -/
theorem hydrate_eq_of_wide {p q : JoinPlan} (h : p.unloaded = q.unloaded) {row : List Json}
    (hwide : p.width ≤ row.length) : p.hydrate row = q.hydrate row := by
  obtain ⟨schema, space, reserved, cursor⟩ := p
  obtain ⟨schema', space', reserved', cursor'⟩ := q
  obtain ⟨rfl, rfl, rfl, hcursor⟩ := JoinPlan.mk.inj h
  have hload : cursor.load row = .ok { cursor with row := some row } := if_neg (Nat.not_lt.2 hwide)
  have hload' : cursor'.load row = .ok { cursor with row := some row } :=
    (Cursor.load_eq_of_unloaded hcursor row).symm.trans hload
  rw [hydrate, hydrate, hload, hload']

/-- Plans that differ at most in the row that they hold read the next row alike. -/
theorem hydrate_snd_eq_of_unloaded {p q : JoinPlan} (h : p.unloaded = q.unloaded)
    (row : List Json) : (p.hydrate row).2 = (q.hydrate row).2 := by
  have hwidth := width_eq_of_unloaded h
  by_cases hwide : p.width ≤ row.length
  · rw [hydrate_eq_of_wide h hwide]
  · have hshort := Nat.lt_of_not_le hwide
    rw [hydrate_eq_of_short hshort, hydrate_eq_of_short (hwidth ▸ hshort), hwidth]

/-! ## Histories -/

def Use.reserves : Use → Bool
  | reserve _ _ => true
  | _ => false

/-- The plan of a schema with the expressions that some uses reserve, and no row read. -/
def fresh (s : Schema) (space : Option Identifier) (uses : List Use) : JoinPlan :=
  afterUses s space (uses.filter Use.reserves)

theorem unloaded_foldl_after {p q : JoinPlan} (h : p.unloaded = q.unloaded) (uses : List Use) :
    (uses.foldl after p).unloaded = ((uses.filter Use.reserves).foldl after q).unloaded := by
  induction uses generalizing p q with
  | nil => exact h
  | cons use uses ih =>
    cases use with
    | reserve name expression =>
      apply ih
      rw [unloaded_after, unloaded_after, h]
    | hydrate row => exact ih ((p.unloaded_hydrate row).trans h)
    | reservedValue name => exact ih h

/-- But for the row that it holds, a plan is what its reservations make it. -/
theorem unloaded_afterUses (s : Schema) (space : Option Identifier) (uses : List Use) :
    (afterUses s space uses).unloaded = (fresh s space uses).unloaded :=
  unloaded_foldl_after rfl uses

/-- Rows that are too short leave a plan as it is. -/
theorem foldl_after_short {p : JoinPlan} {rows : List (List Json)}
    (h : ∀ row ∈ rows, row.length < p.width) :
    (rows.map Use.hydrate).foldl after p = p := by
  induction rows with
  | nil => rfl
  | cons row rows ih =>
    obtain ⟨hrow, hrows⟩ := List.forall_mem_cons.1 h
    rw [List.map_cons, List.foldl_cons, after, hydrate_eq_of_short hrow]
    exact ih hrows

/-- After a row that is wide enough, and rows that are too short, a plan holds the wide one. -/
theorem afterUses_of_short (s : Schema) (space : Option Identifier) (uses : List Use)
    {held : List Json} (hwide : (afterUses s space uses).width ≤ held.length)
    {shorts : List (List Json)}
    (hshorts : ∀ row ∈ shorts, row.length < (afterUses s space uses).width) :
    afterUses s space (uses ++ .hydrate held :: shorts.map .hydrate) =
      ((fresh s space uses).hydrate held).1 := by
  have hwidth := width_eq_of_unloaded ((afterUses s space uses).unloaded_hydrate held)
  have hheld : afterUses s space (uses ++ .hydrate held :: shorts.map .hydrate) =
      ((afterUses s space uses).hydrate held).1 := by
    rw [afterUses, List.foldl_append, List.foldl_cons]
    exact foldl_after_short (hwidth ▸ hshorts)
  rw [hheld, hydrate_eq_of_wide (unloaded_afterUses s space uses) hwide]

/-! ## Expressions behind the tables -/

/-- The tables of a row are read from its slices, one after another. -/
theorem hydrateLoaded_congr {p q : JoinPlan} (hschema : p.schema = q.schema)
    (hroot : p.cursor.values rootSlice = q.cursor.values rootSlice)
    (hjoins : ∀ j ∈ p.schema.joins, p.cursor.values j.name = q.cursor.values j.name) :
    p.hydrateLoaded = q.hydrateLoaded := by
  have hmap : p.schema.joins.mapM (hydrateJoin p.cursor) =
      p.schema.joins.mapM (hydrateJoin q.cursor) := by
    apply Outcome.mapM_congr
    intro j hj
    rw [hydrateJoin, hydrateJoin, hjoins j hj]
  rw [hydrateLoaded, hydrateLoaded, hroot, hmap, hschema]

/-- A row that has a value for a further expression is read as without the expression. -/
theorem hydrate_reserve {p : JoinPlan} (hs : p.schema.Declared) (h : p.LaidOut) (name : String)
    {expression : String} (hgiven : expression ≠ "") {row : List Json}
    (hwide : (p.reserve name expression).width ≤ row.length) :
    ((p.reserve name expression).hydrate row).2 = (p.hydrate row).2 := by
  have hnarrow : p.cursor.width ≤ row.length := Nat.le_of_succ_le hwide
  have hload : p.cursor.load row = .ok { p.cursor with row := some row } :=
    if_neg (Nat.not_lt.2 hnarrow)
  have hloadFurther : (p.reserve name expression).cursor.load row =
      .ok { (p.reserve name expression).cursor with row := some row } :=
    if_neg (Nat.not_lt.2 hwide)
  -- Every slice of a table was there before, so that it is found where it was.
  have hvalues {table : String} {slice : Slice} (hslice : p.cursor.slice? table = some slice) :
      ({ (p.reserve name expression).cursor with row := some row } : Cursor).values table =
        ({ p.cursor with row := some row } : Cursor).values table := by
    rw [h.values_of_load hload hslice,
      (h.reserve name hgiven).values_of_load hloadFurther (Cursor.slice?_register hslice _ _)]
  rw [hydrate, hydrate, hload, hloadFurther]
  apply hydrateLoaded_congr
  · rfl
  · obtain ⟨slice, hslice, -⟩ := h.root_slice
    exact hvalues hslice
  · intro j hj
    obtain ⟨slice, hslice, -⟩ := h.join_slice hs hj
    exact hvalues hslice

end JoinPlan

end SchemaSql
