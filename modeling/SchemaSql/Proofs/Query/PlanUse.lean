import SchemaSql.Proofs.Outcome
import SchemaSql.Proofs.Row.CursorUse
import SchemaSql.Proofs.Schema.Declared
import SchemaSql.Query.JoinPlan

/-!
# Plans in any order of use

Expressions may be reserved, rows hydrated and reserved values asked for in any order. All of it
comes down to uses of the cursor of the plan. Hydrating loads a row first and reads only afterwards,
so that it does not reach past the row, whatever was done before. To ask for the value of an
expression that was reserved behind a hydrated row is what can.
-/

namespace SchemaSql

namespace JoinPlan

/-! ## Uses -/

inductive Use where
  | reserve (name expression : String)
  | hydrate (row : List Json)
  | reservedValue (name : String)

def after (p : JoinPlan) : Use → JoinPlan
  | .reserve name expression => p.reserve name expression
  | .hydrate row => (p.hydrate row).1
  | .reservedValue _ => p

def afterUses (s : Schema) (space : Option Identifier) (uses : List Use) : JoinPlan :=
  uses.foldl after (ofSchema s space)

/-! ## Uses of the cursor -/

def Use.onCursor : Use → Cursor.Use
  | reserve name _ => .register (reservedSlice name) 1
  | hydrate row => .load row
  | reservedValue name => .value (reservedSlice name)

def tableUses (s : Schema) : List Cursor.Use :=
  .register rootSlice s.width :: s.joins.map fun j ↦ .register j.name j.table.width

/-- What is done to the cursor of a plan of a schema, from the first to the last. -/
def cursorUses (s : Schema) (uses : List Use) : List Cursor.Use :=
  tableUses s ++ uses.map Use.onCursor

theorem cursorUses_append (s : Schema) (uses later : List Use) :
    cursorUses s (uses ++ later) = cursorUses s uses ++ later.map Use.onCursor := by
  rw [cursorUses, cursorUses, List.map_append, List.append_assoc]

theorem cursor_after (p : JoinPlan) (use : Use) :
    (p.after use).cursor = p.cursor.after use.onCursor := by
  cases use with
  | reserve name expression => rfl
  | hydrate row =>
    rw [after, hydrate, Use.onCursor, Cursor.after]
    cases p.cursor.load row with
    | error e => rfl
    | ok loaded => rfl
  | reservedValue name => rfl

theorem cursor_foldl_after (p : JoinPlan) (uses : List Use) :
    (uses.foldl after p).cursor = (uses.map Use.onCursor).foldl Cursor.after p.cursor := by
  induction uses generalizing p with
  | nil => rfl
  | cons use uses ih => rw [List.foldl_cons, ih, cursor_after, List.map_cons, List.foldl_cons]

theorem cursor_ofSchema (s : Schema) (space : Option Identifier) :
    (ofSchema s space).cursor = Cursor.afterUses (tableUses s) := by
  rw [Cursor.afterUses, tableUses, List.foldl_cons, List.foldl_map]
  rfl

/-- The cursor of a plan is one that was used as the plan was. -/
theorem cursor_afterUses (s : Schema) (space : Option Identifier) (uses : List Use) :
    (afterUses s space uses).cursor = Cursor.afterUses (cursorUses s uses) := by
  rw [afterUses, cursor_foldl_after, cursor_ofSchema, Cursor.afterUses, Cursor.afterUses,
    ← List.foldl_append, cursorUses]

/-! ## Hydrating -/

/-- An outcome that leaves the program running. -/
def Answers {α : Type} (outcome : Except Error α) : Prop :=
  ∀ stop, outcome ≠ .error (.stopped stop)

theorem Answers.bind {α β : Type} {x : Except Error α} {f : α → Except Error β} (hx : Answers x)
    (hf : ∀ a, Answers (f a)) : Answers (x >>= f) := by
  intro stop hstop
  rcases Outcome.bind_eq_error_iff.1 hstop with hfirst | ⟨a, _, hrest⟩
  · exact hx stop hfirst
  · exact hf a stop hrest

theorem Answers.mapM {α β : Type} {f : α → Except Error β} (hf : ∀ a, Answers (f a))
    (as : List α) : Answers (as.mapM f) := by
  intro stop hstop
  obtain ⟨a, _, hfirst⟩ := Outcome.exists_of_mapM_eq_error hstop
  exact hf a stop hfirst

theorem answers_ok {α : Type} (a : α) : Answers (.ok a) := nofun

theorem answers_decodeFault {α : Type} (column : String) (fault : DecodeFault) :
    Answers (.error (.decode column fault) : Except Error α) := nofun

theorem answers_hydrationFault {α : Type} (fault : HydrationFault) :
    Answers (.error (.hydration fault) : Except Error α) := nofun

theorem answers_splitArray (f : Field) (v : Json) : Answers (f.splitArray v) := by
  unfold Field.splitArray
  split
  · split
    · exact answers_ok _
    · exact answers_decodeFault _ _
  · exact answers_ok _

theorem answers_readJson (f : Field) (v : Json) : Answers (f.readJson v) := by
  unfold Field.readJson
  split
  · split
    · exact answers_ok _
    · exact answers_decodeFault _ _
  · exact answers_ok _

theorem answers_decode (f : Field) (v : Json) : Answers (f.decode v) := by
  rw [Field.decode]
  -- Whether or not an array was taken apart first, what follows is the same.
  split
  all_goals
    apply Answers.bind
    · first
      | exact answers_splitArray f v
      | exact answers_ok v
    · intro v
      split
      · exact answers_ok _
      · split
        · exact answers_readJson f v
        · exact answers_ok v

theorem answers_hydrateTable (t : Table) (slice : List Json) : Answers (t.hydrate slice) := by
  unfold Table.hydrate
  split
  · exact answers_hydrationFault _
  · apply Answers.bind
    · apply Answers.mapM
      intro a
      exact (answers_decode a.1 a.2).bind fun v ↦ answers_ok _
    · exact fun values ↦ answers_ok _

/-- A plan whose cursor has all its slices within the loaded row can be asked for a record. -/
theorem answers_hydrateLoaded {p : JoinPlan} (h : ∀ name, Answers (p.cursor.values name)) :
    Answers p.hydrateLoaded := by
  have hjoin : ∀ j, Answers (hydrateJoin p.cursor j) := by
    intro j
    apply (h j.name).bind
    intro slice
    split
    · exact answers_ok _
    · exact (answers_hydrateTable j.table slice).bind fun record ↦ answers_ok _
  apply (h rootSlice).bind
  intro slice
  apply (answers_hydrateTable p.schema.toTable slice).bind
  intro record
  exact (Answers.mapM hjoin p.schema.joins).bind fun joins ↦ answers_ok _

/-- Hydrating never reaches past the row. -/
theorem answers_hydrate (s : Schema) (space : Option Identifier) (uses : List Use)
    (row : List Json) : Answers ((afterUses s space uses).hydrate row).2 := by
  have hcursor := cursor_afterUses s space uses
  by_cases hwide : (afterUses s space uses).cursor.width ≤ row.length
  · have hload : (afterUses s space uses).cursor.load row =
        .ok { (afterUses s space uses).cursor with row := some row } :=
      if_neg (Nat.not_lt.2 hwide)
    -- The cursor that is read from is one whose last use was to load the row.
    have hloaded : { (afterUses s space uses).cursor with row := some row } =
        Cursor.afterUses (cursorUses s uses ++ [.load row]) := by
      rw [Cursor.afterUses, List.foldl_append, ← Cursor.afterUses, ← hcursor, List.foldl_cons,
        List.foldl_nil, Cursor.after, hload]
    rw [hcursor, Cursor.width_afterUses] at hwide
    rw [hydrate, hload]
    apply answers_hydrateLoaded
    intro name stop hstop
    dsimp only at hstop
    rw [hloaded] at hstop
    have hreads := Cursor.readsWithin_of_fits (Cursor.fits_load hwide name)
    rw [hstop] at hreads
    exact hreads.ne_stopped
  · have hload : (afterUses s space uses).cursor.load row =
        .error (.hydration (.shortRow row.length (afterUses s space uses).cursor.width)) :=
      if_pos (Nat.lt_of_not_le hwide)
    rw [hydrate, hload]
    exact answers_hydrationFault _

/-! ## Reading in any order of use -/

/-- A reading gives the values that lie in the row loaded last at the slice registered first, or is
refused as there is no row or no slice, exactly if that slice lies within that row. Otherwise it
stops the program. Slices that are registered before any row was loaded are always within it. For a
plan the same holds of its reserved values, while hydrating never reaches past the row. -/
theorem reads_within_iff (uses : List Cursor.Use) (name : String) (s : Schema)
    (space : Option Identifier) (planUses : List Use) :
    ((Cursor.ReadsWithin uses name ((Cursor.afterUses uses).values name) ↔
        Cursor.Fits uses name) ∧
      (Cursor.ReadsFirst uses name ((Cursor.afterUses uses).value name) ↔
        Cursor.Fits uses name) ∧
      (¬ Cursor.Fits uses name →
        ∃ stop, (Cursor.afterUses uses).values name = .error (.stopped stop)) ∧
      (Cursor.lastRow? uses = none → ∀ count later,
        Cursor.Fits (uses ++ .register name count :: later) name)) ∧
    (∀ row, Answers ((afterUses s space planUses).hydrate row).2) ∧
      (Cursor.ReadsFirst (cursorUses s planUses) (reservedSlice name)
          ((afterUses s space planUses).reservedValue name) ↔
        Cursor.Fits (cursorUses s planUses) (reservedSlice name)) ∧
      (Cursor.lastRow? (cursorUses s planUses) = none → ∀ expression later,
        Cursor.Fits (cursorUses s (planUses ++ .reserve name expression :: later))
          (reservedSlice name)) := by
  refine ⟨⟨Cursor.readsWithin_iff uses name, Cursor.readsFirst_iff uses name,
    Cursor.values_of_not_fits, fun hunloaded ↦ Cursor.fits_of_registered hunloaded name⟩,
    answers_hydrate s space planUses, ?_, ?_⟩
  · rw [reservedValue, cursor_afterUses]
    exact Cursor.readsFirst_iff _ _
  · intro hunloaded expression later
    rw [cursorUses_append]
    exact Cursor.fits_of_registered hunloaded _ _ _

/-- A slice that is registered behind a loaded row, of a cursor and of a plan. -/
theorem stops_behind_loaded_row :
    (∃ uses, uses = [.register "a" 1, .load [.int 1], .register "b" 5] ∧
      (Cursor.afterUses uses).values "b" = .error (.stopped (.pastRow 6 1)) ∧
      ¬ Cursor.ReadsWithin uses "b" ((Cursor.afterUses uses).values "b")) ∧
    ∃ uses,
      uses = [.hydrate [.int 1, .string "ann", .int 3, .int 3, .string "red"],
        .reserve "rank" "RANK() OVER ()"] ∧
      (afterUses .members none uses).reservedValue "rank" = .error (.stopped (.pastRow 6 5)) :=
  ⟨⟨_, rfl, rfl, Cursor.ReadsWithin.ne_stopped⟩, _, rfl, rfl⟩

end JoinPlan

end SchemaSql
