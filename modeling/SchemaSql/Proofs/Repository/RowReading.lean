import SchemaSql.Proofs.Query.RowFrame
import SchemaSql.Repository.Operations

/-!
# Reading the rows of an answer

One plan reads all rows of an answer, one after another. As it reads each of them as if it were the
first, the rows of a list are read one by one, up to the first that cannot be read, and so are those
of a page. The total of a page is the first one that any of its rows tells.
-/

namespace SchemaSql

/-- The total that a row tells: the value behind the columns of the tables, if this is an integer of
64 bits. -/
def Schema.toldTotal? (s : Schema) (row : Wire.Row) : Option Int :=
  match row.values with
  | .error _ => none
  | .ok values =>
    match values[s.columnCount]? with
    | some (.number n) => n.toInt64?
    | _ => none

namespace Repository

/-- What a plan reads a row as, whatever it reads before or afterwards. -/
def readAlone (plan : JoinPlan) (row : Wire.Row) : Except Error Record := do
  let values ← row.values
  (plan.hydrate values).2

/-! ## One row -/

theorem readRow_eq (plan : JoinPlan) (row : Wire.Row) :
    readRow plan row = do
      let values ← row.values
      let record ← (plan.hydrate values).2
      return ((plan.hydrate values).1, record) := by
  unfold readRow
  cases row.values with
  | error e => rfl
  | ok values =>
    rcases hhydrate : plan.hydrate values with ⟨loaded, _ | record⟩ <;>
      simp only [bind, Except.bind, hhydrate]

/-- Reading a row succeeds as reading it alone does, and leaves a plan that differs at most in the
row that it holds. -/
theorem readRow_eq_ok_iff {plan after : JoinPlan} {row : Wire.Row} {record : Record} :
    readRow plan row = .ok (after, record) ↔
      ∃ values, row.values = .ok values ∧ (plan.hydrate values).2 = .ok record ∧
        (plan.hydrate values).1 = after := by
  rw [readRow_eq]
  constructor
  · intro h
    obtain ⟨values, hvalues, h⟩ := Outcome.bind_eq_ok_iff.1 h
    obtain ⟨_, hrecord, h⟩ := Outcome.bind_eq_ok_iff.1 h
    obtain ⟨rfl, rfl⟩ := Prod.mk.inj (Except.ok.inj h)
    exact ⟨values, hvalues, hrecord, rfl⟩
  · rintro ⟨values, hvalues, hrecord, rfl⟩
    rw [hvalues]
    exact Outcome.bind_eq_ok_iff.2 ⟨values, rfl, Outcome.bind_eq_ok_iff.2 ⟨record, hrecord, rfl⟩⟩

theorem map_snd_readRow (plan : JoinPlan) (row : Wire.Row) :
    (readRow plan row).map Prod.snd = readAlone plan row := by
  rw [readRow_eq, readAlone]
  cases row.values with
  | error e => rfl
  | ok values =>
    simp only [bind, Except.bind]
    cases (plan.hydrate values).2 <;> rfl

theorem readAlone_eq_of_unloaded {p q : JoinPlan} (h : p.unloaded = q.unloaded)
    (row : Wire.Row) : readAlone p row = readAlone q row := by
  simp only [readAlone, JoinPlan.hydrate_snd_eq_of_unloaded h]

/-! ## All rows -/

/-- The rows of a list are read one by one. -/
theorem readAll_eq_mapM {plan fresh : JoinPlan} (h : plan.unloaded = fresh.unloaded)
    (rows : List Wire.Row) : readAll plan rows = rows.mapM (readAlone fresh) := by
  induction rows generalizing plan with
  | nil => rfl
  | cons row rows ih =>
    rw [readAll, List.mapM_cons, ← readAlone_eq_of_unloaded h row, ← map_snd_readRow]
    cases hrow : readRow plan row with
    | error e => rfl
    | ok read =>
      obtain ⟨after, record⟩ := read
      obtain ⟨values, _, _, rfl⟩ := readRow_eq_ok_iff.1 hrow
      have hrest := ih ((plan.unloaded_hydrate values).trans h)
      simp only [bind, Except.bind, Except.map, hrest]

structure ReadsList (plan : JoinPlan) (rows : List Wire.Row)
    (result : Except Error (List Record)) : Prop where
  empty : rows = [] → result = .ok []
  items : Outcome.InOrder (readAlone plan) rows result

theorem readsList_readAll (plan : JoinPlan) (rows : List Wire.Row) :
    ReadsList plan rows (readAll plan rows) := by
  refine ⟨?_, ?_⟩
  · rintro rfl
    rfl
  · rw [readAll_eq_mapM rfl]
    exact Outcome.inOrder_mapM _ _

/-! ## The first row -/

/-- What comes of the first row of an answer, or of there being none. -/
inductive FirstRow {α : Type} (read : Wire.Row → Except Error α) (empty : Except Error α) :
    List Wire.Row → Except Error α → Prop where
  | none : FirstRow read empty [] empty
  | first (row : Wire.Row) (rows : List Wire.Row) : FirstRow read empty (row :: rows) (read row)

theorem firstRow_readFirst (plan : JoinPlan) (rows : List Wire.Row) :
    FirstRow (fun row ↦ (readAlone plan row).map some) (.ok none) rows (readFirst plan rows) := by
  cases rows with
  | nil => exact .none
  | cons row rows =>
    have hread : readFirst plan (row :: rows) = (readAlone plan row).map some := by
      rw [readFirst, ← map_snd_readRow]
      cases readRow plan row <;> rfl
    rw [hread]
    exact .first row rows

theorem firstRow_orMissing (plan : JoinPlan) (missing : Missing) (rows : List Wire.Row) :
    FirstRow (readAlone plan) (.error (.notFound missing)) rows
      (readFirst plan rows >>= orMissing missing) := by
  cases rows with
  | nil => exact .none
  | cons row rows =>
    have hread : (readFirst plan (row :: rows) >>= orMissing missing) = readAlone plan row := by
      rw [readFirst, ← map_snd_readRow]
      cases readRow plan row <;> rfl
    rw [hread]
    exact .first row rows

/-! ## Pages -/

structure ReadsPage (s : Schema) (plan : JoinPlan) (rows : List Wire.Row)
    (result : Except Error PageResult) : Prop where
  empty : rows = [] → result = .ok {}
  items : Outcome.InOrder (readAlone plan) rows (result.map PageResult.items)
  total : ∀ page, result = .ok page → page.total = rows.findSome? s.toldTotal?

section

variable {s : Schema} (hs : s.Declared)
include hs

/-- The total that is known stays, and otherwise the row that was read last tells it. -/
theorem totalOf_hydrate {plan : JoinPlan} (hp : JoinPlan.Prepared s plan) {expression : String}
    (hreserved : plan.reserved = [(JoinPlan.total, expression)]) {row : Wire.Row}
    {values : List Json} (hvalues : row.values = .ok values) {record : Record}
    (hrecord : (plan.hydrate values).2 = .ok record) (known : Option Int) :
    totalOf (plan.hydrate values).1 known = .ok (known.or (s.toldTotal? row)) := by
  cases known with
  | some total => rfl
  | none =>
    obtain ⟨hlaid, rfl⟩ := hp.laidOut
    have hfirst : plan.reserved[0]? = some (JoinPlan.total, expression) := by
      rw [hreserved]
      rfl
    have hnames : (plan.reserved.map Prod.fst).Nodup := by
      rw [hreserved]
      exact List.nodup_singleton _
    obtain ⟨v, hv, hvalue⟩ := hlaid.reservedValue_eq hs hnames hrecord hfirst (by decide)
    rw [Nat.add_zero] at hv
    rw [totalOf, hvalue, Schema.toldTotal?, hvalues]
    simp only [hv]
    cases v <;> rfl

/-- The rows of a page are read one by one, and its total is the first that any of them tells. -/
theorem readPage_eq {plan fresh : JoinPlan} (hp : JoinPlan.Prepared s plan) {expression : String}
    (hreserved : plan.reserved = [(JoinPlan.total, expression)])
    (h : plan.unloaded = fresh.unloaded) (known : Option Int) (rows : List Wire.Row) :
    readPage plan known rows = do
      let items ← rows.mapM (readAlone fresh)
      return { total := known.or (rows.findSome? s.toldTotal?), items } := by
  induction rows generalizing plan known with
  | nil =>
    rw [readPage, List.findSome?_nil, Option.or_none]
    rfl
  | cons row rows ih =>
    rw [readPage, List.mapM_cons, ← readAlone_eq_of_unloaded h row, ← map_snd_readRow]
    cases hrow : readRow plan row with
    | error e => rfl
    | ok read =>
      obtain ⟨after, record⟩ := read
      obtain ⟨values, hvalues, hrecord, rfl⟩ := readRow_eq_ok_iff.1 hrow
      have hunloaded := plan.unloaded_hydrate values
      have hreservedAfter := congrArg JoinPlan.reserved hunloaded
      have htotal := totalOf_hydrate hs hp hreserved hvalues hrecord known
      have hrest := ih (hp.hydrate values) (hreservedAfter.trans hreserved) (hunloaded.trans h)
        (known.or (s.toldTotal? row))
      have hfound : known.or ((row :: rows).findSome? s.toldTotal?) =
          (known.or (s.toldTotal? row)).or (rows.findSome? s.toldTotal?) := by
        rw [List.findSome?_cons, Option.or_assoc]
        cases s.toldTotal? row <;> rfl
      rw [hfound]
      simp only [bind, Except.bind, Except.map, htotal, hrest]
      cases rows.mapM (readAlone fresh) <;> rfl

theorem readsPage_readPage {plan : JoinPlan} (hp : JoinPlan.Prepared s plan) {expression : String}
    (hreserved : plan.reserved = [(JoinPlan.total, expression)]) (rows : List Wire.Row) :
    ReadsPage s plan rows (readPage plan none rows) := by
  have hread := readPage_eq hs hp hreserved rfl none rows
  have hitems := Outcome.inOrder_mapM (readAlone plan) rows
  refine ⟨?_, ?_, ?_⟩
  · rintro rfl
    rfl
  · rw [hread]
    cases hrows : rows.mapM (readAlone plan) <;> rwa [hrows] at hitems
  · intro page hpage
    rw [hread] at hpage
    obtain ⟨items, _, hpage⟩ := Outcome.bind_eq_ok_iff.1 hpage
    rw [← Except.ok.inj hpage, Option.none_or]

end

end Repository

end SchemaSql
