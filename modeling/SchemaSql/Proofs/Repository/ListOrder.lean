import SchemaSql.Proofs.Query.Orderable
import SchemaSql.Proofs.Sql.Numbering
import SchemaSql.Repository.Statements

/-!
# The order of lists

The statement of a list has its order between its predicates and its window of rows. The order is
one that rows can be ordered by, or that of the primary key where no field is asked for. All that a
caller may write in a request decides which of these texts it is, and never becomes a part of one.
-/

namespace SchemaSql

/-- A tag does not show in the text of a statement, whatever is added after it. -/
theorem Statement.sql_foldl_apply_tagged (s : Statement) (tag : String)
    (steps : List StatementStep) :
    (steps.foldl StatementStep.apply (s.tagged tag)).sql =
      (steps.foldl StatementStep.apply s).sql := by
  rw [sql_eq_number, sql_eq_number, cells_foldl_apply, cells_foldl_apply]
  rfl

namespace Repository

open StatementStep (slotText writtenFrom)

variable {r : Repository} {plan : JoinPlan} {request : ListRequest} {page : Option Page}

/-! ## Statements of lists -/

def windowSteps (r : Repository) (request : ListRequest) : Option Page → List StatementStep
  | some page => [.limitOffset page.size.toInt page.offset.toInt]
  | none =>
    match request.limit with
    | some limit => [.limit (r.config.clampPage limit).toInt]
    | none => []

def windowText (request : ListRequest) (page : Option Page) (n : Nat) : String :=
  match page, request.limit with
  | some _, _ => " LIMIT " ++ slotText n ++ " OFFSET " ++ slotText (n + 1)
  | none, some _ => " LIMIT " ++ slotText n
  | none, none => ""

/-- The statement of a list whose rows are ordered by a text: the predicates are written before it,
and the window is after it. -/
def ListsBy (r : Repository) (plan : JoinPlan) (request : ListRequest) (page : Option Page)
    (s : Statement) (order : String) : Prop :=
  ∃ predicate, plan.filter request.filter request.search = .ok predicate ∧
    s.sql = plan.selectFrom r.source ++ " WHERE " ++ (predicate.renderFrom none 1).1 ++
      " ORDER BY " ++ order ++ windowText request page (predicate.renderFrom none 1).2

theorem writtenFrom_windowSteps (n : Nat) :
    (writtenFrom n (r.windowSteps request page)).1 = windowText request page n := by
  cases page with
  | some page => exact String.append_empty
  | none =>
    unfold windowSteps windowText
    cases request.limit with
    | some limit => exact String.append_empty
    | none => rfl

/-- A list is put together from its predicates, its order and its window. -/
theorem listsBy_of_listStatement {s : Statement}
    (h : r.listStatement plan request page = .ok s) :
    ∃ order, r.listOrder plan request.order = .ok order ∧
      r.ListsBy plan request page s order.sql := by
  obtain ⟨predicate, hpredicate, h⟩ := Outcome.bind_eq_ok_iff.1 h
  obtain ⟨order, horder, h⟩ := Outcome.bind_eq_ok_iff.1 h
  refine ⟨order, horder, predicate, hpredicate, ?_⟩
  let steps : List StatementStep :=
    [.push " WHERE ", .pushClause predicate, .push " ORDER BY ", .push order.sql] ++
      r.windowSteps request page
  let start : Statement := (Statement.ofText (plan.selectFrom r.source)).tagged
    (r.tag (if page.isSome then "filter" else "all"))
  have hsteps : s = steps.foldl StatementStep.apply start := by
    cases page with
    | some page => exact (Except.ok.inj h).symm
    | none =>
      dsimp only [steps, windowSteps]
      cases hlimit : request.limit with
      | some limit =>
        rw [hlimit] at h
        exact (Except.ok.inj h).symm
      | none =>
        rw [hlimit] at h
        exact (Except.ok.inj h).symm
  calc
    s.sql = (Statement.afterSteps (some (plan.selectFrom r.source)) steps).sql := by
      rw [hsteps, Statement.sql_foldl_apply_tagged]
      rfl
    _ = plan.selectFrom r.source ++ (writtenFrom 1 steps).1 := Statement.sql_afterSteps _ _
    _ = plan.selectFrom r.source ++ (" WHERE " ++ ((predicate.renderFrom none 1).1 ++
          (" ORDER BY " ++ (order.sql ++
            (writtenFrom (predicate.renderFrom none 1).2 (r.windowSteps request page)).1)))) := rfl
    _ = plan.selectFrom r.source ++ " WHERE " ++ (predicate.renderFrom none 1).1 ++
          " ORDER BY " ++ order.sql ++ windowText request page (predicate.renderFrom none 1).2 := by
      rw [writtenFrom_windowSteps]
      simp only [String.append_assoc]

/-- A list is refused only for its predicates or its order. -/
theorem exists_listStatement_eq_ok {predicate : Clause} {order : OrderTerm}
    (hpredicate : plan.filter request.filter request.search = .ok predicate)
    (horder : r.listOrder plan request.order = .ok order) (page : Option Page) :
    ∃ s, r.listStatement plan request page = .ok s := by
  rw [listStatement, hpredicate, horder]
  cases page with
  | some page => exact ⟨_, rfl⟩
  | none =>
    cases request.limit with
    | some limit => exact ⟨_, rfl⟩
    | none => exact ⟨_, rfl⟩

/-! ## Orders of lists -/

/-- The order of a list is one of a field, or of the primary key where no field is asked for. -/
theorem orderText_of_listOrder {asked : Option OrderRequest} {o : OrderTerm}
    (h : r.listOrder plan asked = .ok o) :
    plan.schema.OrderText o.sql ∨
      asked.bind OrderRequest.field = none ∧
        ∃ direction, o.sql = orderSql r.schema.name r.schema.key none (some direction) := by
  have hkey : ∀ method, r.schema.keyOrder method = .ok o →
      ∃ direction, o.sql = orderSql r.schema.name r.schema.key none (some direction) := by
    intro method hmethod
    obtain ⟨direction, _, hmethod⟩ := Outcome.bind_eq_ok_iff.1 hmethod
    obtain rfl := Except.ok.inj hmethod
    exact ⟨direction.getD .ascending, sql_dotted _ _ _ _⟩
  unfold listOrder at h
  split at h
  · rename_i request
    split at h
    · exact .inl (JoinPlan.orderText_of_order h)
    · rename_i hfield
      exact .inr ⟨by simpa using hfield, hkey _ h⟩
  · exact .inr ⟨rfl, hkey _ h⟩

/-- The texts of orders are exactly those of what rows can be ordered by: of the declared fields of
the table and of its joins, with a key where the field is of JSON, in either direction or none. A
list is ordered by such a text, and by each of them on some request, or else by the primary key
where the request names no field. No dotted name can mean both a field of a join and a key. -/
theorem orders_exactly_declared {s : Schema} (hs : s.Declared) (hplan : plan.schema = s)
    (hr : r.schema = s) :
    (∀ text, (∃ order field method o,
        plan.order (.orElse order field method) = .ok o ∧ o.sql = text) ↔ s.OrderText text) ∧
      (∀ t f key, s.Orderable t f (some key) → FieldDecl.IsKey key) ∧
      (∀ request page st, r.listStatement plan request page = .ok st →
        ∃ text, r.ListsBy plan request page st text ∧
          (s.OrderText text ∨ request.order.bind OrderRequest.field = none ∧
            ∃ direction, text = orderSql s.name s.key none (some direction))) ∧
      (∀ text, s.OrderText text → ∃ request st,
        r.listStatement plan request none = .ok st ∧ r.ListsBy plan request none st text) ∧
      ∀ j ∈ s.joins, ∀ f ∈ s.fields, ∀ rest key, j.name ++ "." ++ rest ≠ f.name ++ "." ++ key := by
  subst hplan
  refine ⟨?_, fun t f key h ↦ h.isKey hs, ?_, ?_, ?_⟩
  · intro text
    constructor
    · rintro ⟨order, field, method, o, ho, rfl⟩
      exact JoinPlan.orderText_of_order ho
    · rintro ⟨h, direction⟩
      obtain ⟨name, hname⟩ := JoinPlan.exists_order_eq_ok hs h direction
      exact ⟨none, some name, Direction.method? direction, _, hname, sql_dotted _ _ _ _⟩
  · intro request page st hst
    obtain ⟨order, horder, hlists⟩ := listsBy_of_listStatement hst
    have hkind := orderText_of_listOrder horder
    rw [hr] at hkind
    exact ⟨order.sql, hlists, hkind⟩
  · rintro text ⟨h, direction⟩
    obtain ⟨name, hname⟩ := JoinPlan.exists_order_eq_ok hs h direction
    let request : ListRequest := { order := some ⟨some name, Direction.method? direction⟩ }
    have hpredicate : plan.filter request.filter request.search = .ok _ := rfl
    have horder : r.listOrder plan request.order = .ok _ := hname
    obtain ⟨st, hst⟩ := exists_listStatement_eq_ok hpredicate horder none
    obtain ⟨order, hsame, hlists⟩ := listsBy_of_listStatement hst
    obtain rfl := Except.ok.inj (horder.symm.trans hsame)
    refine ⟨request, st, hst, ?_⟩
    rwa [Table.columnOf, sql_dotted] at hlists
  · intro j hj f hf rest key hsame
    exact hs.join_name_ne hj hf (OrderRequest.eq_of_dotted_eq (hs.join_name_undotted hj)
      (hs.table_declared.name_undotted hf) hsame)

/-- Notes by the color in their details, in a list by the names of their authors, and in one by no
field that is named. -/
theorem orders_exactly_declared_notes :
    Schema.notes.OrderText "\"notes\".\"details\"->'color' DESC" ∧
      ∃ r : Repository, r = { schema := .notes } ∧
        (∃ request st, r.listStatement r.plan request none = .ok st ∧
          r.ListsBy r.plan request none st "\"members\".\"name\" ASC") ∧
        ∃ st text, r.listStatement r.plan { limit := some 10 } none = .ok st ∧
          r.ListsBy r.plan { limit := some 10 } none st text := by
  let r : Repository := { schema := .notes }
  have hplan : r.plan.schema = .notes := rfl
  have hr : r.schema = .notes := rfl
  obtain ⟨htexts, _, hlists, hreached, _⟩ :=
    orders_exactly_declared Schema.notes_declared hplan hr
  have hcolor : Schema.notes.OrderText "\"notes\".\"details\"->'color' DESC" :=
    (htexts _).1 ⟨none, some "details.color", some " Desc ", _, rfl, by decide +kernel⟩
  have hname : Schema.notes.OrderText "\"members\".\"name\" ASC" :=
    (htexts _).1 ⟨some ⟨some "author.name", none⟩, none, some "asc", _, rfl, by decide +kernel⟩
  have hst : r.listStatement r.plan { limit := some 10 } none = .ok _ := rfl
  obtain ⟨text, hby, _⟩ := hlists _ _ _ hst
  exact ⟨hcolor, r, rfl, hreached _ hname, _, text, hst, hby⟩

end Repository

end SchemaSql
