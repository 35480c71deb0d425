import SchemaSql.Proofs.Repository.StatementSegments
import SchemaSql.Proofs.Schema.Declared

/-!
# Binding of values to slots

Whatever a repository is called for, the statement that it renders has a value for each of its
slots, and each slot is bound to the value that the text around it calls for. Inserted and
assigned values are those of their own columns, with the key after them. The values of a list are
cut along its predicates, each of which has the values that its own field asks.
-/

namespace SchemaSql

namespace Repository

variable {r : Repository} {plan : JoinPlan} {s : Statement}

/-! ## What slots are bound to -/

/-- What the slots of the statement of a call are bound to. -/
inductive Binds (r : Repository) (plan : JoinPlan) (s : Statement) : Call → Prop where
  | insert {payload given} (gives : r.schema.Gives Field.insertable payload given)
      (consists : s.ConsistsOf (r.insertSegments given))
      (params_eq : s.params = given.map Given.param) : r.Binds plan s (.insert payload)
  | update {key payload given param} (gives : r.schema.Gives Field.updatable payload given)
      (key_eq : r.keyParam key = .ok param)
      (consists : s.ConsistsOf (r.updateSegments given param))
      (params_eq : s.params = given.map Given.param ++ [param]) :
      r.Binds plan s (.update key payload)
  | get {key param} (key_eq : r.keyParam key = .ok param)
      (consists : s.ConsistsOf (r.getSegments param)) (params_eq : s.params = [param]) :
      r.Binds plan s (.get key)
  | delete {key param} (key_eq : r.keyParam key = .ok param)
      (consists : s.ConsistsOf (r.deleteSegments param)) (params_eq : s.params = [param]) :
      r.Binds plan s (.delete key)
  | list {request page sought required order} (search_asks : plan.Asks request.search sought)
      (filter_asks : plan.Asks request.filter required)
      (order_eq : r.listOrder plan request.order = .ok order)
      (consists : s.ConsistsOf (r.listSegments plan request page sought required order))
      (chunks : ∀ p ∈ sought.flatten ++ required.flatten,
        Template.slotCount p.template.toList = p.values.length)
      (params_eq : s.params = (sought.flatten ++ required.flatten).flatMap Predicate.values ++
        Segment.valuesOf (r.windowSegments request page)) :
      r.Binds plan s (.list request page)

/-! ## Statements of each call -/

theorem binds_of_insertStatement {payload : Json} (h : r.insertStatement payload = .ok s) :
    r.Binds plan s (.insert payload) := by
  obtain ⟨c, hc, h⟩ := Outcome.bind_eq_ok_iff.1 h
  obtain ⟨given, hgives, hnames, hslots⟩ := Table.gives_of_insertClause hc
  have hstart := (Statement.ConsistsOf.ofText
    ("WITH " ++ r.schema.name.quoted ++ " AS (INSERT INTO " ++ r.source ++ " (")).tagged
      (r.tag "add")
  have hcolumns := (hstart.pushNames c).push ") VALUES ("
  have hvalues := ((hcolumns.pushClauseAs hslots).push ")").push r.selectReturned
  rw [Except.ok.inj h] at hvalues
  have hconsists : s.ConsistsOf (r.insertSegments given) := by
    rw [insertSegments, ← hnames]
    simpa using hvalues
  apply Binds.insert hgives hconsists
  rw [hconsists.params_eq, valuesOf_insertSegments]

theorem binds_of_updateStatement {key payload : Json}
    (h : r.updateStatement key payload = .ok s) : r.Binds plan s (.update key payload) := by
  obtain ⟨c, hc, h⟩ := Outcome.bind_eq_ok_iff.1 h
  obtain ⟨param, hkey, h⟩ := Outcome.bind_eq_ok_iff.1 h
  obtain ⟨given, hgives, hassigned⟩ := Table.gives_of_updateClause hc
  have hstart := (Statement.ConsistsOf.ofText
    ("WITH " ++ r.schema.name.quoted ++ " AS (UPDATE " ++ r.source ++ " SET ")).tagged
      (r.tag "save")
  have hwhere := (hstart.pushClause hassigned).push (" WHERE " ++ r.schema.keyColumn ++ "=")
  have hkeyed := (hwhere.bind param).push r.selectReturned
  rw [Except.ok.inj h] at hkeyed
  have hconsists : s.ConsistsOf (r.updateSegments given param) := by
    rw [updateSegments]
    simpa using hkeyed
  apply Binds.update hgives hkey hconsists
  rw [hconsists.params_eq, valuesOf_updateSegments]

theorem binds_of_getStatement {key : Json} (h : r.getStatement key = .ok s) :
    r.Binds plan s (.get key) := by
  obtain ⟨param, hkey, h⟩ := Outcome.bind_eq_ok_iff.1 h
  have hstart := (Statement.ConsistsOf.ofText (r.plan.selectFrom r.source)).tagged (r.tag "get")
  have hkeyed := (hstart.push (" WHERE " ++ r.schema.keyColumn ++ "=")).bind param
  rw [Except.ok.inj h] at hkeyed
  exact .get hkey hkeyed hkeyed.params_eq

theorem binds_of_deleteStatement {key : Json} (h : r.deleteStatement key = .ok s) :
    r.Binds plan s (.delete key) := by
  obtain ⟨param, hkey, h⟩ := Outcome.bind_eq_ok_iff.1 h
  have hstart := (Statement.ConsistsOf.ofText
    ("DELETE FROM " ++ r.source ++ " WHERE " ++ r.schema.keyColumn ++ "=")).tagged (r.tag "delete")
  have hkeyed := hstart.bind param
  rw [Except.ok.inj h] at hkeyed
  exact .delete hkey hkeyed hkeyed.params_eq

/-- A page or a limit adds its own segments to a statement. -/
theorem consistsOf_window {request : ListRequest} {page : Option Page} {start : Statement}
    {gs : List Segment} (hstart : start.ConsistsOf gs)
    (h : (match page, request.limit with
      | some page, _ => (pure (start.limitOffset page.size.toInt page.offset.toInt) :
          Except Error Statement)
      | none, some limit => pure (start.limit (r.config.clampPage limit).toInt)
      | none, none => pure start) = .ok s) :
    s.ConsistsOf (gs ++ r.windowSegments request page) := by
  cases page with
  | some page =>
    obtain rfl := Except.ok.inj h
    exact hstart.limitOffset page.size.toInt page.offset.toInt
  | none =>
    cases hrows : request.limit with
    | some limit =>
      rw [hrows] at h
      obtain rfl := Except.ok.inj h
      simpa [windowSegments, hrows] using hstart.limit (r.config.clampPage limit).toInt
    | none =>
      rw [hrows] at h
      obtain rfl := Except.ok.inj h
      simpa [windowSegments, hrows] using hstart

theorem binds_of_listStatement {request : ListRequest} {page : Option Page}
    (h : r.listStatement plan request page = .ok s) :
    r.Binds plan s (.list request page) := by
  obtain ⟨c, hc, h⟩ := Outcome.bind_eq_ok_iff.1 h
  obtain ⟨order, horder, h⟩ := Outcome.bind_eq_ok_iff.1 h
  obtain ⟨sought, required, hsought, hrequired, hcut⟩ := JoinPlan.cut_filter hc
  have hsearch := JoinPlan.asks_of_predicateGroups hsought
  have hfilter := JoinPlan.asks_of_predicateGroups hrequired
  have hstart := (Statement.ConsistsOf.ofText (plan.selectFrom r.source)).tagged
    (r.tag (if page.isSome then "filter" else "all"))
  have hwhere := (hstart.push " WHERE ").pushClause hcut
  have hordered := (hwhere.push " ORDER BY ").push order.sql
  have hconsists : s.ConsistsOf (r.listSegments plan request page sought required order) := by
    rw [listSegments]
    simpa using consistsOf_window hordered h
  apply Binds.list hsearch hfilter horder hconsists
  · intro p hp
    have hcolumn : p.OnColumn := by
      rcases List.mem_append.1 hp with hmem | hmem
      · obtain ⟨g, hg, hp⟩ := List.mem_flatten.1 hmem
        exact JoinPlan.onColumn_of_asks hsearch g hg p hp
      · obtain ⟨g, hg, hp⟩ := List.mem_flatten.1 hmem
        exact JoinPlan.onColumn_of_asks hfilter g hg p hp
    have hfits := (Predicate.cut_segment hcolumn).fits p.segment List.mem_cons_self
    rw [Template.slotCount_eq_count]
    exact hfits
  · rw [hconsists.params_eq, valuesOf_listSegments]

/-- Every statement binds its slots as its call asks. -/
theorem binds_of_statement {call : Call} (h : r.statement plan call = .ok s) :
    r.Binds plan s call := by
  cases call with
  | insert payload => exact binds_of_insertStatement h
  | update key payload => exact binds_of_updateStatement h
  | get key => exact binds_of_getStatement h
  | delete key => exact binds_of_deleteStatement h
  | list request page => exact binds_of_listStatement h

theorem Binds.validate_eq_ok {call : Call} (h : r.Binds plan s call) : s.validate = .ok () := by
  cases h with
  | insert _ consists _ => exact consists.validate_eq_ok
  | update _ _ consists _ => exact consists.validate_eq_ok
  | get _ consists _ => exact consists.validate_eq_ok
  | delete _ consists _ => exact consists.validate_eq_ok
  | list _ _ _ consists _ _ => exact consists.validate_eq_ok

/-- A statement of a repository is valid, and each of its slots, which are numbered from the left,
is bound to the value that the text around it calls for. -/
theorem statement_bound {call : Call} (h : r.statement plan call = .ok s) :
    s.validate = .ok () ∧ s.sql = .ofList (Template.number 1 s.cells) ∧ r.Binds plan s call := by
  have hbinds := binds_of_statement h
  exact ⟨hbinds.validate_eq_ok, s.sql_eq_number, hbinds⟩

/-- A page of members that are sought by a key or by the title of a team, and whose teams are
among two. -/
theorem statement_bound_members :
    ∃ request s,
      statement ⟨.members, {}⟩ (JoinPlan.ofSchema .members none).withTotal
        (.list request (some ⟨3, 20⟩)) = .ok s ∧
      s.params.map Param.display = ["7", "%red%", "1", "2", "20", "40"] ∧
      s.validate = .ok () ∧
      Binds ⟨.members, {}⟩ (JoinPlan.ofSchema .members none).withTotal s
        (.list request (some ⟨3, 20⟩)) := by
  let request : ListRequest := {
    search := some (.object [("id", .int 7), ("team", .object [("title", .string "red")])])
    filter := some (.object [("team_id", .array [.int 1, .int 2])]) }
  have h : statement ⟨.members, {}⟩ (JoinPlan.ofSchema .members none).withTotal
      (.list request (some ⟨3, 20⟩)) = .ok _ := rfl
  obtain ⟨hvalid, _, hbinds⟩ := statement_bound h
  exact ⟨request, _, h, by decide +kernel, hvalid, hbinds⟩

end Repository

end SchemaSql
