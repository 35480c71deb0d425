import SchemaSql.Proofs.Query.FilterText
import SchemaSql.Repository.Statements

/-!
# The segments of statements

Every statement of a repository by the segments that it consists of: which text stands where, and
which value each of its slots is bound to. A value that is inserted or assigned is the one that the
field of its own column is given; a value of a predicate is one that its own column's field asks.
-/

namespace SchemaSql

/-! ## Calls -/

/-- What a repository renders a statement for. -/
inductive Call where
  | insert (payload : Json)
  | update (key payload : Json)
  | get (key : Json)
  | delete (key : Json)
  | list (request : ListRequest) (page : Option Page)

namespace Repository

/-- The statement of a call; the plan decides what a list selects. -/
def statement (r : Repository) (plan : JoinPlan) : Call → Except Error Statement
  | .insert payload => r.insertStatement payload
  | .update key payload => r.updateStatement key payload
  | .get key => r.getStatement key
  | .delete key => r.deleteStatement key
  | .list request page => r.listStatement plan request page

end Repository

/-! ## Values that are given to fields -/

/-- A field with the value that a payload has for it and the parameter that the value becomes. -/
structure Given where
  field : Field
  value : Json
  param : Param

namespace Table

/-- The writable fields that a payload has values for, in the order of declaration, each with its
own parameter. -/
structure Gives (t : Table) (writable : Field → Bool) (payload : Json) (given : List Given) :
    Prop where
  present : given.map (fun g ↦ (g.field, g.value)) =
    (t.fields.filter writable).filterMap (Field.present? payload)
  coerced : ∀ g ∈ given, g.field.coerce g.value = .ok g.param

def assignmentsOf (given : List Given) : List Assignment :=
  given.map fun g ↦ ⟨g.field.column, g.param⟩

theorem given_of_assigns {values : List (Field × Json)} {as : List Assignment}
    (h : List.Forall₂ (fun v a ↦ v.1.assign v.2 = .ok a) values as) :
    ∃ given : List Given, given.map (fun g ↦ (g.field, g.value)) = values ∧
      (∀ g ∈ given, g.field.coerce g.value = .ok g.param) ∧ as = assignmentsOf given := by
  induction h with
  | nil => exact ⟨[], rfl, by simp, rfl⟩
  | @cons v a values as ha _ ih =>
    obtain ⟨given, hpresent, hcoerced, rfl⟩ := ih
    obtain ⟨p, hp, ha⟩ := Outcome.bind_eq_ok_iff.1 ha
    obtain rfl := Except.ok.inj ha
    refine ⟨⟨v.1, v.2, p⟩ :: given, ?_, ?_, rfl⟩
    · rw [List.map_cons, hpresent]
    · exact List.forall_mem_cons.2 ⟨hp, hcoerced⟩

theorem gives_of_assignments {t : Table} {writable : Field → Bool} {payload : Json}
    {as : List Assignment} (h : t.assignments writable payload = .ok as) :
    ∃ given, t.Gives writable payload given ∧ given ≠ [] ∧ as = assignmentsOf given := by
  unfold assignments at h
  split at h
  · simp only at h
    split at h
    · cases h
    · cases h
    · rename_i hsome hmap
      obtain rfl := Except.ok.inj h
      obtain ⟨given, hpresent, hcoerced, rfl⟩ :=
        given_of_assigns (Outcome.mapM_eq_ok_iff.1 hmap)
      refine ⟨given, ⟨hpresent, hcoerced⟩, ?_, rfl⟩
      rintro rfl
      exact hsome rfl
  · cases h

end Table

/-! ## Clauses of writing -/

namespace Table

open Segment (Cut)

variable {t : Table} {payload : Json} {c : Clause}

/-- An insertion lists the columns of the given fields, and as many slots under the pattern of a
single one. -/
theorem gives_of_insertClause (h : t.insertClause payload = .ok c) :
    ∃ given, t.Gives Field.insertable payload given ∧
      c.templateAs Template.identity =
        ", ".intercalate (given.map fun g ↦ g.field.column.quoted) ∧
      Cut (c.templateAs Template.slot).toList c.values
        ([Segment.text ", "].intercalate (given.map fun g ↦ [.value g.param])) := by
  obtain ⟨as, has, h⟩ := Outcome.bind_eq_ok_iff.1 h
  obtain ⟨given, hgives, hsome, rfl⟩ := gives_of_assignments has
  obtain rfl := Except.ok.inj h
  refine ⟨given, hgives, ?_, ?_⟩
  · simp [Clause.templateAs, Clause.isEmpty, assignmentsOf, hsome, Clause.fillPattern_identity,
      Function.comp_def]
  · have hfill (f : String) : Clause.fillPattern Template.slot f = Template.slot := by
      simp [Clause.fillPattern, Template.slot, Template.fill]
    rw [Clause.toList_templateAs Template.slot (by simpa [assignmentsOf] using hsome)]
    simpa [hfill, assignmentsOf, Function.comp_def] using
      Predicate.cut_slots (given.map Given.param)

/-- An update gives each column a slot of its own. -/
theorem gives_of_updateClause (h : t.updateClause payload = .ok c) :
    ∃ given, t.Gives Field.updatable payload given ∧
      Cut c.template.toList c.values
        ([Segment.text ", "].intercalate (given.map fun g ↦
          [.text g.field.column.quoted, .text "=", .value g.param])) := by
  obtain ⟨as, has, h⟩ := Outcome.bind_eq_ok_iff.1 h
  obtain ⟨given, hgives, hsome, rfl⟩ := gives_of_assignments has
  obtain rfl := Except.ok.inj h
  refine ⟨given, hgives, ?_⟩
  have hfill (f : String) :
      (Clause.fillPattern updatePattern f).toList = f.toList ++ "=".toList ++ "$?".toList := by
    simp [Clause.fillPattern, updatePattern, Template.fill]
  have hcolumn : ∀ g ∈ given,
      Cut (g.field.column.quoted.toList ++ "=".toList ++ "$?".toList) [g.param]
        [.text g.field.column.quoted, .text "=", .value g.param] := by
    intro g _
    have hname := Cut.text _ (Identifier.question_not_mem_quoted g.field.column)
    exact (hname.append (Cut.text "=" (by decide))).append (Predicate.cut_slot g.param)
  have hcut := Cut.intercalate ", " (by decide) hcolumn
  rw [← List.map_eq_flatMap] at hcut
  rw [Clause.template,
    Clause.toList_templateAs updatePattern (by simpa [assignmentsOf] using hsome)]
  simpa [hfill, assignmentsOf, Function.comp_def] using hcut

end Table

namespace Repository

variable (r : Repository)

/-! ## Segments -/

/-- The columns, and after them a slot for each of them in the same order. -/
def insertSegments (given : List Given) : List Segment :=
  [.text ("WITH " ++ r.schema.name.quoted ++ " AS (INSERT INTO " ++ r.source ++ " ("),
    .text (", ".intercalate (given.map fun g ↦ g.field.column.quoted)), .text ") VALUES ("] ++
    [Segment.text ", "].intercalate (given.map fun g ↦ [.value g.param]) ++
    [.text ")", .text r.selectReturned]

/-- Each column with a slot of its own, and the key after them. -/
def updateSegments (given : List Given) (key : Param) : List Segment :=
  [Segment.text ("WITH " ++ r.schema.name.quoted ++ " AS (UPDATE " ++ r.source ++ " SET ")] ++
    [Segment.text ", "].intercalate
      (given.map fun g ↦ [.text g.field.column.quoted, .text "=", .value g.param]) ++
    [.text (" WHERE " ++ r.schema.keyColumn ++ "="), .value key, .text r.selectReturned]

theorem valuesOf_insertSegments (given : List Given) :
    Segment.valuesOf (r.insertSegments given) = given.map Given.param := by
  rw [insertSegments, Segment.valuesOf_append, Segment.valuesOf_append,
    Segment.valuesOf_intercalate, List.flatMap_map]
  simp [Segment.valuesOf, Segment.text, Segment.value, List.map_eq_flatMap]

/-- The key is the last value. -/
theorem valuesOf_updateSegments (given : List Given) (key : Param) :
    Segment.valuesOf (r.updateSegments given key) = given.map Given.param ++ [key] := by
  rw [updateSegments, Segment.valuesOf_append, Segment.valuesOf_append,
    Segment.valuesOf_intercalate, List.flatMap_map]
  simp [Segment.valuesOf, Segment.text, Segment.value, List.map_eq_flatMap]

def getSegments (key : Param) : List Segment :=
  [.text (r.plan.selectFrom r.source), .text (" WHERE " ++ r.schema.keyColumn ++ "="), .value key]

def deleteSegments (key : Param) : List Segment :=
  [.text ("DELETE FROM " ++ r.source ++ " WHERE " ++ r.schema.keyColumn ++ "="), .value key]

/-- The window of rows: of a page if there is one, else up to a limit if that is given. -/
def windowSegments (request : ListRequest) : Option Page → List Segment
  | some page =>
    [.text " LIMIT ", .value (.text (renderInteger page.size.toInt)), .text " OFFSET ",
      .value (.text (renderInteger page.offset.toInt))]
  | none =>
    match request.limit with
    | some limit =>
      [.text " LIMIT ", .value (.text (renderInteger (r.config.clampPage limit).toInt))]
    | none => []

/-- The predicates of the search before those of the filter, then the order and the window. -/
def listSegments (plan : JoinPlan) (request : ListRequest) (page : Option Page)
    (sought required : List (List Predicate)) (order : OrderTerm) : List Segment :=
  [.text (plan.selectFrom r.source), .text " WHERE "] ++
    Predicate.filterSegments sought required ++ [.text " ORDER BY ", .text order.sql] ++
    r.windowSegments request page

/-- The values of predicates come before those of the window. -/
theorem valuesOf_listSegments (plan : JoinPlan) (request : ListRequest) (page : Option Page)
    (sought required : List (List Predicate)) (order : OrderTerm) :
    Segment.valuesOf (r.listSegments plan request page sought required order) =
      (sought.flatten ++ required.flatten).flatMap Predicate.values ++
        Segment.valuesOf (r.windowSegments request page) := by
  rw [listSegments, Segment.valuesOf_append, Segment.valuesOf_append, Segment.valuesOf_append,
    Predicate.valuesOf_filterSegments, List.flatMap_append]
  simp [Segment.valuesOf, Segment.text]

end Repository

end SchemaSql
