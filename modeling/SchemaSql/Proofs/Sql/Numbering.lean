import SchemaSql.Proofs.Sql.Segment

/-!
# Numbering from step to step

A statement keeps its slots without numbers, joins neighbouring texts, leaves out empty ones and
numbers everything at the end. A clause that is rendered by itself is numbered at once, in a scan
from any number on. Both ways agree: a statement reads as if each step had written its own text,
from the number on that the steps before it left free. Marks in text that is taken as it is stay
what they are, also where two texts that meet spell one.
-/

namespace SchemaSql

/-! ## Steps -/

inductive StatementStep where
  | push (sql : String)
  | bind (value : Param)
  | pushClause (c : Clause)
  | pushClauseAs (c : Clause) (pattern : String)
  | pushNames (c : Clause)
  | limit (rows : Int)
  | limitOffset (rows skipped : Int)

namespace StatementStep

def apply (s : Statement) : StatementStep → Statement
  | push sql => s.push sql
  | bind value => s.bind value
  | pushClause c => s.pushClause c
  | pushClauseAs c pattern => s.pushClauseAs c pattern
  | pushNames c => s.pushNames c
  | limit rows => s.limit rows
  | limitOffset rows skipped => s.limitOffset rows skipped

def values : StatementStep → List Param
  | push _ => []
  | bind value => [value]
  | pushClause c => c.values
  | pushClauseAs c _ => c.values
  | pushNames _ => []
  | limit rows => [.text (renderInteger rows)]
  | limitOffset rows skipped => [.text (renderInteger rows), .text (renderInteger skipped)]

def slotText (n : Nat) : String :=
  "$" ++ toString n

/-- What the step writes if `n` is the next free number, and the number that is free after it. A
clause writes what it renders by itself from that number on. -/
def written (n : Nat) : StatementStep → String × Nat
  | push sql => (sql, n)
  | bind _ => (slotText n, n + 1)
  | pushClause c => c.renderFrom none n
  | pushClauseAs c pattern => c.renderFrom (some pattern) n
  | pushNames c => (if c.isEmpty then c.empty else c.separator.intercalate c.fragments, n)
  | limit _ => (" LIMIT " ++ slotText n, n + 1)
  | limitOffset _ _ => (" LIMIT " ++ slotText n ++ " OFFSET " ++ slotText (n + 1), n + 2)

def writtenFrom : Nat → List StatementStep → String × Nat
  | n, [] => ("", n)
  | n, step :: steps =>
    let (text, next) := step.written n
    let (rest, last) := writtenFrom next steps
    (text ++ rest, last)

end StatementStep

namespace Statement

def opening : Option String → Statement
  | none => {}
  | some sql => ofText sql

def afterSteps (init : Option String) (steps : List StatementStep) : Statement :=
  steps.foldl StatementStep.apply (opening init)

end Statement

/-! ## Segments of steps -/

namespace StatementStep

open Segment (cellsOf textFrom)
open Template (number numbered)

/-- The segments that the step adds. A clause may have more values than slots, or fewer. -/
def segments : StatementStep → List Segment
  | push sql => [.text sql]
  | bind value => [.value value]
  | pushClause c => [.ofTemplate c.template c.values]
  | pushClauseAs c pattern => [.ofTemplate (c.templateAs pattern) c.values]
  | pushNames c => [.text (c.templateAs Template.identity)]
  | limit rows => [.text " LIMIT ", .value (.text (renderInteger rows))]
  | limitOffset rows skipped =>
    [.text " LIMIT ", .value (.text (renderInteger rows)), .text " OFFSET ",
      .value (.text (renderInteger skipped))]

theorem cells_apply (s : Statement) (step : StatementStep) :
    (step.apply s).cells = s.cells ++ cellsOf step.segments := by
  cases step with
  | push sql => simp [apply, segments, cellsOf, Segment.text]
  | bind value => simp [apply, segments, cellsOf, Segment.value]
  | pushClause c => simp [apply, segments, cellsOf, Segment.ofTemplate, Statement.pushClause]
  | pushClauseAs c pattern =>
    simp [apply, segments, cellsOf, Segment.ofTemplate, Statement.pushClauseAs]
  | pushNames c => simp [apply, segments, cellsOf, Segment.text, Statement.pushNames]
  | limit rows => simp [apply, segments, cellsOf, Segment.text, Segment.value, Statement.limit]
  | limitOffset rows skipped =>
    simp [apply, segments, cellsOf, Segment.text, Segment.value, Statement.limit,
      Statement.limitOffset]

theorem params_apply (s : Statement) (step : StatementStep) :
    (step.apply s).params = s.params ++ step.values := by
  cases step with
  | push sql => simp [apply, values]
  | bind value => rfl
  | pushClause c => exact s.params_pushTemplate c.template c.values
  | pushClauseAs c pattern => exact s.params_pushTemplate (c.templateAs pattern) c.values
  | pushNames c => simp [apply, values, Statement.pushNames]
  | limit rows => simp [apply, values, Statement.limit]
  | limitOffset rows skipped => simp [apply, values, Statement.limitOffset, Statement.limit]

/-! ## Texts of steps -/

@[simp] theorem toList_slotText (n : Nat) : (slotText n).toList = numbered n := by
  simp [slotText, numbered]

/-- The fragments of a clause are its names, whatever its own pattern makes of them. -/
theorem templateAs_identity (c : Clause) :
    c.templateAs Template.identity =
      if c.isEmpty then c.empty else c.separator.intercalate c.fragments := by
  have hfill : Clause.fillPattern Template.identity = id := by
    funext fragment
    simp [Clause.fillPattern, Template.fill_identity]
  rw [Clause.templateAs, hfill, List.map_id]

/-- A clause that is rendered by itself is its template, numbered where it stands. -/
theorem renderFrom_eq (c : Clause) (pattern : Option String) (n : Nat) :
    let cells := cellsOf [.ofTemplate (c.templateAs (pattern.getD c.pattern)) c.values]
    (c.renderFrom pattern n).1.toList = number n cells ∧
      (c.renderFrom pattern n).2 = n + cells.count none := by
  simp [Clause.renderFrom, Template.numberFrom_text, Template.numberFrom_next, cellsOf,
    Segment.ofTemplate]

/-- What a step writes is its segments, numbered from the number that is free before it. -/
theorem written_eq (n : Nat) (step : StatementStep) :
    (step.written n).1.toList = textFrom n step.segments ∧
      (step.written n).2 = n + (cellsOf step.segments).count none := by
  cases step with
  | push sql => simp [written, segments]
  | bind value => simp [written, segments]
  | pushClause c => exact renderFrom_eq c none n
  | pushClauseAs c pattern => exact renderFrom_eq c (some pattern) n
  | pushNames c => simp [written, segments, templateAs_identity]
  | limit rows => simp [written, segments]
  | limitOffset rows skipped => simp [written, segments]

/-- Steps go on where the steps before them stop. -/
theorem writtenFrom_eq (n : Nat) (steps : List StatementStep) :
    (writtenFrom n steps).1.toList = textFrom n (steps.flatMap segments) ∧
      (writtenFrom n steps).2 = n + (cellsOf (steps.flatMap segments)).count none := by
  induction steps generalizing n with
  | nil => simp [writtenFrom]
  | cons step steps ih =>
    obtain ⟨htext, hnext⟩ := written_eq n step
    obtain ⟨hrest, hlast⟩ := ih (step.written n).2
    rw [hnext] at hrest hlast
    constructor
    · calc
        (writtenFrom n (step :: steps)).1.toList =
            (step.written n).1.toList ++ (writtenFrom (step.written n).2 steps).1.toList :=
          String.toList_append
        _ = textFrom n step.segments ++
              textFrom (n + (cellsOf step.segments).count none) (steps.flatMap segments) := by
          rw [htext, hnext, hrest]
        _ = textFrom n ((step :: steps).flatMap segments) := by
          rw [List.flatMap_cons, Segment.textFrom_append]
    · calc
        (writtenFrom n (step :: steps)).2 = (writtenFrom (step.written n).2 steps).2 := rfl
        _ = n + (cellsOf step.segments).count none +
              (cellsOf (steps.flatMap segments)).count none := by rw [hnext, hlast]
        _ = n + (cellsOf ((step :: steps).flatMap segments)).count none := by
          rw [List.flatMap_cons, Segment.cellsOf_append, List.count_append, Nat.add_assoc]

end StatementStep

/-! ## Statements after steps -/

namespace Statement

open StatementStep (writtenFrom)

/-- Steps add their segments and their values, one step after another. -/
theorem cells_foldl_apply (s : Statement) (steps : List StatementStep) :
    (steps.foldl StatementStep.apply s).cells =
      s.cells ++ Segment.cellsOf (steps.flatMap StatementStep.segments) := by
  induction steps generalizing s with
  | nil => simp [Segment.cellsOf]
  | cons step steps ih =>
    rw [List.foldl_cons, ih, StatementStep.cells_apply, List.append_assoc, List.flatMap_cons,
      Segment.cellsOf_append]

theorem params_foldl_apply (s : Statement) (steps : List StatementStep) :
    (steps.foldl StatementStep.apply s).params =
      s.params ++ steps.flatMap StatementStep.values := by
  induction steps generalizing s with
  | nil => simp
  | cons step steps ih =>
    rw [List.foldl_cons, ih, StatementStep.params_apply, List.append_assoc, List.flatMap_cons]

/-- A step goes on where the statement stops. -/
theorem sql_apply (s : Statement) (step : StatementStep) :
    (step.apply s).sql = s.sql ++ (step.written (s.slotCount + 1)).1 := by
  apply String.toList_inj.1
  rw [sql_eq_number, sql_eq_number, String.toList_append, String.toList_ofList,
    String.toList_ofList, StatementStep.cells_apply, Template.number_append,
    (StatementStep.written_eq _ step).1, Segment.textFrom, slotCount_eq_count, Nat.add_comm]

theorem cells_afterSteps (init : Option String) (steps : List StatementStep) :
    (afterSteps init steps).cells =
      (init.getD "").toList.map some ++
        Segment.cellsOf (steps.flatMap StatementStep.segments) := by
  rw [afterSteps, cells_foldl_apply]
  cases init with
  | none => rfl
  | some sql => rw [opening, cells_ofText, Option.getD_some]

theorem params_afterSteps (init : Option String) (steps : List StatementStep) :
    (afterSteps init steps).params = steps.flatMap StatementStep.values := by
  rw [afterSteps, params_foldl_apply]
  cases init with
  | none => rfl
  | some sql => rfl

theorem sql_afterSteps (init : Option String) (steps : List StatementStep) :
    (afterSteps init steps).sql = init.getD "" ++ (writtenFrom 1 steps).1 := by
  apply String.toList_inj.1
  rw [sql_eq_number, String.toList_ofList, cells_afterSteps, Template.number_append,
    Template.number_map_some, Template.count_none_map_some, String.toList_append,
    (StatementStep.writtenFrom_eq 1 steps).1, Segment.textFrom]

/-- The numbers that steps use up are those of the slots. -/
theorem next_afterSteps (init : Option String) (steps : List StatementStep) :
    (writtenFrom 1 steps).2 = (afterSteps init steps).slotCount + 1 := by
  rw [(StatementStep.writtenFrom_eq 1 steps).2, slotCount_eq_count, cells_afterSteps,
    List.count_append, Template.count_none_map_some, Nat.zero_add, Nat.add_comm]

/-- A statement that is put together in any steps reads as what the steps write one by one, clauses
as they are rendered by themselves from the number that is free; its values are those of the steps
in their order, and it is valid exactly if the steps use up as many numbers as they have values. -/
theorem written_in_steps (init : Option String) (steps : List StatementStep) :
    (afterSteps init steps).sql = init.getD "" ++ (writtenFrom 1 steps).1 ∧
      (afterSteps init steps).params = steps.flatMap StatementStep.values ∧
      ((afterSteps init steps).validate = .ok () ↔
        (writtenFrom 1 steps).2 - 1 = (afterSteps init steps).params.length) := by
  refine ⟨sql_afterSteps init steps, params_afterSteps init steps, ?_⟩
  rw [validate_eq_ok_iff, next_afterSteps init steps, Nat.add_sub_cancel]

/-- Two texts that spell a mark where they meet hold no slot, and a clause between others goes on
with their numbers. -/
example :
    (afterSteps none [.push "a$", .push "? ", .bind .null,
      .pushClause ⟨["$?$?", "b"], [], "{name}", ", ", ""⟩, .limit 5]).sql =
        "a$? $1$2$3, b LIMIT $4" := by
  decide +kernel

end Statement

end SchemaSql
