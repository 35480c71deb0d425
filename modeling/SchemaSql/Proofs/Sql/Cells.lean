import Mathlib.Data.List.Basic
import SchemaSql.Sql.Statement

/-!
# Cells of templates and statements

A template is read as a list of cells, each a character or a slot. A slot that a fragment marks
becomes a cell of its own, while text that a statement takes as it is has character cells only,
even where it spells the mark. Two texts that are put together have their cells side by side
unless a mark of the first is completed by the second; numbering counts the slots from the left.
-/

namespace SchemaSql

namespace Template

/-! ## Cells -/

/-- The characters of a template, with nothing in the place of a slot. -/
def cells : List Char → List (Option Char)
  | [] => []
  | '$' :: '?' :: cs => none :: cells cs
  | c :: cs => some c :: cells cs

/-- A text that cannot complete a mark that was begun before it. -/
def Separate (cs : List Char) : Prop :=
  cs.head? ≠ some '?'

theorem separate_of_not_mem {cs : List Char} (h : '?' ∉ cs) : Separate cs :=
  fun hhead ↦ h (List.mem_of_mem_head? hhead)

theorem Separate.append {a b : List Char} (ha : Separate a) (hb : Separate b) :
    Separate (a ++ b) := by
  cases a with
  | nil => exact hb
  | cons c a => exact ha

theorem cells_append {a b : List Char} (hb : Separate b) :
    cells (a ++ b) = cells a ++ cells b := by
  fun_induction cells a with
  | case1 => rfl
  | case2 a ih => simp only [List.cons_append, cells, ih]
  | case3 c a hmark ih =>
    rw [List.cons_append, cells, ih, List.cons_append]
    -- Only the last character of `a` can meet the first one of `b`.
    intro rest hc hrest
    cases a with
    | nil => exact hb (by simpa using congrArg List.head? hrest)
    | cons d a => exact hmark a hc (by rw [(List.cons.inj hrest).1])

/-- Text without a question mark holds no slot. -/
theorem cells_of_not_mem {cs : List Char} (h : '?' ∉ cs) : cells cs = cs.map some := by
  fun_induction cells cs with
  | case1 => rfl
  | case2 cs ih => simp at h
  | case3 c cs _ ih =>
    rw [ih fun hmem ↦ h (List.mem_cons_of_mem c hmem), List.map_cons]

@[simp] theorem cells_slot : cells slot.toList = [none] := by
  simp [slot, cells]

theorem separate_slot : Separate slot.toList := by
  simp [Separate, slot]

/-! ## Numbering -/

def number : Nat → List (Option Char) → List Char
  | _, [] => []
  | n, some c :: cs => c :: number n cs
  | n, none :: cs => numbered n ++ number (n + 1) cs

theorem number_append (n : Nat) (a b : List (Option Char)) :
    number n (a ++ b) = number n a ++ number (n + a.count none) b := by
  fun_induction number n a with
  | case1 => simp
  | case2 n c a ih => simp [number, ih]
  | case3 n a ih => simp [number, ih, Nat.add_assoc, Nat.add_comm 1]

@[simp] theorem number_map_some (n : Nat) (cs : List Char) : number n (cs.map some) = cs := by
  induction cs with
  | nil => rfl
  | cons c cs ih => rw [List.map_cons, number, ih]

@[simp] theorem count_none_map_some (cs : List Char) : (cs.map some).count none = 0 :=
  List.count_eq_zero.2 (by simp)

/-! ## Pieces -/

theorem cells_eq_pieces (cs : List Char) :
    cells cs = (pieces cs).1.map some ++ (pieces cs).2.flatMap fun p ↦ none :: p.map some := by
  fun_induction cells cs with
  | case1 => rfl
  | case2 cs ih => simp [pieces, ih]
  | case3 c cs hmark ih =>
    rw [pieces.eq_3 c cs hmark, ih]
    rfl

theorem slotCount_eq_count (cs : List Char) : slotCount cs = (cells cs).count none := by
  have hpieces (ps : List (List Char)) :
      (ps.flatMap fun p ↦ none :: p.map some).count none = ps.length := by
    induction ps with
    | nil => rfl
    | cons p ps ih =>
      rw [List.flatMap_cons, List.cons_append, List.count_cons_self, List.count_append,
        count_none_map_some, ih, Nat.zero_add, List.length_cons]
  calc
    slotCount cs = (pieces cs).2.length := rfl
    _ = ((pieces cs).1.map some).count none +
          ((pieces cs).2.flatMap fun p ↦ none :: p.map some).count none := by
      rw [count_none_map_some, hpieces, Nat.zero_add]
    _ = (cells cs).count none := by rw [cells_eq_pieces, List.count_append]

/-- Numbering a text is numbering its cells, and it goes on after as many numbers as slots. -/
theorem numberSlots_eq (n : Nat) (cs : List Char) :
    numberSlots n cs = (number n (cells cs), n + (cells cs).count none) := by
  fun_induction numberSlots n cs with
  | case1 => rfl
  | case2 n cs text next hrest ih =>
    obtain ⟨rfl, rfl⟩ := Prod.mk.inj (hrest.symm.trans ih)
    simp [cells, number, Nat.add_assoc, Nat.add_comm 1]
  | case3 n c cs hmark text next hrest ih =>
    obtain ⟨rfl, rfl⟩ := Prod.mk.inj (hrest.symm.trans ih)
    rw [cells.eq_3 c cs hmark, number, List.count_cons_of_ne (by simp)]

theorem numberFrom_text (n : Nat) (template : String) :
    (numberFrom n template).1 = .ofList (number n (cells template.toList)) := by
  rw [numberFrom, numberSlots_eq]

theorem numberFrom_next (n : Nat) (template : String) :
    (numberFrom n template).2 = n + (cells template.toList).count none := by
  rw [numberFrom, numberSlots_eq]

end Template

/-! ## Statements -/

namespace StatementPart

def cells : StatementPart → List (Option Char)
  | text s => s.toList.map some
  | slot => [none]

end StatementPart

namespace Statement

open Template (number)

/-- The cells of a statement; text that was taken as it is has no slots. -/
def cells (s : Statement) : List (Option Char) :=
  s.parts.flatMap StatementPart.cells

theorem textFrom_eq_number (n : Nat) (parts : List StatementPart) :
    textFrom n parts = number n (parts.flatMap StatementPart.cells) := by
  fun_induction textFrom n parts with
  | case1 => rfl
  | case2 n s parts ih =>
    rw [List.flatMap_cons, StatementPart.cells, Template.number_append, Template.number_map_some,
      Template.count_none_map_some, Nat.add_zero, ih]
  | case3 n parts ih =>
    rw [List.flatMap_cons, StatementPart.cells, List.singleton_append, number, ih]

theorem sql_eq_number (s : Statement) : s.sql = .ofList (number 1 s.cells) := by
  rw [sql, textFrom_eq_number, cells]

theorem slotCount_eq_count (s : Statement) : s.slotCount = s.cells.count none := by
  have hparts (parts : List StatementPart) :
      parts.count .slot = (parts.flatMap StatementPart.cells).count none := by
    induction parts with
    | nil => rfl
    | cons part parts ih =>
      cases part with
      | text t => simp [StatementPart.cells, ih]
      | slot => simp [StatementPart.cells, ih, Nat.add_comm]
  exact hparts s.parts

@[simp] theorem cells_ofText (sql : String) : (ofText sql).cells = sql.toList.map some := by
  simp [ofText, cells, StatementPart.cells]

/-- The cells after a push do not show whether its text continues the part before it. -/
@[simp] theorem cells_push (s : Statement) (sql : String) :
    (s.push sql).cells = s.cells ++ sql.toList.map some := by
  unfold push
  split
  · rename_i hempty
    simp [String.isEmpty_iff.1 hempty]
  · split
    · rename_i last hlast
      obtain ⟨parts, hparts⟩ := List.getLast?_eq_some_iff.1 hlast
      simp [cells, hparts, StatementPart.cells]
    · simp [cells, StatementPart.cells]

@[simp] theorem cells_pushSlot (s : Statement) : s.pushSlot.cells = s.cells ++ [none] := by
  simp [pushSlot, cells, StatementPart.cells]

@[simp] theorem cells_bind (s : Statement) (value : Param) :
    (s.bind value).cells = s.cells ++ [none] :=
  cells_pushSlot s

theorem cells_pushPieces (s : Statement) (pieces : List (List Char)) :
    (s.pushPieces pieces).cells = s.cells ++ pieces.flatMap fun p ↦ none :: p.map some := by
  induction pieces generalizing s with
  | nil => simp [pushPieces]
  | cons p pieces ih => simp [pushPieces, ih]

@[simp] theorem cells_pushTemplate (s : Statement) (template : String) (values : List Param) :
    (s.pushTemplate template values).cells = s.cells ++ Template.cells template.toList := by
  calc
    (s.pushTemplate template values).cells =
        ((s.push (.ofList (Template.pieces template.toList).1)).pushPieces
          (Template.pieces template.toList).2).cells := rfl
    _ = s.cells ++ Template.cells template.toList := by
      rw [cells_pushPieces, cells_push, String.toList_ofList, Template.cells_eq_pieces,
        List.append_assoc]

/-! ### Values -/

@[simp] theorem params_push (s : Statement) (sql : String) : (s.push sql).params = s.params := by
  unfold push
  split
  · rfl
  · split <;> rfl

@[simp] theorem params_bind (s : Statement) (value : Param) :
    (s.bind value).params = s.params ++ [value] := rfl

theorem params_pushPieces (s : Statement) (pieces : List (List Char)) :
    (s.pushPieces pieces).params = s.params := by
  induction pieces generalizing s with
  | nil => rfl
  | cons p pieces ih => rw [pushPieces, ih, params_push, pushSlot]

@[simp] theorem params_pushTemplate (s : Statement) (template : String) (values : List Param) :
    (s.pushTemplate template values).params = s.params ++ values := by
  calc
    (s.pushTemplate template values).params =
        ((s.push (.ofList (Template.pieces template.toList).1)).pushPieces
          (Template.pieces template.toList).2).params ++ values := rfl
    _ = s.params ++ values := by rw [params_pushPieces, params_push]

/-! ### Validity -/

theorem validate_eq_ok_iff (s : Statement) :
    s.validate = .ok () ↔ s.slotCount = s.params.length := by
  unfold validate
  split
  · rename_i hcount
    exact iff_of_true rfl hcount
  · rename_i hcount
    exact iff_of_false (by simp) hcount

end Statement

end SchemaSql
