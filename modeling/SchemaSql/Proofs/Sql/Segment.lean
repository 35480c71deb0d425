import SchemaSql.Proofs.Sql.Cells

/-!
# Segments of statements

A segment is a stretch of SQL together with the values of its slots. A statement that consists of
segments has its cells and its values cut at the same places, with as many values as slots in each
stretch, so that every slot is bound to a value of its own segment.
-/

namespace SchemaSql

/-- A stretch of SQL and the values of its slots. -/
structure Segment where
  cells : List (Option Char)
  values : List Param

namespace Segment

def text (sql : String) : Segment :=
  ⟨sql.toList.map some, []⟩

def value (p : Param) : Segment :=
  ⟨[none], [p]⟩

def ofTemplate (template : String) (values : List Param) : Segment :=
  ⟨Template.cells template.toList, values⟩

def Fits (g : Segment) : Prop :=
  g.cells.count none = g.values.length

theorem fits_text (sql : String) : (text sql).Fits :=
  Template.count_none_map_some sql.toList

theorem fits_value (p : Param) : (value p).Fits := rfl

/-! ## Lists of segments -/

def cellsOf (gs : List Segment) : List (Option Char) :=
  gs.flatMap cells

def valuesOf (gs : List Segment) : List Param :=
  gs.flatMap values

/-- Segments that fit one by one have as many values as slots in all. -/
theorem count_none_cellsOf {gs : List Segment} (h : ∀ g ∈ gs, g.Fits) :
    (cellsOf gs).count none = (valuesOf gs).length := by
  induction gs with
  | nil => rfl
  | cons g gs ih =>
    have hg : g.Fits := h g List.mem_cons_self
    have hrest := ih fun k hk ↦ h k (List.mem_cons_of_mem g hk)
    calc
      (cellsOf (g :: gs)).count none = g.cells.count none + (cellsOf gs).count none := by
        rw [cellsOf, List.flatMap_cons, List.count_append]
        rfl
      _ = g.values.length + (valuesOf gs).length := by rw [hg, hrest]
      _ = (valuesOf (g :: gs)).length := by
        rw [valuesOf, valuesOf, List.flatMap_cons, List.length_append]

theorem cellsOf_append (gs hs : List Segment) :
    cellsOf (gs ++ hs) = cellsOf gs ++ cellsOf hs :=
  List.flatMap_append

theorem cellsOf_intercalate (sep : String) (ls : List (List Segment)) :
    cellsOf ([text sep].intercalate ls) = (sep.toList.map some).intercalate (ls.map cellsOf) := by
  induction ls with
  | nil => rfl
  | cons l ls ih =>
    cases ls with
    | nil => simp
    | cons m ls =>
      rw [List.intercalate_cons_cons, cellsOf_append, cellsOf_append, ih]
      simp [List.intercalate_cons_cons, cellsOf, text]

theorem valuesOf_append (gs hs : List Segment) :
    valuesOf (gs ++ hs) = valuesOf gs ++ valuesOf hs :=
  List.flatMap_append

/-- A text between some segments has no values of its own. -/
theorem valuesOf_intercalate (sep : String) (ls : List (List Segment)) :
    valuesOf ([text sep].intercalate ls) = ls.flatMap valuesOf := by
  induction ls with
  | nil => rfl
  | cons l ls ih =>
    cases ls with
    | nil => simp
    | cons m ls =>
      rw [List.intercalate_cons_cons, valuesOf_append, valuesOf_append, ih, List.flatMap_cons]
      simp [valuesOf, text]

@[simp] theorem count_cellsOf_nil : (cellsOf []).count none = 0 := rfl

@[simp] theorem count_cellsOf_text (sql : String) (gs : List Segment) :
    (cellsOf (text sql :: gs)).count none = (cellsOf gs).count none := by
  rw [cellsOf, List.flatMap_cons, List.count_append, fits_text, cellsOf]
  exact Nat.zero_add _

@[simp] theorem count_cellsOf_value (p : Param) (gs : List Segment) :
    (cellsOf (value p :: gs)).count none = (cellsOf gs).count none + 1 := by
  rw [cellsOf, List.flatMap_cons, List.count_append, fits_value, cellsOf]
  exact Nat.add_comm 1 _

/-! ### Text -/

def textFrom (n : Nat) (gs : List Segment) : List Char :=
  Template.number n (cellsOf gs)

@[simp] theorem textFrom_nil (n : Nat) : textFrom n [] = [] := rfl

@[simp] theorem textFrom_text (n : Nat) (sql : String) (gs : List Segment) :
    textFrom n (text sql :: gs) = sql.toList ++ textFrom n gs := by
  rw [textFrom, cellsOf, List.flatMap_cons, text, Template.number_append, Template.number_map_some,
    Template.count_none_map_some, Nat.add_zero]
  rfl

@[simp] theorem textFrom_value (n : Nat) (p : Param) (gs : List Segment) :
    textFrom n (value p :: gs) = Template.numbered n ++ textFrom (n + 1) gs := rfl

theorem textFrom_append (n : Nat) (gs hs : List Segment) :
    textFrom n (gs ++ hs) = textFrom n gs ++ textFrom (n + (cellsOf gs).count none) hs := by
  rw [textFrom, cellsOf_append, Template.number_append]
  rfl

/-! ## Templates that are cut -/

/-- A template and values that are cut into segments at the same places, each segment with a value
for each of its slots. -/
structure Cut (template : List Char) (vs : List Param) (gs : List Segment) : Prop where
  separate : Template.Separate template
  cells_eq : Template.cells template = cellsOf gs
  values_eq : vs = valuesOf gs
  fits : ∀ g ∈ gs, g.Fits

namespace Cut

variable {a b : List Char} {vs ws : List Param} {gs hs : List Segment}

theorem text (sql : String) (h : '?' ∉ sql.toList) : Cut sql.toList [] [.text sql] where
  separate := Template.separate_of_not_mem h
  cells_eq := by
    rw [Template.cells_of_not_mem h]
    simp [cellsOf, Segment.text]
  values_eq := rfl
  fits := by simpa using fits_text sql

theorem append (ha : Cut a vs gs) (hb : Cut b ws hs) : Cut (a ++ b) (vs ++ ws) (gs ++ hs) where
  separate := ha.separate.append hb.separate
  cells_eq := by
    rw [Template.cells_append hb.separate, ha.cells_eq, hb.cells_eq, cellsOf, cellsOf, cellsOf,
      List.flatMap_append]
  values_eq := by
    rw [ha.values_eq, hb.values_eq, valuesOf, valuesOf, valuesOf, List.flatMap_append]
  fits := List.forall_mem_append.2 ⟨ha.fits, hb.fits⟩

/-- Templates that are cut can be put together with a text between two of them. -/
theorem intercalate {α : Type} (sep : String) (hsep : '?' ∉ sep.toList) {xs : List α}
    {template : α → List Char} {values : α → List Param} {segments : α → List Segment}
    (h : ∀ x ∈ xs, Cut (template x) (values x) (segments x)) :
    Cut (sep.toList.intercalate (xs.map template)) (xs.flatMap values)
      ([Segment.text sep].intercalate (xs.map segments)) := by
  induction xs with
  | nil => exact ⟨by simp [Template.Separate], rfl, rfl, by simp⟩
  | cons x xs ih =>
    have hx := h x List.mem_cons_self
    have hxs := ih fun y hy ↦ h y (List.mem_cons_of_mem x hy)
    cases xs with
    | nil => simpa using hx
    | cons y xs =>
      simp only [List.map_cons, List.intercalate_cons_cons, List.flatMap_cons] at hxs ⊢
      simpa using (hx.append (text sep hsep)).append hxs

end Cut

end Segment

/-! ## Statements that consist of segments -/

namespace Statement

variable {s : Statement} {gs : List Segment}

/-- The statement is cut into segments, each of which has a value for each of its slots. -/
structure ConsistsOf (s : Statement) (gs : List Segment) : Prop where
  cells_eq : s.cells = Segment.cellsOf gs
  params_eq : s.params = Segment.valuesOf gs
  fits : ∀ g ∈ gs, g.Fits

namespace ConsistsOf

theorem ofText (sql : String) : (Statement.ofText sql).ConsistsOf [.text sql] where
  cells_eq := by simp [Segment.cellsOf, Segment.text]
  params_eq := rfl
  fits g hg := by
    rw [List.mem_singleton.1 hg]
    exact Segment.fits_text sql

theorem tagged (h : s.ConsistsOf gs) (tag : String) : (s.tagged tag).ConsistsOf gs :=
  ⟨h.cells_eq, h.params_eq, h.fits⟩

theorem push (h : s.ConsistsOf gs) (sql : String) :
    (s.push sql).ConsistsOf (gs ++ [.text sql]) where
  cells_eq := by
    rw [cells_push, h.cells_eq]
    simp [Segment.cellsOf, Segment.text]
  params_eq := by
    rw [params_push, h.params_eq]
    simp [Segment.valuesOf, Segment.text]
  fits := List.forall_mem_append.2 ⟨h.fits, by simpa using Segment.fits_text sql⟩

theorem bind (h : s.ConsistsOf gs) (value : Param) :
    (s.bind value).ConsistsOf (gs ++ [.value value]) where
  cells_eq := by
    rw [cells_bind, h.cells_eq]
    simp [Segment.cellsOf, Segment.value]
  params_eq := by
    rw [params_bind, h.params_eq]
    simp [Segment.valuesOf, Segment.value]
  fits := List.forall_mem_append.2 ⟨h.fits, by simpa using Segment.fits_value value⟩

/-- A template adds the segments that it is cut into itself. -/
theorem pushTemplate (h : s.ConsistsOf gs) {template : String} {values : List Param}
    {hs : List Segment} (hcut : Segment.Cut template.toList values hs) :
    (s.pushTemplate template values).ConsistsOf (gs ++ hs) where
  cells_eq := by
    rw [cells_pushTemplate, h.cells_eq, hcut.cells_eq, Segment.cellsOf, Segment.cellsOf,
      Segment.cellsOf, List.flatMap_append]
  params_eq := by
    rw [params_pushTemplate, h.params_eq, hcut.values_eq, Segment.valuesOf, Segment.valuesOf,
      Segment.valuesOf, List.flatMap_append]
  fits := List.forall_mem_append.2 ⟨h.fits, hcut.fits⟩

theorem pushClause (h : s.ConsistsOf gs) {c : Clause} {hs : List Segment}
    (hcut : Segment.Cut c.template.toList c.values hs) :
    (s.pushClause c).ConsistsOf (gs ++ hs) :=
  h.pushTemplate hcut

theorem pushClauseAs (h : s.ConsistsOf gs) {c : Clause} {pattern : String} {hs : List Segment}
    (hcut : Segment.Cut (c.templateAs pattern).toList c.values hs) :
    (s.pushClauseAs c pattern).ConsistsOf (gs ++ hs) :=
  h.pushTemplate hcut

theorem pushNames (h : s.ConsistsOf gs) (c : Clause) :
    (s.pushNames c).ConsistsOf (gs ++ [.text (c.templateAs Template.identity)]) :=
  h.push (c.templateAs Template.identity)

theorem limit (h : s.ConsistsOf gs) (rows : Int) :
    (s.limit rows).ConsistsOf
      (gs ++ [.text " LIMIT ", .value (.text (renderInteger rows))]) := by
  have hrows := (h.push " LIMIT ").bind (.text (renderInteger rows))
  rwa [List.append_assoc] at hrows

theorem limitOffset (h : s.ConsistsOf gs) (rows skipped : Int) :
    (s.limitOffset rows skipped).ConsistsOf
      (gs ++ [.text " LIMIT ", .value (.text (renderInteger rows)), .text " OFFSET ",
        .value (.text (renderInteger skipped))]) := by
  have hskipped := ((h.limit rows).push " OFFSET ").bind (.text (renderInteger skipped))
  rwa [List.append_assoc, List.append_assoc] at hskipped

/-- Slots and values are equally many. -/
theorem slotCount_eq (h : s.ConsistsOf gs) : s.slotCount = s.params.length := by
  calc
    s.slotCount = s.cells.count none := s.slotCount_eq_count
    _ = (Segment.cellsOf gs).count none := by rw [h.cells_eq]
    _ = (Segment.valuesOf gs).length := Segment.count_none_cellsOf h.fits
    _ = s.params.length := by rw [h.params_eq]

theorem validate_eq_ok (h : s.ConsistsOf gs) : s.validate = .ok () :=
  s.validate_eq_ok_iff.2 h.slotCount_eq

end ConsistsOf

end Statement

end SchemaSql
