import SchemaSql.Proofs.Query.FilterText

/-!
# The shape of a payload

As much of a payload as its predicates are written by: which declared fields it has values for, and
of each value whether it is null, a list of some length, a range with some bounds or anything else.
What a predicate is without its values is determined by this shape, and so is its text.
-/

namespace SchemaSql

/-! ## Shapes -/

/-- What can be told of a value without reading it. -/
inductive ValueShape where
  | null
  | list (length : Nat)
  | range (lower upper : Bool)
  | other
deriving DecidableEq

namespace Field

/-- The shape of a value as a field looks at it: an array field counts elements, and a JSON field
only tells null from the rest. -/
def shapeOf (f : Field) (v : Json) : ValueShape :=
  if f.isArray then
    match v with
    | .array vs => .list vs.length
    | _ => .other
  else
    match v with
    | .null => .null
    | v =>
      if f.type = .json then .other
      else
        match v with
        | .array vs => .list vs.length
        | .object members =>
          .range ((Json.object members).get? "from").isSome
            ((Json.object members).get? "to").isSome
        | _ => .other

end Field

def Table.shapeOf (t : Table) (payload : Json) : List (Option ValueShape) :=
  t.fields.map fun f ↦ (payload.get? f.name).map f.shapeOf

/-- The shape of a payload for the first table and for each join. A payload that is missing has no
values. -/
def JoinPlan.shapeOf (p : JoinPlan) (payload : Option Json) : List (List (Option ValueShape)) :=
  let payload := payload.getD .null
  p.schema.shapeOf payload ::
    p.schema.joins.map fun j ↦ j.table.shapeOf ((payload.get? j.name).getD .null)

/-! ## Predicates without their values -/

namespace Condition

/-- The condition with nothing left of its values but their number. -/
def blank : Condition → Condition
  | element _ => element .null
  | isNull => isNull
  | like _ => like ""
  | textLike _ => textLike ""
  | atLeast _ => atLeast .null
  | atMost _ => atMost .null
  | oneOf values => oneOf (values.map fun _ ↦ .null)
  | never => never
  | equals _ => equals .null

end Condition

namespace Predicate

def blank (p : Predicate) : Predicate :=
  { p with condition := p.condition.blank }

/-- No value occurs in the text of a predicate. -/
theorem template_blank (p : Predicate) : p.blank.template = p.template := by
  obtain ⟨column, condition⟩ := p
  cases condition with
  | oneOf values => simp [blank, Condition.blank, template]
  | element | isNull | like | textLike | atLeast | atMost | never | equals => rfl

end Predicate

namespace Field

def blankConditions (f : Field) : ValueShape → List Condition
  | .null => [.isNull]
  | .list length =>
    if f.isArray then .replicate length (.element .null)
    else if length = 0 then [.never]
    else [.oneOf (.replicate length .null)]
  | .range lower upper =>
    (if lower then [.atLeast .null] else []) ++ if upper then [.atMost .null] else []
  | .other =>
    if f.type = .json then [.textLike ""]
    else if f.options.isSome || f.type != .string then [.equals .null]
    else [.like ""]

/-- A bound of a range leaves a condition without its value if it is there. -/
theorem map_blank_of_coerces {f : Field} {v : Option Json} {ps : List Param}
    {c : Param → Condition} (hc : ∀ p, (c p).blank = c .null) (h : f.Coerces v.toList ps) :
    (ps.map c).map Condition.blank = if v.isSome then [c .null] else [] := by
  cases v with
  | none =>
    obtain rfl := List.forall₂_nil_left_iff.1 h
    rfl
  | some v =>
    obtain ⟨p, ps, _, hnil, rfl⟩ := List.forall₂_cons_left_iff.1 h
    obtain rfl := List.forall₂_nil_left_iff.1 hnil
    simp [hc]

/-- Of a value that is not made of others nothing more can be told. -/
theorem shapeOf_scalar {f : Field} {v : Json} (single : f.isArray = false) (scalar : v.IsScalar) :
    f.shapeOf v = .other := by
  cases v with
  | null | array | object => cases scalar
  | bool | number | string => simp [shapeOf, single]

/-- Without their values, the conditions that a value asks are given by its shape. -/
theorem map_blank_of_asks {f : Field} {v : Json} {cs : List Condition} (h : f.Asks v cs) :
    cs.map Condition.blank = f.blankConditions (f.shapeOf v) := by
  cases h with
  | @elements vs ps array params =>
    have hlength : vs.length = ps.length := List.Forall₂.length_eq params
    simp only [shapeOf, array, if_true, blankConditions, hlength, List.map_map]
    apply List.map_eq_replicate_iff.2
    intro p _
    rfl
  | null single => simp [shapeOf, single, blankConditions, Condition.blank]
  | textLike single json given =>
    have hshape : f.shapeOf v = .other := by
      cases v with
      | null => exact absurd rfl given
      | bool | number | string | array | object => simp [shapeOf, single, json]
    rw [hshape]
    simp [blankConditions, json, Condition.blank]
  | @range members lower upper single ordered least greatest bounded =>
    have hplain : f.type ≠ .json := by
      intro hjson
      rw [hjson] at ordered
      cases ordered
    have hshape : f.shapeOf (.object members) =
        .range ((Json.object members).get? "from").isSome
          ((Json.object members).get? "to").isSome := by
      simp [shapeOf, single, hplain]
    rw [hshape, List.map_append, blankConditions,
      map_blank_of_coerces (c := .atLeast) (fun _ ↦ rfl) least,
      map_blank_of_coerces (c := .atMost) (fun _ ↦ rfl) greatest]
  | never single plain => simp [shapeOf, single, plain, blankConditions, Condition.blank]
  | @oneOf v vs ps single plain params =>
    have hlength : ps.length = vs.length + 1 := (List.Forall₂.length_eq params).symm
    have hblank : (ps.map fun _ ↦ Param.null) = .replicate (vs.length + 1) .null := by
      rw [List.map_const', hlength]
    simp [shapeOf, single, plain, blankConditions, Condition.blank, hblank]
  | equals single plain scalar exact param =>
    have hexact : (f.options.isSome || f.type != .string) = true := by simpa using exact
    rw [shapeOf_scalar single scalar]
    simp [blankConditions, plain, hexact, Condition.blank]
  | like single scalar free string param =>
    rw [shapeOf_scalar single scalar]
    simp [blankConditions, free, string, Condition.blank]

end Field

/-! ## Tables -/

namespace Table

def blankPredicates (t : Table) (payload : Json) : List Predicate :=
  t.fields.flatMap fun f ↦
    (((payload.get? f.name).map f.shapeOf).elim [] f.blankConditions).map fun c ↦
      ⟨t.columnOf f, c⟩

/-- They are given by the shape of the payload. -/
theorem blankPredicates_congr {t : Table} {payload payload' : Json}
    (hshape : t.shapeOf payload = t.shapeOf payload') :
    t.blankPredicates payload = t.blankPredicates payload' := by
  apply List.flatMap_congr
  intro f hf
  rw [List.map_inj_left.1 hshape f hf]

@[simp] theorem blankPredicates_null (t : Table) : t.blankPredicates .null = [] :=
  List.flatMap_eq_nil_iff.2 fun _ _ ↦ rfl

theorem map_blank_of_asksFor {t : Table} {payload : Json} {ps : List Predicate}
    (h : t.AsksFor payload ps) : ps.map Predicate.blank = t.blankPredicates payload := by
  obtain ⟨asked, ⟨hpresent, hasks⟩, rfl⟩ := h
  unfold blankPredicates
  generalize t.fields = fs at hpresent
  induction fs generalizing asked with
  | nil =>
    obtain rfl := List.map_eq_nil_iff.1 hpresent
    rfl
  | cons f fs ih =>
    rw [List.flatMap_cons]
    cases hvalue : payload.get? f.name with
    | none =>
      rw [List.filterMap_cons_none (by simp [Field.present?, hvalue])] at hpresent
      rw [ih asked hasks hpresent]
      rfl
    | some v =>
      rw [List.filterMap_cons_some (b := (f, v)) (by simp [Field.present?, hvalue])] at hpresent
      obtain ⟨a, rest, rfl, ha, hrest⟩ := List.map_eq_cons_iff.1 hpresent
      obtain ⟨rfl, rfl⟩ := Prod.mk.inj ha
      have hhead := Field.map_blank_of_asks (hasks a List.mem_cons_self)
      have htail := ih rest (fun b hb ↦ hasks b (List.mem_cons_of_mem a hb)) hrest
      rw [List.flatMap_cons, List.map_append, htail, Asked.predicates, List.map_map]
      simp only [Option.map_some, Option.elim_some, ← hhead, List.map_map]
      rfl

end Table

/-! ## Plans -/

namespace JoinPlan

def blankGroups (p : JoinPlan) (payload : Option Json) : List (List Predicate) :=
  let payload := payload.getD .null
  p.schema.blankPredicates payload ::
    p.schema.joins.map fun j ↦ j.table.blankPredicates ((payload.get? j.name).getD .null)

theorem blankGroups_congr {p : JoinPlan} {payload payload' : Option Json}
    (hshape : p.shapeOf payload = p.shapeOf payload') :
    p.blankGroups payload = p.blankGroups payload' := by
  obtain ⟨hroot, hjoins⟩ := List.cons.inj hshape
  rw [blankGroups, blankGroups, Table.blankPredicates_congr hroot, List.cons.injEq]
  refine ⟨rfl, ?_⟩
  apply List.map_congr_left
  intro j hj
  exact Table.blankPredicates_congr (List.map_inj_left.1 hjoins j hj)

theorem map_blank_of_joinAsks {payload : Json} {j : Join} {ps : List Predicate}
    (h : JoinAsks payload j ps) :
    ps.map Predicate.blank = j.table.blankPredicates ((payload.get? j.name).getD .null) := by
  unfold JoinAsks at h
  split at h
  · rename_i hnone
    simp [h, hnone]
  · rename_i part hsome
    obtain ⟨_, _, hasks⟩ := h
    rw [hsome]
    exact Table.map_blank_of_asksFor hasks

/-- Without their values, the groups of predicates that a payload asks for are given by its shape,
those that are empty apart. -/
theorem filter_map_blank_of_asks {p : JoinPlan} {payload : Option Json}
    {groups : List (List Predicate)} (h : p.Asks payload groups) :
    (groups.map (List.map Predicate.blank)).filter (fun g ↦ !g.isEmpty) =
      (p.blankGroups payload).filter fun g ↦ !g.isEmpty := by
  have hempty : (p.blankGroups (some .null)).filter (fun g ↦ !g.isEmpty) = [] := by
    rw [List.filter_eq_nil_iff]
    simp [blankGroups, Json.get?]
  cases h with
  | absent => exact hempty.symm
  | null => exact hempty.symm
  | @payload members root joined root_asks joins_ask =>
    have hjoined : joined.map (List.map Predicate.blank) = p.schema.joins.map fun j ↦
        j.table.blankPredicates (((Json.object members).get? j.name).getD .null) := by
      generalize p.schema.joins = joins at joins_ask
      induction joins_ask with
      | nil => rfl
      | cons hj _ ih => rw [List.map_cons, List.map_cons, map_blank_of_joinAsks hj, ih]
    rw [List.map_cons, hjoined, Table.map_blank_of_asksFor root_asks]
    rfl

end JoinPlan

/-! ## Text -/

namespace Predicate

/-- The cells of predicates do not depend on their values. -/
theorem cellsOf_segments_blank (combinator : Combinator) (ps : List Predicate) :
    Segment.cellsOf (segments combinator (ps.map blank)) =
      Segment.cellsOf (segments combinator ps) := by
  rw [segments, segments, Segment.cellsOf_intercalate, Segment.cellsOf_intercalate]
  simp [Segment.cellsOf, segment, Segment.ofTemplate, template_blank, Function.comp_def]

theorem cellsOf_parenthesized (gs : List Segment) :
    Segment.cellsOf (parenthesized gs) = some '(' :: (Segment.cellsOf gs ++ [some ')']) := by
  simp [parenthesized, Segment.cellsOf, Segment.text]

/-- Nor do those of groups, which are found without the empty ones already. -/
theorem cellsOf_groupSegments_blank (combinator : Combinator) (groups : List (List Predicate)) :
    Segment.cellsOf (groupSegments combinator
        ((groups.map (List.map blank)).filter fun g ↦ !g.isEmpty)) =
      Segment.cellsOf (groupSegments combinator groups) := by
  have hpresent : ((groups.map (List.map blank)).filter fun g ↦ !g.isEmpty).filter
      (fun g ↦ !g.isEmpty) = (groups.filter fun g ↦ !g.isEmpty).map (List.map blank) := by
    rw [List.filter_filter, List.filter_map]
    simp [Function.comp_def]
  unfold groupSegments
  rw [hpresent]
  generalize groups.filter (fun g ↦ !g.isEmpty) = present
  by_cases hnone : present = []
  · simp [hnone]
  · simp only [List.map_eq_nil_iff, hnone, if_false, Segment.cellsOf_intercalate, List.map_map,
      List.length_map]
    congr 2
    funext g
    simp only [Function.comp_apply]
    split
    · rw [cellsOf_parenthesized, cellsOf_parenthesized, cellsOf_segments_blank]
    · rw [cellsOf_segments_blank]

/-- Payloads of one shape are written with the same cells. -/
theorem cellsOf_groupSegments_congr {p : JoinPlan} {payload payload' : Option Json}
    {groups groups' : List (List Predicate)} (combinator : Combinator)
    (hshape : p.shapeOf payload = p.shapeOf payload') (h : p.Asks payload groups)
    (h' : p.Asks payload' groups') :
    Segment.cellsOf (groupSegments combinator groups) =
      Segment.cellsOf (groupSegments combinator groups') := by
  calc
    Segment.cellsOf (groupSegments combinator groups) =
        Segment.cellsOf (groupSegments combinator
          ((p.blankGroups payload).filter fun g ↦ !g.isEmpty)) := by
      rw [← cellsOf_groupSegments_blank, JoinPlan.filter_map_blank_of_asks h]
    _ = Segment.cellsOf (groupSegments combinator
          ((p.blankGroups payload').filter fun g ↦ !g.isEmpty)) := by
      rw [JoinPlan.blankGroups_congr hshape]
    _ = Segment.cellsOf (groupSegments combinator groups') := by
      rw [← JoinPlan.filter_map_blank_of_asks h', cellsOf_groupSegments_blank]

end Predicate

end SchemaSql
