import SchemaSql.Proofs.Outcome
import SchemaSql.Query.Assignment
import SchemaSql.Query.JoinPlan

/-!
# What a payload asks for

The conditions of a query by the values that they come from. Each condition on a column holds
parameters of the column's own field, and nothing but the value that the payload has for this
field decides which: the elements of a list, the bounds of a range, or the value itself. A payload
is answered field by field, the first table before its joins, each in the order of declaration.
-/

namespace SchemaSql

namespace Json

/-- Neither null nor made of other values. -/
def IsScalar : Json → Prop
  | bool _ | number _ | string _ => True
  | null | array _ | object _ => False

end Json

/-! ## Fields -/

namespace Field

/-- The parameters of some values, one for each in their order. -/
def Coerces (f : Field) (vs : List Json) (ps : List Param) : Prop :=
  List.Forall₂ (fun v p ↦ f.coerceScalar v = .ok p) vs ps

/-- The conditions that a value asks of a field. -/
inductive Asks (f : Field) : Json → List Condition → Prop where
  | elements {vs ps} (array : f.isArray = true) (params : f.Coerces vs ps) :
      f.Asks (.array vs) (ps.map .element)
  | null (single : f.isArray = false) : f.Asks .null [.isNull]
  | textLike {v} (single : f.isArray = false) (json : f.type = .json) (given : v ≠ .null) :
      f.Asks v [.textLike (containing v.plainText)]
  | range {members lower upper} (single : f.isArray = false) (ordered : f.type.isOrdered = true)
      (least : f.Coerces ((Json.object members).get? "from").toList lower)
      (greatest : f.Coerces ((Json.object members).get? "to").toList upper)
      (bounded : lower ++ upper ≠ []) :
      f.Asks (.object members) (lower.map .atLeast ++ upper.map .atMost)
  | never (single : f.isArray = false) (plain : f.type ≠ .json) : f.Asks (.array []) [.never]
  | oneOf {v vs ps} (single : f.isArray = false) (plain : f.type ≠ .json)
      (params : f.Coerces (v :: vs) ps) : f.Asks (.array (v :: vs)) [.oneOf ps]
  | equals {v p} (single : f.isArray = false) (plain : f.type ≠ .json) (scalar : v.IsScalar)
      (exact : f.options.isSome = true ∨ f.type ≠ .string) (param : f.coerceScalar v = .ok p) :
      f.Asks v [.equals p]
  | like {v p} (single : f.isArray = false) (scalar : v.IsScalar) (free : f.options = none)
      (string : f.type = .string) (param : f.coerceScalar v = .ok p) :
      f.Asks v [.like (containing p.display)]

theorem coerces_of_bound {f : Field} {make : Param → Condition} {v : Option Json}
    {cs : List Condition} (h : f.bound make v = .ok cs) :
    ∃ ps, f.Coerces v.toList ps ∧ cs = ps.map make := by
  cases v with
  | none => exact ⟨[], .nil, (Except.ok.inj h).symm⟩
  | some v =>
    obtain ⟨p, hp, h⟩ := Outcome.bind_eq_ok_iff.1 h
    exact ⟨[p], .cons hp .nil, (Except.ok.inj h).symm⟩

theorem coerces_of_elements {f : Field} {vs : List Json} {cs : List Condition}
    (h : List.Forall₂
      (fun v c ↦ (f.coerceScalar v >>= fun p ↦ .ok (Condition.element p)) = .ok c) vs cs) :
    ∃ ps, f.Coerces vs ps ∧ cs = ps.map .element := by
  induction h with
  | nil => exact ⟨[], .nil, rfl⟩
  | cons hc _ ih =>
    obtain ⟨ps, hps, rfl⟩ := ih
    obtain ⟨p, hp, hc⟩ := Outcome.bind_eq_ok_iff.1 hc
    obtain rfl := Except.ok.inj hc
    exact ⟨p :: ps, .cons hp hps, rfl⟩

theorem asks_of_elementConditions {f : Field} {v : Json} {cs : List Condition}
    (harray : f.isArray = true) (h : f.elementConditions v = .ok cs) : f.Asks v cs := by
  obtain ⟨vs, hvs, h⟩ := Outcome.bind_eq_ok_iff.1 h
  obtain ⟨ps, hps, rfl⟩ := coerces_of_elements (Outcome.mapM_eq_ok_iff.1 h)
  cases v with
  | array us =>
    obtain rfl := Except.ok.inj hvs
    exact .elements harray hps
  | null | bool | number | string | object => cases hvs

theorem asks_of_range {f : Field} {members : List (String × Json)} {cs : List Condition}
    (hsingle : f.isArray = false) (h : f.range (.object members) = .ok cs) :
    f.Asks (.object members) cs := by
  unfold range at h
  split at h
  · cases h
  · rename_i hordered
    split at h
    · cases h
    · rename_i hbounds
      obtain ⟨lower, hlower, h⟩ := Outcome.bind_eq_ok_iff.1 h
      obtain ⟨upper, hupper, h⟩ := Outcome.bind_eq_ok_iff.1 h
      obtain ⟨ps, hps, rfl⟩ := coerces_of_bound hlower
      obtain ⟨qs, hqs, rfl⟩ := coerces_of_bound hupper
      obtain rfl := Except.ok.inj h
      refine .range hsingle (by simpa using hordered) hps hqs ?_
      intro hnil
      obtain ⟨rfl, rfl⟩ := List.append_eq_nil_iff.1 hnil
      exact hbounds (Option.toList_eq_nil_iff.1 (List.forall₂_nil_right_iff.1 hps))
        (Option.toList_eq_nil_iff.1 (List.forall₂_nil_right_iff.1 hqs))

theorem asks_of_likeness {f : Field} {v : Json} {cs : List Condition}
    (hsingle : f.isArray = false) (hplain : f.type ≠ .json) (hscalar : v.IsScalar)
    (h : f.likeness v = .ok cs) : f.Asks v cs := by
  obtain ⟨p, hp, h⟩ := Outcome.bind_eq_ok_iff.1 h
  split at h
  · rename_i hexact
    obtain rfl := Except.ok.inj h
    exact .equals hsingle hplain hscalar (by simpa using hexact) hp
  · rename_i hfree
    obtain rfl := Except.ok.inj h
    simp only [Bool.or_eq_true, not_or, Bool.not_eq_true, Option.isSome_eq_false_iff,
      Option.isNone_iff_eq_none, bne_eq_false_iff_eq] at hfree
    exact .like hsingle hscalar hfree.1 hfree.2 hp

/-- Whatever conditions a field derives from a value are those that the value asks for. -/
theorem asks_of_conditions {f : Field} {v : Json} {cs : List Condition}
    (h : f.conditions v = .ok cs) : f.Asks v cs := by
  unfold conditions at h
  split at h
  · rename_i harray
    exact asks_of_elementConditions harray h
  · rename_i harray
    have hsingle : f.isArray = false := Bool.not_eq_true _ ▸ harray
    cases v with
    | null =>
      obtain rfl := Except.ok.inj h
      exact .null hsingle
    | array vs =>
      simp only at h
      split at h
      · rename_i hjson
        obtain rfl := Except.ok.inj h
        exact .textLike hsingle hjson (by simp)
      · rename_i hplain
        cases vs with
        | nil =>
          obtain rfl := Except.ok.inj h
          exact .never hsingle hplain
        | cons v vs =>
          obtain ⟨ps, hps, h⟩ := Outcome.bind_eq_ok_iff.1 h
          obtain rfl := Except.ok.inj h
          exact .oneOf hsingle hplain (Outcome.mapM_eq_ok_iff.1 hps)
    | object members =>
      simp only at h
      split at h
      · rename_i hjson
        obtain rfl := Except.ok.inj h
        exact .textLike hsingle hjson (by simp)
      · exact asks_of_range hsingle h
    | bool | number | string =>
      simp only at h
      split at h
      · rename_i hjson
        obtain rfl := Except.ok.inj h
        exact .textLike hsingle hjson (by simp)
      · rename_i hplain
        exact asks_of_likeness hsingle hplain trivial h

end Field

/-! ## Tables -/

/-- A field with the value that a payload has for it and the conditions that the value asks. -/
structure Asked where
  field : Field
  value : Json
  conditions : List Condition

namespace Asked

def predicates (t : Table) (a : Asked) : List Predicate :=
  a.conditions.map fun c ↦ ⟨t.columnOf a.field, c⟩

end Asked

namespace Table

/-- The fields that a payload has values for, in the order of declaration, each with the
conditions that its value asks. -/
structure Asks (t : Table) (payload : Json) (asked : List Asked) : Prop where
  present : asked.map (fun a ↦ (a.field, a.value)) = t.fields.filterMap (Field.present? payload)
  asks : ∀ a ∈ asked, a.field.Asks a.value a.conditions

def AsksFor (t : Table) (payload : Json) (ps : List Predicate) : Prop :=
  ∃ asked, t.Asks payload asked ∧ ps = asked.flatMap (Asked.predicates t)

/-- Fields without a value in the payload have an empty group, the others one that is asked. -/
theorem asked_of_fieldPredicates {t : Table} {payload : Json} {fs : List Field}
    {groups : List (List Predicate)}
    (h : List.Forall₂ (fun f g ↦ t.fieldPredicates payload f = .ok g) fs groups) :
    ∃ asked : List Asked,
      asked.map (fun a ↦ (a.field, a.value)) = fs.filterMap (Field.present? payload) ∧
      (∀ a ∈ asked, a.field.Asks a.value a.conditions) ∧
      groups.flatten = asked.flatMap (Asked.predicates t) := by
  induction h with
  | nil => exact ⟨[], rfl, by simp, rfl⟩
  | @cons f g fs groups hg _ ih =>
    obtain ⟨asked, hpresent, hasks, hflat⟩ := ih
    unfold fieldPredicates at hg
    split at hg
    · rename_i hnone
      obtain rfl := Except.ok.inj hg
      refine ⟨asked, ?_, hasks, by simpa using hflat⟩
      rw [List.filterMap_cons_none (by simp [Field.present?, hnone]), hpresent]
    · rename_i v hsome
      obtain ⟨cs, hcs, hg⟩ := Outcome.bind_eq_ok_iff.1 hg
      obtain rfl := Except.ok.inj hg
      refine ⟨⟨f, v, cs⟩ :: asked, ?_, ?_, ?_⟩
      · rw [List.filterMap_cons_some (b := (f, v)) (by simp [Field.present?, hsome]),
          List.map_cons, hpresent]
      · exact List.forall_mem_cons.2 ⟨Field.asks_of_conditions hcs, hasks⟩
      · rw [List.flatten_cons, hflat, List.flatMap_cons]
        rfl

theorem asksFor_of_predicates {t : Table} {payload : Json} {ps : List Predicate}
    (h : t.predicates payload = .ok ps) :
    ∃ members, payload = .object members ∧ t.AsksFor payload ps := by
  unfold predicates at h
  split at h
  · rename_i members
    split at h
    · rename_i groups hgroups
      obtain rfl := Except.ok.inj h
      obtain ⟨asked, hpresent, hasks, hflat⟩ :=
        asked_of_fieldPredicates (Outcome.mapM_eq_ok_iff.1 hgroups)
      exact ⟨members, rfl, asked, ⟨hpresent, hasks⟩, hflat⟩
    · cases h
  · cases h

end Table

/-! ## Plans -/

namespace JoinPlan

/-- The predicates that a payload asks of a joined table: none unless it has an object under the
name of the join. -/
def JoinAsks (payload : Json) (j : Join) (ps : List Predicate) : Prop :=
  match payload.get? j.name with
  | none => ps = []
  | some part => ∃ members, part = .object members ∧ j.table.AsksFor part ps

/-- The groups of predicates that a payload asks for, the first table's before those of the
joins. -/
inductive Asks (p : JoinPlan) : Option Json → List (List Predicate) → Prop where
  | absent : p.Asks none []
  | null : p.Asks (some .null) []
  | payload {members root joined} (root_asks : p.schema.AsksFor (.object members) root)
      (joins_ask : List.Forall₂ (JoinAsks (.object members)) p.schema.joins joined) :
      p.Asks (some (.object members)) (root :: joined)

theorem joinAsks_of_joinPredicates {payload : Json} {j : Join} {ps : List Predicate}
    (h : joinPredicates payload j = .ok ps) : JoinAsks payload j ps := by
  unfold joinPredicates at h
  unfold JoinAsks
  split at h
  · rename_i hnone
    rw [hnone]
    exact (Except.ok.inj h).symm
  · rename_i members hsome
    obtain ⟨_, _, hasks⟩ := Table.asksFor_of_predicates h
    rw [hsome]
    exact ⟨members, rfl, hasks⟩
  · cases h

theorem asks_of_predicateGroups {p : JoinPlan} {payload : Option Json}
    {groups : List (List Predicate)} (h : p.predicateGroups payload = .ok groups) :
    p.Asks payload groups := by
  unfold predicateGroups at h
  split at h
  · obtain rfl := Except.ok.inj h
    exact .absent
  · obtain rfl := Except.ok.inj h
    exact .null
  · obtain ⟨root, hroot, h⟩ := Outcome.bind_eq_ok_iff.1 h
    obtain ⟨joined, hjoined, h⟩ := Outcome.bind_eq_ok_iff.1 h
    obtain rfl := Except.ok.inj h
    obtain ⟨members, rfl, hasks⟩ := Table.asksFor_of_predicates hroot
    exact .payload hasks
      ((Outcome.mapM_eq_ok_iff.1 hjoined).imp fun _ _ ↦ joinAsks_of_joinPredicates)

end JoinPlan

end SchemaSql
