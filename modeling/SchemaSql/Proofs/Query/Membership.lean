import SchemaSql.Proofs.Query.Asking
import SchemaSql.Proofs.Query.Selection

/-!
# Membership in lists

A payload may have a list of values for a field that is compared by equality. What is selected for
the list is what is selected for some value of it, as far as these values are not null: null by
itself asks for the absence of a value, but in a list it is compared like any other value, and so it
matches nothing.
-/

namespace SchemaSql

namespace Field

/-- Fields whose values are compared by equality. -/
structure IsCompared (f : Field) : Prop where
  single : f.isArray = false
  plain : f.type ≠ .json
  exact : f.options.isSome = true ∨ f.type ≠ .string

variable {f : Field}

theorem coerceScalar_null {p : Param} (h : f.coerceScalar .null = .ok p) : p = .null := by
  rw [coerceScalar, if_pos (show Json.null.isNull = true from rfl)] at h
  split at h
  · exact (Except.ok.inj h).symm
  · cases h

namespace IsCompared

variable (h : f.IsCompared)
include h

theorem conditions_null : f.conditions .null = .ok [.isNull] := by
  simp [conditions, h.single]

theorem conditions_scalar {v : Json} (hv : v.IsScalar) {p : Param}
    (hp : f.coerceScalar v = .ok p) : f.conditions v = .ok [.equals p] := by
  have hexact : (f.options.isSome || f.type != .string) = true := by simpa using h.exact
  have hlikeness : f.likeness v = .ok [.equals p] := by
    rw [likeness, hp]
    simp [hexact, bind, Except.bind, pure, Except.pure]
  cases v with
  | null | array | object => cases hv
  | bool | number | string => simpa [conditions, h.single, h.plain] using hlikeness

/-- A list asks that the value is equal to one of its coerced elements. -/
theorem conditions_array {vs : List Json} {cs : List Condition}
    (hcs : f.conditions (.array vs) = .ok cs) :
    ∃ ps c, f.Coerces vs ps ∧ cs = [c] ∧ c ≠ .oneOf [] ∧
      ∀ fold x, c.truth? fold x = some (.any (ps.map (Condition.relate Condition.isEqual x))) := by
  cases asks_of_conditions hcs with
  | elements harray => cases h.single.symm.trans harray
  | textLike _ hjson => exact absurd hjson h.plain
  | equals _ _ hscalar => cases hscalar
  | like _ hscalar => cases hscalar
  | never => exact ⟨[], .never, .nil, rfl, by simp, fun _ _ ↦ rfl⟩
  | @oneOf v vs ps _ _ hps =>
    refine ⟨ps, .oneOf ps, hps, rfl, ?_, fun _ _ ↦ rfl⟩
    rintro ⟨⟩
    cases hps

end IsCompared

end Field

namespace Table

variable {t : Table} {f : Field}

section

variable (ht : t.Declared) (hf : f ∈ t.fields) (h : f.IsCompared) (combinator : Combinator)
include ht hf h

/-- Null selects the rows without a value. -/
theorem selects_null :
    ∃ d, t.whereClause (.object [(f.name, .null)]) combinator = .ok d ∧
      ∀ fold row, d.Selects fold row ↔ t.datum? f row = none := by
  obtain ⟨d, hd, _, hselects⟩ :=
    exists_selects_of_conditions ht hf h.conditions_null (by simp) combinator
  refine ⟨d, hd, fun fold row ↦ ?_⟩
  rw [hselects]
  simp [Condition.truth?]

/-- A scalar value selects the rows whose value equals it. -/
theorem selects_scalar {v : Json} (hv : v.IsScalar) {p : Param} (hp : f.coerceScalar v = .ok p) :
    ∃ d, t.whereClause (.object [(f.name, v)]) combinator = .ok d ∧
      ∀ fold row, d.Selects fold row ↔
        Condition.relate Condition.isEqual (t.datum? f row) p = .yes := by
  obtain ⟨d, hd, _, hselects⟩ :=
    exists_selects_of_conditions ht hf (h.conditions_scalar hv hp) (by simp) combinator
  refine ⟨d, hd, fun fold row ↦ ?_⟩
  rw [hselects]
  simp [Condition.truth?]

/-- A list selects the rows whose value equals one of its elements. -/
theorem selects_array {vs : List Json} {c : Clause}
    (hc : t.whereClause (.object [(f.name, .array vs)]) combinator = .ok c) :
    ∃ ps, f.Coerces vs ps ∧ ∀ fold row, c.Selects fold row ↔
      ∃ p ∈ ps, Condition.relate Condition.isEqual (t.datum? f row) p = .yes := by
  cases hcs : f.conditions (.array vs) with
  | error e =>
    rw [whereClause_singleton ht hf, hcs] at hc
    cases hc
  | ok cs =>
    obtain ⟨ps, k, hps, rfl, hlist, htruth⟩ := h.conditions_array hcs
    obtain ⟨d, hd, _, hselects⟩ := exists_selects_of_conditions ht hf hcs hlist combinator
    obtain rfl := Except.ok.inj (hc.symm.trans hd)
    refine ⟨ps, hps, fun fold row ↦ ?_⟩
    rw [hselects, htruth, Option.some.injEq, Truth.any_eq_yes_iff, List.mem_map]

end

/-- A list for which there is a clause selects the rows that some value of it selects by itself, null
left aside; so it selects what its values select, null among them, exactly if null is none of
them. -/
theorem membership_union (ht : t.Declared) (hf : f ∈ t.fields) (h : f.IsCompared)
    {vs : List Json} (hvs : ∀ v ∈ vs, v = .null ∨ v.IsScalar) {combinator : Combinator}
    {c : Clause} (hc : t.whereClause (.object [(f.name, .array vs)]) combinator = .ok c) :
    (∀ v ∈ vs, ∃ d, t.whereClause (.object [(f.name, v)]) combinator = .ok d) ∧
      (∀ fold row, c.Selects fold row ↔
        ∃ v ∈ vs, v ≠ .null ∧
          ∃ d, t.whereClause (.object [(f.name, v)]) combinator = .ok d ∧ d.Selects fold row) ∧
      ((∀ fold row, c.Selects fold row ↔
          ∃ v ∈ vs, ∃ d, t.whereClause (.object [(f.name, v)]) combinator = .ok d ∧
            d.Selects fold row) ↔
        .null ∉ vs) := by
  obtain ⟨ps, hps, hselects⟩ := selects_array ht hf h combinator hc
  obtain ⟨n, hn, hnull⟩ := selects_null ht hf h combinator
  have hscalar {v : Json} (hv : v ∈ vs) (hgiven : v ≠ .null) : v.IsScalar :=
    (hvs v hv).resolve_left hgiven
  have hunion (fold : Char → Char) (row : Tuple) : c.Selects fold row ↔
      ∃ v ∈ vs, v ≠ .null ∧
        ∃ d, t.whereClause (.object [(f.name, v)]) combinator = .ok d ∧ d.Selects fold row := by
    rw [hselects]
    constructor
    · rintro ⟨p, hp, hyes⟩
      obtain ⟨v, hv, hcoerced⟩ := Outcome.exists_mem_of_forall₂ hps.flip hp
      have hgiven : v ≠ .null := by
        rintro rfl
        rw [Field.coerceScalar_null hcoerced] at hyes
        obtain ⟨_, _, _, hp, _⟩ := Condition.relate_eq_yes_iff.1 hyes
        cases hp
      obtain ⟨d, hd, hequal⟩ := selects_scalar ht hf h combinator (hscalar hv hgiven) hcoerced
      exact ⟨v, hv, hgiven, d, hd, (hequal fold row).2 hyes⟩
    · rintro ⟨v, hv, hgiven, d, hd, hrow⟩
      obtain ⟨p, hp, hcoerced⟩ := Outcome.exists_mem_of_forall₂ hps hv
      obtain ⟨e, he, hequal⟩ := selects_scalar ht hf h combinator (hscalar hv hgiven) hcoerced
      obtain rfl := Except.ok.inj (hd.symm.trans he)
      exact ⟨p, hp, (hequal fold row).1 hrow⟩
  refine ⟨?_, hunion, ?_⟩
  · intro v hv
    rcases hvs v hv with rfl | hv'
    · exact ⟨n, hn⟩
    · obtain ⟨p, _, hcoerced⟩ := Outcome.exists_mem_of_forall₂ hps hv
      obtain ⟨d, hd, _⟩ := selects_scalar ht hf h combinator hv' hcoerced
      exact ⟨d, hd⟩
  · constructor
    · -- A row without a value is selected by null, but not by a list.
      intro hlaw hmem
      have hrow := (hlaw id fun _ _ ↦ none).2 ⟨.null, hmem, n, hn, (hnull _ _).2 rfl⟩
      obtain ⟨p, _, hyes⟩ := (hselects _ _).1 hrow
      cases hyes
    · intro hfree fold row
      rw [hunion]
      constructor
      · rintro ⟨v, hv, _, d, hd, hrow⟩
        exact ⟨v, hv, d, hd, hrow⟩
      · rintro ⟨v, hv, d, hd, hrow⟩
        exact ⟨v, hv, fun hv' ↦ hfree (hv' ▸ hv), d, hd, hrow⟩

/-- Members of one of two teams, or of neither. -/
theorem membership_union_members :
    ∃ c d e, Schema.members.whereClause (.object [("team_id", .array [.int 1, .int 2])]) .and =
        .ok c ∧
      Schema.members.whereClause (.object [("team_id", .int 1)]) .and = .ok d ∧
      Schema.members.whereClause (.object [("team_id", .int 2)]) .and = .ok e ∧
      ∀ fold row, c.Selects fold row ↔ d.Selects fold row ∨ e.Selects fold row := by
  have hcompared : (Field.plain ⟨"team_id", by decide⟩ .int).IsCompared :=
    ⟨rfl, by decide, .inr (by decide)⟩
  have hscalar : ∀ v ∈ [Json.int 1, .int 2], v = .null ∨ v.IsScalar := by
    intro v hv
    rcases List.mem_pair.1 hv with rfl | rfl <;> exact .inr trivial
  have hclause : Schema.members.whereClause
      (.object [("team_id", .array [.int 1, .int 2])]) .and = .ok _ := rfl
  obtain ⟨hall, hunion, _⟩ := membership_union Schema.members_declared.table_declared
    (.tail _ (.tail _ (.head _))) hcompared hscalar hclause
  obtain ⟨d, hd⟩ := hall (.int 1) (by simp)
  obtain ⟨e, he⟩ := hall (.int 2) (by simp)
  refine ⟨_, d, e, hclause, hd, he, fun fold row ↦ ?_⟩
  rw [hunion]
  constructor
  · rintro ⟨v, hv, _, k, hk, hrow⟩
    rcases List.mem_pair.1 hv with rfl | rfl
    · obtain rfl := Except.ok.inj (hd.symm.trans hk)
      exact .inl hrow
    · obtain rfl := Except.ok.inj (he.symm.trans hk)
      exact .inr hrow
  · rintro (hrow | hrow)
    · exact ⟨.int 1, by simp, by simp [Json.int], d, hd, hrow⟩
    · exact ⟨.int 2, by simp, by simp [Json.int], e, he, hrow⟩

/-- Albums on no label: null finds them, a list of null does not. -/
theorem null_lost_in_list :
    ∃ c d row, Table.albums.whereClause (.object [("label_id", .array [.null])]) .and = .ok c ∧
      Table.albums.whereClause (.object [("label_id", .null)]) .and = .ok d ∧
      d.Selects Char.toLower row ∧ ¬c.Selects Char.toLower row := by
  have hlist : Table.albums.whereClause (.object [("label_id", .array [.null])]) .and =
      .ok (Predicate.clause .and
        [⟨Identifier.dotted ⟨"albums", by decide⟩ ⟨"label_id", by decide⟩, .oneOf [.null]⟩]) := rfl
  have hnull : Table.albums.whereClause (.object [("label_id", .null)]) .and =
      .ok (Predicate.clause .and
        [⟨Identifier.dotted ⟨"albums", by decide⟩ ⟨"label_id", by decide⟩, .isNull⟩]) := rfl
  refine ⟨_, _, fun _ _ ↦ none, hlist, hnull, ?_, ?_⟩
  · rw [Clause.selects_singleton _ _ _ _ _ (by simp)]
    decide
  · rw [Clause.selects_singleton _ _ _ _ _ (by simp)]
    decide

end Table

end SchemaSql
