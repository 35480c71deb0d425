import SchemaSql.Proofs.Query.Asking
import SchemaSql.Proofs.Sql.Segment

/-!
# The text of predicates and filters

The segments of the text that predicates are written in: one for each predicate with its values,
and between them texts without slots. Predicates of a group stand in their order, so do groups,
and those of a search stand before those of a filter. The clauses that are made of predicates are
cut into exactly these segments.
-/

namespace SchemaSql

/-! ## Columns -/

namespace Identifier

/-- The characters of a name are those that may begin or continue one. -/
theorem not_mem_text {c : Char} (hstart : startsName c = false)
    (hcontinue : continuesName c = false) (i : Identifier) : c ∉ i.text.toList := by
  obtain ⟨d, ds, htext, hd, hds⟩ := fault?_eq_none_iff.1 i.faultless
  rw [htext]
  intro hmem
  rcases List.mem_cons.1 hmem with rfl | hmem
  · exact Bool.false_ne_true (hstart.symm.trans hd)
  · exact Bool.false_ne_true (hcontinue.symm.trans (hds c hmem))

theorem question_not_mem_quoted (i : Identifier) : '?' ∉ i.quoted.toList := by
  simpa [quoted] using not_mem_text (c := '?') (by decide) (by decide) i

theorem question_not_mem_dotted (a b : Identifier) : '?' ∉ (dotted a b).toList := by
  rw [dotted, String.toList_append, String.toList_append, List.mem_append, List.mem_append]
  rintro ((h | h) | h)
  · exact question_not_mem_quoted a h
  · revert h
    decide
  · exact question_not_mem_quoted b h

end Identifier

namespace Predicate

def OnColumn (p : Predicate) : Prop :=
  ∃ table column : Identifier, p.column = Identifier.dotted table column

theorem onColumn_of_asksFor {t : Table} {payload : Json} {ps : List Predicate}
    (h : t.AsksFor payload ps) : ∀ p ∈ ps, p.OnColumn := by
  obtain ⟨asked, _, rfl⟩ := h
  intro p hp
  obtain ⟨a, _, hp⟩ := List.mem_flatMap.1 hp
  obtain ⟨c, _, rfl⟩ := List.mem_map.1 hp
  exact ⟨t.name, a.field.column, rfl⟩

/-! ## Predicates -/

def segment (p : Predicate) : Segment :=
  .ofTemplate p.template p.values

variable {p : Predicate} {column : String}

open Segment (Cut)

theorem cut_slot (v : Param) : Cut Template.slot.toList [v] [.value v] where
  separate := Template.separate_slot
  cells_eq := Template.cells_slot
  values_eq := rfl
  fits := by simpa using Segment.fits_value v

theorem cut_slots (vs : List Param) :
    Cut (", ".toList.intercalate (vs.map fun _ ↦ Template.slot.toList)) vs
      ([Segment.text ", "].intercalate (vs.map fun v ↦ [.value v])) := by
  have h := Cut.intercalate ", " (by decide) fun v (_ : v ∈ vs) ↦ cut_slot v
  simpa using h

def parts (p : Predicate) : List Segment :=
  match p.condition with
  | .element value => [.value value, .text " = ANY(", .text p.column, .text ")"]
  | .isNull => [.text p.column, .text " IS NULL"]
  | .like pattern => [.text p.column, .text " ILIKE ", .value (.text pattern)]
  | .textLike pattern => [.text p.column, .text "::text ILIKE ", .value (.text pattern)]
  | .atLeast bound => [.text p.column, .text ">=", .value bound]
  | .atMost bound => [.text p.column, .text "<=", .value bound]
  | .oneOf values =>
    [.text p.column, .text " IN ("] ++
      [Segment.text ", "].intercalate (values.map fun v ↦ [.value v]) ++ [.text ")"]
  | .never => [.text "1=0"]
  | .equals value => [.text p.column, .text "=", .value value]

/-- A column that is compared with one value, by a text between them. -/
theorem cut_comparison {column : String} (hcolumn : '?' ∉ column.toList) (sign : String)
    (hsign : '?' ∉ sign.toList) (v : Param) :
    Cut (column ++ sign ++ Template.slot).toList [v] [.text column, .text sign, .value v] := by
  have hstart := (Cut.text column hcolumn).append (Cut.text sign hsign)
  simpa using hstart.append (cut_slot v)

theorem cut_parts (h : p.OnColumn) : Cut p.template.toList p.values p.parts := by
  obtain ⟨column, condition⟩ := p
  have hquestion : '?' ∉ column.toList := by
    obtain ⟨a, b, rfl⟩ := h
    exact Identifier.question_not_mem_dotted a b
  have hcolumn := Cut.text column hquestion
  cases condition with
  | element value =>
    have h := (cut_slot value).append (Cut.text " = ANY(" (by decide))
    simpa [template, values, parts] using
      (h.append hcolumn).append (Cut.text ")" (by decide))
  | isNull =>
    simpa [template, values, parts] using hcolumn.append (Cut.text " IS NULL" (by decide))
  | like pattern => exact cut_comparison hquestion " ILIKE " (by decide) (.text pattern)
  | textLike pattern =>
    exact cut_comparison hquestion "::text ILIKE " (by decide) (.text pattern)
  | atLeast bound => exact cut_comparison hquestion ">=" (by decide) bound
  | atMost bound => exact cut_comparison hquestion "<=" (by decide) bound
  | oneOf vs =>
    have h := hcolumn.append (Cut.text " IN (" (by decide))
    simpa [template, values, parts, List.map_map, Function.comp_def] using
      (h.append (cut_slots vs)).append (Cut.text ")" (by decide))
  | never => exact Cut.text "1=0" (by decide)
  | equals value => exact cut_comparison hquestion "=" (by decide) value

/-- The segment of a predicate has a value for each of its slots. -/
theorem cut_segment (h : p.OnColumn) : Cut p.template.toList p.values [p.segment] := by
  have hparts := cut_parts h
  have hcells : Segment.cellsOf [p.segment] = Segment.cellsOf p.parts := by
    rw [← hparts.cells_eq]
    simp [Segment.cellsOf, segment, Segment.ofTemplate]
  have hvalues : p.values = Segment.valuesOf [p.segment] := by
    simp [Segment.valuesOf, segment, Segment.ofTemplate]
  refine ⟨hparts.separate, by rw [hparts.cells_eq, hcells], hvalues, ?_⟩
  intro g hg
  rw [List.mem_singleton.1 hg]
  have hcount := Segment.count_none_cellsOf hparts.fits
  rw [← hparts.cells_eq, ← hparts.values_eq] at hcount
  exact hcount

/-! ## Groups of predicates -/

/-- Predicates with the word of their combinator between two of them. -/
def segments (combinator : Combinator) (ps : List Predicate) : List Segment :=
  [Segment.text combinator.separator].intercalate (ps.map fun p ↦ [p.segment])

def parenthesized (gs : List Segment) : List Segment :=
  [.text "("] ++ gs ++ [.text ")"]

/-- Groups with the word of their combinator between two of them. Of more than one, each is put in
parentheses. -/
def groupSegments (combinator : Combinator) (groups : List (List Predicate)) : List Segment :=
  let present := groups.filter fun g ↦ !g.isEmpty
  if present = [] then [.text Combinator.empty]
  else
    [Segment.text combinator.separator].intercalate
      (present.map fun g ↦
        if 1 < present.length then parenthesized (segments combinator g)
        else segments combinator g)

/-- Some predicate of the search, and every one of the filter. -/
def filterSegments (search filter : List (List Predicate)) : List Segment :=
  parenthesized (groupSegments .or search) ++ [.text (Combinator.separator .and)] ++
    parenthesized (groupSegments .and filter)

/-! ### Values -/

theorem valuesOf_segments (combinator : Combinator) (ps : List Predicate) :
    Segment.valuesOf (segments combinator ps) = ps.flatMap values := by
  rw [segments, Segment.valuesOf_intercalate, List.flatMap_map]
  simp [Segment.valuesOf, segment, Segment.ofTemplate]

theorem valuesOf_parenthesized (gs : List Segment) :
    Segment.valuesOf (parenthesized gs) = Segment.valuesOf gs := by
  simp [parenthesized, Segment.valuesOf, Segment.text]

/-- Groups without predicates are left out, together with their values, of which there are none. -/
theorem valuesOf_groupSegments (combinator : Combinator) (groups : List (List Predicate)) :
    Segment.valuesOf (groupSegments combinator groups) = groups.flatten.flatMap values := by
  have hflatten : groups.flatten = (groups.filter fun g ↦ !g.isEmpty).flatten :=
    (List.flatten_filter_not_isEmpty).symm
  rw [hflatten]
  unfold groupSegments
  generalize groups.filter (fun g ↦ !g.isEmpty) = present
  by_cases hnone : present = []
  · simp [hnone, Segment.valuesOf, Segment.text]
  · have hgroup (g : List Predicate) :
        Segment.valuesOf (if 1 < present.length then parenthesized (segments combinator g)
          else segments combinator g) = g.flatMap values := by
      split
      · rw [valuesOf_parenthesized, valuesOf_segments]
      · rw [valuesOf_segments]
    simp only [hnone, if_false]
    rw [Segment.valuesOf_intercalate, List.flatMap_map, ← List.flatMap_id, List.flatMap_assoc]
    simp only [hgroup, id]

/-- The values of a search come before those of a filter. -/
theorem valuesOf_filterSegments (search filter : List (List Predicate)) :
    Segment.valuesOf (filterSegments search filter) =
      search.flatten.flatMap values ++ filter.flatten.flatMap values := by
  rw [filterSegments, Segment.valuesOf_append, Segment.valuesOf_append, valuesOf_parenthesized,
    valuesOf_parenthesized, valuesOf_groupSegments, valuesOf_groupSegments]
  simp [Segment.valuesOf, Segment.text]

end Predicate

/-! ## Clauses -/

namespace Clause

theorem fillPattern_identity (fragment : String) :
    fillPattern Template.identity fragment = fragment := by
  rw [fillPattern, Template.fill_identity, String.ofList_toList]

/-- A clause is its fragments in a pattern, with its separator between two of them. -/
theorem toList_templateAs {c : Clause} (pattern : String) (hfragments : c.fragments ≠ []) :
    (c.templateAs pattern).toList =
      c.separator.toList.intercalate
        (c.fragments.map fun f ↦ (fillPattern pattern f).toList) := by
  have hsome : ¬c.fragments.isEmpty = true := by simpa using hfragments
  rw [templateAs, isEmpty, if_neg hsome, String.toList_intercalate, List.map_map]
  rfl

theorem toList_template {c : Clause} (hpattern : c.pattern = Template.identity)
    (hfragments : c.fragments ≠ []) :
    c.template.toList = c.separator.toList.intercalate (c.fragments.map String.toList) := by
  rw [template, hpattern, toList_templateAs Template.identity hfragments]
  simp only [fillPattern_identity]

end Clause

namespace Predicate

open Segment (Cut)

theorem question_not_mem_separator (combinator : Combinator) :
    '?' ∉ combinator.separator.toList := by
  cases combinator <;> decide

theorem cut_parenthesized {template : String} {vs : List Param} {gs : List Segment}
    (h : Cut template.toList vs gs) :
    Cut (JoinPlan.parenthesized template).toList vs (parenthesized gs) := by
  have hopen := (Cut.text "(" (by decide)).append h
  simpa [JoinPlan.parenthesized, parenthesized] using hopen.append (Cut.text ")" (by decide))

theorem cut_clause (combinator : Combinator) {ps : List Predicate} (hps : ps ≠ [])
    (h : ∀ p ∈ ps, p.OnColumn) :
    Cut (clause combinator ps).template.toList (clause combinator ps).values
      (segments combinator ps) := by
  have hcut := Cut.intercalate combinator.separator (question_not_mem_separator combinator)
    fun p hp ↦ cut_segment (h p hp)
  rw [Clause.toList_template rfl (by simpa only [clause, ne_eq, List.map_eq_nil_iff] using hps)]
  simpa only [clause, segments, List.map_map, Function.comp_def] using hcut

/-- The fragments of groups that are not empty, each of them alone or in parentheses. -/
theorem fragments_groupClause (combinator : Combinator) (groups : List (List Predicate)) :
    (JoinPlan.groupClause combinator groups).fragments =
      (groups.filter fun g ↦ !g.isEmpty).map fun g ↦
        if 1 < (groups.filter fun g ↦ !g.isEmpty).length then
          JoinPlan.parenthesized (clause combinator g).template
        else (clause combinator g).template := by
  simp only [JoinPlan.groupClause, List.length_map]
  split <;> simp

theorem onColumn_of_present {groups : List (List Predicate)}
    (h : ∀ g ∈ groups, ∀ p ∈ g, p.OnColumn) :
    ∀ g ∈ groups.filter (fun g ↦ !g.isEmpty), g ≠ [] ∧ ∀ p ∈ g, p.OnColumn := by
  intro g hg
  obtain ⟨hmem, hne⟩ := List.mem_filter.1 hg
  exact ⟨by simpa using hne, h g hmem⟩

theorem cut_groupClause (combinator : Combinator) {groups : List (List Predicate)}
    (h : ∀ g ∈ groups, ∀ p ∈ g, p.OnColumn) :
    Cut (JoinPlan.groupClause combinator groups).template.toList
      (JoinPlan.groupClause combinator groups).values (groupSegments combinator groups) := by
  have hfragments := fragments_groupClause combinator groups
  have hvalues : (JoinPlan.groupClause combinator groups).values =
      (groups.filter fun g ↦ !g.isEmpty).flatMap fun g ↦ (clause combinator g).values := by
    simp [JoinPlan.groupClause, List.flatMap_map]
  have hpresent := onColumn_of_present h
  rw [hvalues]
  unfold groupSegments
  generalize groups.filter (fun g ↦ !g.isEmpty) = present at hfragments hpresent ⊢
  by_cases hnone : present = []
  · subst hnone
    rw [Clause.template, Clause.templateAs, Clause.isEmpty, hfragments]
    exact Cut.text Combinator.empty (by decide)
  · rw [Clause.toList_template rfl (by simpa [hfragments] using hnone), hfragments,
      List.map_map]
    simp only [hnone, if_false]
    apply Cut.intercalate combinator.separator (question_not_mem_separator combinator)
    intro g hg
    have hg := cut_clause combinator (hpresent g hg).1 (hpresent g hg).2
    dsimp only [Function.comp_apply]
    split
    · exact cut_parenthesized hg
    · exact hg

end Predicate

namespace JoinPlan

open Segment (Cut)

theorem onColumn_of_joinsAsk {payload : Json} {joins : List Join}
    {groups : List (List Predicate)} (h : List.Forall₂ (JoinAsks payload) joins groups) :
    ∀ g ∈ groups, ∀ q ∈ g, q.OnColumn := by
  induction h with
  | nil => simp
  | @cons j g joins groups hj _ ih =>
    refine List.forall_mem_cons.2 ⟨?_, ih⟩
    unfold JoinAsks at hj
    split at hj
    · simp [hj]
    · obtain ⟨_, _, hasks⟩ := hj
      exact Predicate.onColumn_of_asksFor hasks

theorem onColumn_of_asks {p : JoinPlan} {payload : Option Json}
    {groups : List (List Predicate)} (h : p.Asks payload groups) :
    ∀ g ∈ groups, ∀ q ∈ g, q.OnColumn := by
  cases h with
  | absent => simp
  | null => simp
  | payload root_asks joins_ask =>
    exact List.forall_mem_cons.2
      ⟨Predicate.onColumn_of_asksFor root_asks, onColumn_of_joinsAsk joins_ask⟩

/-- The clause of a search and a filter comes from the predicates that both ask for, and it is cut
into their segments. -/
theorem cut_filter {p : JoinPlan} {filter search : Option Json} {c : Clause}
    (h : p.filter filter search = .ok c) :
    ∃ sought required, p.predicateGroups search = .ok sought ∧
      p.predicateGroups filter = .ok required ∧
      Cut c.template.toList c.values (Predicate.filterSegments sought required) := by
  obtain ⟨_, hsearch, h⟩ := Outcome.bind_eq_ok_iff.1 h
  obtain ⟨_, hfilter, h⟩ := Outcome.bind_eq_ok_iff.1 h
  obtain ⟨sought, hsought, hsearch⟩ := Outcome.bind_eq_ok_iff.1 hsearch
  obtain ⟨required, hrequired, hfilter⟩ := Outcome.bind_eq_ok_iff.1 hfilter
  obtain rfl := Except.ok.inj hsearch
  obtain rfl := Except.ok.inj hfilter
  obtain rfl := Except.ok.inj h
  refine ⟨sought, required, hsought, hrequired, ?_⟩
  have hleft := Predicate.cut_parenthesized (Predicate.cut_groupClause .or
    (onColumn_of_asks (asks_of_predicateGroups hsought)))
  have hright := Predicate.cut_parenthesized (Predicate.cut_groupClause .and
    (onColumn_of_asks (asks_of_predicateGroups hrequired)))
  have hand := Cut.text (Combinator.separator .and) (by decide)
  rw [Clause.toList_template rfl (by simp)]
  simpa [Predicate.filterSegments] using (hleft.append hand).append hright

end JoinPlan

end SchemaSql
