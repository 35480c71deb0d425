import SchemaSql.Proofs.Query.BooleanReading
import SchemaSql.Proofs.Query.Selection

/-!
# Payloads in parts

A payload asks what its parts ask: the payloads that have one key each, the name of a declared
field that it has a value for. The fields of the table come before those of the joins, each in the
order of declaration. The values of the whole are those of the parts one after another, and so are
the fragments that its text is put together from; where a part is refused, the whole is refused for
the first one that is. Nothing else in the payload, or in what it has for a join, matters.
-/

namespace SchemaSql

open BooleanText (tokens parse)

/-! ## Parts -/

namespace Table

/-- The clauses of the payloads that have the name of one declared field as their only key, for the
fields that a payload has values for. -/
def parts (t : Table) (combinator : Combinator) (payload : Json) : List (Except Error Clause) :=
  t.fields.filterMap fun f ↦
    (payload.get? f.name).map fun v ↦ t.whereClause (.object [(f.name, v)]) combinator

def Agree (t : Table) (a b : Json) : Prop :=
  ∀ f ∈ t.fields, a.get? f.name = b.get? f.name

end Table

namespace JoinPlan

/-- The parts of what a payload has for a join, which has to be an object. -/
def joinParts (combinator : Combinator) (payload : Json) (j : Join) :
    List (Except Error Clause) :=
  match payload.get? j.name with
  | none => []
  | some (.object members) => j.table.parts combinator (.object members)
  | some _ => [.error (.value ⟨j.name, .joinNotObject⟩)]

def parts (p : JoinPlan) (combinator : Combinator) (payload : Json) :
    List (Except Error Clause) :=
  p.schema.parts combinator payload ++ p.schema.joins.flatMap (joinParts combinator payload)

/-- Payloads that have the same for the fields of the table and for the joins, or for a join two
objects that have the same values for its fields. -/
def Agree (p : JoinPlan) (a b : Json) : Prop :=
  p.schema.toTable.Agree a b ∧ ∀ j ∈ p.schema.joins, a.get? j.name = b.get? j.name ∨
    ∃ ms ns, a.get? j.name = some (.object ms) ∧ b.get? j.name = some (.object ns) ∧
      j.table.Agree (.object ms) (.object ns)

end JoinPlan

/-! ## Predicates of parts -/

/-- What comes of parts: the predicates of their clauses, or the error of the first that fails, which
the part has wrapped. -/
inductive Gathers {ε : Type} (wrap : ε → Error) (combinator : Combinator) :
    List (Except Error Clause) → Except ε (List Predicate) → Prop where
  | ok (groups : List (List Predicate)) :
      Gathers wrap combinator (groups.map fun g ↦ .ok (Predicate.clause combinator g))
        (.ok groups.flatten)
  | error (groups : List (List Predicate)) (e : ε) (after : List (Except Error Clause)) :
      Gathers wrap combinator
        ((groups.map fun g ↦ .ok (Predicate.clause combinator g)) ++ .error (wrap e) :: after)
        (.error e)

namespace Gathers

variable {ε : Type} {wrap : ε → Error} {combinator : Combinator}

theorem append {xs ys : List (Except Error Clause)} {x y : Except ε (List Predicate)}
    (hx : Gathers wrap combinator xs x) (hy : Gathers wrap combinator ys y) :
    Gathers wrap combinator (xs ++ ys) (x.bind fun ps ↦ y.map fun qs ↦ ps ++ qs) := by
  cases hx with
  | error groups e after =>
    rw [List.append_assoc, List.cons_append]
    exact .error groups e (after ++ ys)
  | ok groups =>
    cases hy with
    | ok groups' =>
      have hok : Gathers wrap combinator _ _ := .ok (groups ++ groups')
      rwa [List.map_append, List.flatten_append] at hok
    | error groups' e after =>
      have herror : Gathers wrap combinator _ _ := .error (groups ++ groups') e after
      rwa [List.map_append, List.append_assoc] at herror

theorem mapM {α : Type} {parts : α → List (Except Error Clause)}
    {f : α → Except ε (List Predicate)} {as : List α}
    (h : ∀ a ∈ as, Gathers wrap combinator (parts a) (f a)) :
    Gathers wrap combinator (as.flatMap parts) ((as.mapM f).map List.flatten) := by
  induction as with
  | nil => exact .ok []
  | cons a as ih =>
    obtain ⟨ha, has⟩ := List.forall_mem_cons.1 h
    have hsplit : ((a :: as).mapM f).map List.flatten =
        (f a).bind fun ps ↦ ((as.mapM f).map List.flatten).map fun qs ↦ ps ++ qs := by
      rw [List.mapM_cons]
      cases f a with
      | error e => rfl
      | ok ps => cases as.mapM f <;> rfl
    rw [List.flatMap_cons, hsplit]
    exact ha.append (ih has)

theorem mapError {parts : List (Except Error Clause)} {x : Except ε (List Predicate)}
    (h : Gathers wrap combinator parts x) : Gathers id combinator parts (x.mapError wrap) := by
  cases h with
  | ok groups => exact .ok groups
  | error groups e after => exact .error groups (wrap e) after

theorem exists_of_ok {parts : List (Except Error Clause)} {ps : List Predicate}
    (h : Gathers wrap combinator parts (.ok ps)) :
    ∃ groups : List (List Predicate),
      parts = (groups.map (Predicate.clause combinator)).map .ok ∧ groups.flatten = ps := by
  cases h with
  | ok groups => exact ⟨groups, by rw [List.map_map, Function.comp_def], rfl⟩

theorem exists_of_error {parts : List (Except Error Clause)} {e : ε}
    (h : Gathers wrap combinator parts (.error e)) :
    ∃ (ds : List Clause) (after : List (Except Error Clause)),
      parts = ds.map .ok ++ .error (wrap e) :: after := by
  cases h with
  | error groups _ after =>
    exact ⟨groups.map (Predicate.clause combinator), after, by rw [List.map_map, Function.comp_def]⟩

end Gathers

namespace Table

variable {t : Table} (combinator : Combinator)

/-- A field gives its part the predicates that it gives the whole. -/
theorem gathers_fieldPredicates (ht : t.Declared) (payload : Json) {f : Field} (hf : f ∈ t.fields) :
    Gathers Error.value combinator
      ((payload.get? f.name).map fun v ↦
        t.whereClause (.object [(f.name, v)]) combinator).toList
      (t.fieldPredicates payload f) := by
  unfold fieldPredicates
  cases payload.get? f.name with
  | none => exact .ok []
  | some v =>
    have hclause := whereClause_singleton ht hf v combinator
    dsimp only
    rw [Option.map_some, Option.toList_some, hclause]
    cases f.conditions v with
    | error e => exact .error [] e []
    | ok cs =>
      have hok : Gathers Error.value combinator _ _ := .ok [cs.map fun c ↦ ⟨t.columnOf f, c⟩]
      rwa [List.flatten_singleton] at hok

theorem gathers_predicates (ht : t.Declared) (members : List (String × Json)) :
    Gathers id combinator (t.parts combinator (.object members))
      (t.predicates (.object members)) := by
  have hfields := Gathers.mapM fun f hf ↦
    gathers_fieldPredicates combinator ht (.object members) (f := f) hf
  have hpredicates : t.predicates (.object members) =
      ((t.fields.mapM (t.fieldPredicates (.object members))).map List.flatten).mapError
        Error.value := by
    rw [predicates]
    cases t.fields.mapM (t.fieldPredicates (.object members)) <;> rfl
  rw [hpredicates, parts, List.filterMap_eq_flatMap_toList]
  exact hfields.mapError

end Table

namespace JoinPlan

variable {p : JoinPlan} (combinator : Combinator)

theorem gathers_joinPredicates {j : Join} (hj : j.table.Declared) (payload : Json) :
    Gathers id combinator (joinParts combinator payload j) (joinPredicates payload j) := by
  unfold joinParts joinPredicates
  cases payload.get? j.name with
  | none => exact .ok []
  | some v =>
    cases v with
    | object members => exact Table.gathers_predicates combinator hj members
    | null | bool | number | string | array => exact .error [] _ []

theorem gathers_predicateGroups (hp : p.schema.Declared) (members : List (String × Json)) :
    Gathers id combinator (p.parts combinator (.object members))
      ((p.predicateGroups (some (.object members))).map List.flatten) := by
  have hroot := Table.gathers_predicates combinator hp.table_declared members
  have hjoins := Gathers.mapM fun j hj ↦
    gathers_joinPredicates combinator (hp.joins_declared j hj) (.object members)
  have hall := hroot.append hjoins
  have hgroups : (p.predicateGroups (some (.object members))).map List.flatten =
      (p.schema.predicates (.object members)).bind fun ps ↦
        ((p.schema.joins.mapM (joinPredicates (.object members))).map List.flatten).map
          fun qs ↦ ps ++ qs := by
    simp only [predicateGroups]
    cases p.schema.predicates (.object members) with
    | error e => rfl
    | ok root => cases p.schema.joins.mapM (joinPredicates (.object members)) <;> rfl
  rwa [hgroups]

end JoinPlan

/-! ## Fragments of parts -/

def Template.numberEach : Nat → List String → List (List Char)
  | _, [] => []
  | n, t :: ts => (numberFrom n t).1.toList :: numberEach (numberFrom n t).2 ts

/-- The templates of predicates are numbered into the texts of the predicates. -/
theorem Predicate.numberEach_templates {ps : List Predicate} (h : ∀ p ∈ ps, p.OnColumn) (n : Nat) :
    Template.numberEach n (ps.map template) = textsFrom n ps := by
  induction ps generalizing n with
  | nil => rfl
  | cons p ps ih =>
    obtain ⟨hp, hps⟩ := List.forall_mem_cons.1 h
    have hcount : (Template.cells p.template.toList).count none = p.values.length := by
      rw [(cut_segment hp).cells_eq, count_cellsOf_segment hp]
    rw [List.map_cons, Template.numberEach, Template.numberFrom_text, Template.numberFrom_next,
      String.toList_ofList, hcount, ih hps, textsFrom, textFrom]

/-- A clause that asks what others ask: it has their values, and its text, slots numbered from any
number on, combines the fragments that they have. -/
structure Clause.Collects (c : Clause) (combinator : Combinator) (parts : List Clause) : Prop where
  values_eq : c.values = parts.flatMap values
  reads (start : Nat) : ∃ ts e,
    tokens (c.renderFrom none start).1.toList = some ts ∧ parse ts = some e ∧
      List.Forall₂ (fun text atom ↦ tokens text = some atom)
        (Template.numberEach start (parts.flatMap fragments)) e.atoms ∧
      ∀ σ : Nat → Prop, e.Holds σ 0 ↔
        parts.flatMap fragments = [] ∨ combinator.Holds σ 0 (parts.flatMap fragments).length

/-- Groups of predicates collect the clauses of other groups of the same predicates. -/
theorem Predicate.collects_groupClause (combinator : Combinator)
    {groups others : List (List Predicate)} (h : ∀ g ∈ groups, ∀ p ∈ g, p.OnColumn)
    (hsame : groups.flatten = others.flatten) :
    (JoinPlan.groupClause combinator groups).Collects combinator
      (others.map (clause combinator)) := by
  have hcut := cut_groupClause combinator h
  have hfragments : (others.map (clause combinator)).flatMap Clause.fragments =
      groups.flatten.map template := by
    rw [hsame, List.map_flatten, List.flatMap_map]
    rfl
  have hflat : ∀ p ∈ groups.flatten, p.OnColumn := by
    intro p hp
    obtain ⟨g, hg, hp⟩ := List.mem_flatten.1 hp
    exact h g hg p hp
  constructor
  · rw [hcut.values_eq, valuesOf_groupSegments, hsame, List.flatMap_map, ← List.flatMap_id,
      List.flatMap_assoc]
    rfl
  · intro start
    obtain ⟨ts, e, hyields, _, he, hatoms, hholds⟩ := parses_groupSegments combinator h start
    have htext : ((JoinPlan.groupClause combinator groups).renderFrom none start).1.toList =
        Segment.textFrom start (groupSegments combinator groups) := by
      rw [Clause.renderFrom, Template.numberFrom_text, String.toList_ofList, Segment.textFrom,
        ← hcut.cells_eq]
      rfl
    refine ⟨ts, e, ?_, he, ?_, ?_⟩
    · rw [htext, hyields.tokens_eq]
    · rw [hfragments, numberEach_templates hflat]
      exact hatoms
    · intro σ
      rw [hholds, hfragments, List.map_eq_nil_iff, List.length_map]

/-! ## Payloads that agree -/

namespace Table

theorem predicates_congr {t : Table} {ms ns : List (String × Json)}
    (h : t.Agree (.object ms) (.object ns)) :
    t.predicates (.object ms) = t.predicates (.object ns) := by
  have hfields : t.fields.mapM (t.fieldPredicates (.object ms)) =
      t.fields.mapM (t.fieldPredicates (.object ns)) := by
    apply Outcome.mapM_congr
    intro f hf
    unfold fieldPredicates
    rw [h f hf]
  simp only [predicates, hfields]

end Table

namespace JoinPlan

variable {p : JoinPlan} {members others : List (String × Json)}

theorem predicateGroups_congr (h : p.Agree (.object members) (.object others)) :
    p.predicateGroups (some (.object members)) = p.predicateGroups (some (.object others)) := by
  have hjoins : p.schema.joins.mapM (joinPredicates (.object members)) =
      p.schema.joins.mapM (joinPredicates (.object others)) := by
    apply Outcome.mapM_congr
    intro j hj
    unfold joinPredicates
    rcases h.2 j hj with hsame | ⟨ms, ns, hms, hns, hagree⟩
    · rw [hsame]
    · rw [hms, hns]
      exact Table.predicates_congr hagree
  simp only [predicateGroups, Table.predicates_congr h.1, hjoins]

/-! ## The whole -/

/-- A payload is accepted if its parts are: what it asks for collects them. -/
theorem exists_collects_of_predicate (hp : p.schema.Declared) {combinator : Combinator} {c : Clause}
    (h : p.predicate (some (.object members)) combinator = .ok c) :
    ∃ ds : List Clause,
      p.parts combinator (.object members) = ds.map .ok ∧ c.Collects combinator ds := by
  obtain ⟨groups, hgroups, hclause⟩ := Outcome.bind_eq_ok_iff.1 h
  obtain rfl := Except.ok.inj hclause
  have hgathers := gathers_predicateGroups combinator hp members
  rw [hgroups] at hgathers
  obtain ⟨others, hparts, hflatten⟩ := hgathers.exists_of_ok
  have hcolumns := onColumn_of_asks (asks_of_predicateGroups hgroups)
  exact ⟨_, hparts, Predicate.collects_groupClause combinator hcolumns hflatten.symm⟩

/-- A payload is refused for the first of its parts that is. -/
theorem exists_error_of_predicate (hp : p.schema.Declared) {combinator : Combinator} {e : Error}
    (h : p.predicate (some (.object members)) combinator = .error e) :
    ∃ (ds : List Clause) (after : List (Except Error Clause)),
      p.parts combinator (.object members) = ds.map .ok ++ .error e :: after := by
  have hgroups : p.predicateGroups (some (.object members)) = .error e := by
    rcases Outcome.bind_eq_error_iff.1 h with hgroups | ⟨groups, _, hclause⟩
    · exact hgroups
    · cases hclause
  have hgathers := gathers_predicateGroups combinator hp members
  rw [hgroups] at hgathers
  exact hgathers.exists_of_error

/-- What a payload asks for is put together from what its parts ask for. It is accepted if each of
the parts is, and then it has their values and combines their fragments, in the order of the parts;
if it is refused, then for the first part that is. Payloads with the same values for the fields and
the joins ask for the same. -/
theorem predicate_collects_parts (hp : p.schema.Declared) (members : List (String × Json))
    (combinator : Combinator) :
    ((∃ c, p.predicate (some (.object members)) combinator = .ok c) ↔
      ∀ part ∈ p.parts combinator (.object members), ∃ d, part = .ok d) ∧
    (∀ c, p.predicate (some (.object members)) combinator = .ok c →
      ∃ ds : List Clause,
        p.parts combinator (.object members) = ds.map .ok ∧ c.Collects combinator ds) ∧
    (∀ e, p.predicate (some (.object members)) combinator = .error e →
      ∃ (ds : List Clause) (after : List (Except Error Clause)),
        p.parts combinator (.object members) = ds.map .ok ++ .error e :: after) ∧
    ∀ others, p.Agree (.object members) (.object others) →
      p.predicate (some (.object members)) combinator =
        p.predicate (some (.object others)) combinator := by
  refine ⟨⟨?_, ?_⟩, fun c ↦ exists_collects_of_predicate hp,
    fun e ↦ exists_error_of_predicate hp, ?_⟩
  · rintro ⟨c, hc⟩ part hpart
    obtain ⟨ds, hparts, _⟩ := exists_collects_of_predicate hp hc
    rw [hparts] at hpart
    obtain ⟨d, _, rfl⟩ := List.mem_map.1 hpart
    exact ⟨d, rfl⟩
  · intro hall
    cases hpredicate : p.predicate (some (.object members)) combinator with
    | ok c => exact ⟨c, rfl⟩
    | error e =>
      obtain ⟨ds, after, hparts⟩ := exists_error_of_predicate hp hpredicate
      obtain ⟨d, hd⟩ := hall (.error e) (by simp [hparts])
      cases hd
  · intro others hagree
    rw [predicate, predicate, predicateGroups_congr hagree]

/-- Members with one of two keys, whose team has some title; of shirts nothing is declared. With a
key that is none, the title is never looked at. -/
theorem predicate_collects_parts_members :
    (∃ c ds, (ofSchema .members none).predicate
        (some (.object [("team", .object [("title", .string "red")]), ("shirt", .bool true),
          ("id", .array [.int 1, .int 2])])) .and = .ok c ∧
      c.render none =
        "(\"members\".\"id\" IN ($1, $2)) AND (\"teams\".\"title\" ILIKE $3)" ∧
      ds.map (fun d ↦ d.render none) =
        ["\"members\".\"id\" IN ($1, $2)", "\"teams\".\"title\" ILIKE $1"] ∧
      c.Collects .and ds ∧
      (ofSchema .members none).predicate
        (some (.object [("id", .array [.int 1, .int 2]),
          ("team", .object [("title", .string "red")])])) .and = .ok c) ∧
    ∃ (ds : List Clause) (after : List (Except Error Clause)),
      (ofSchema .members none).parts .and
        (.object [("team", .object [("title", .object [])]), ("id", .string "none")]) =
          ds.map .ok ++ .error (.value ⟨"id", .notInteger "\"none\""⟩) :: after := by
  have hpredicate : (ofSchema .members none).predicate
      (some (.object [("team", .object [("title", .string "red")]), ("shirt", .bool true),
        ("id", .array [.int 1, .int 2])])) .and = .ok _ := rfl
  have hagree : (ofSchema .members none).Agree
      (.object [("team", .object [("title", .string "red")]), ("shirt", .bool true),
        ("id", .array [.int 1, .int 2])])
      (.object [("id", .array [.int 1, .int 2]),
        ("team", .object [("title", .string "red")])]) := by
    constructor
    · simp [Table.Agree, ofSchema, Schema.members, Field.plain, Json.get?, List.lookup_cons]
    · simp [ofSchema, Schema.members, Json.get?, List.lookup_cons]
  obtain ⟨_, haccepts, _, hsame⟩ :=
    predicate_collects_parts (p := ofSchema .members none) Schema.members_declared
      [("team", .object [("title", .string "red")]), ("shirt", .bool true),
        ("id", .array [.int 1, .int 2])] .and
  obtain ⟨_, _, hrefuses, _⟩ :=
    predicate_collects_parts (p := ofSchema .members none) Schema.members_declared
      [("team", .object [("title", .object [])]), ("id", .string "none")] .and
  obtain ⟨ds, hparts, hcollects⟩ := haccepts _ hpredicate
  have hrendered : ((ds.map .ok : List (Except Error Clause)).map
      fun d ↦ d.toOption.map fun d ↦ d.render none) =
        ["\"members\".\"id\" IN ($1, $2)", "\"teams\".\"title\" ILIKE $1"].map some := by
    rw [← hparts]
    decide +kernel
  rw [List.map_map] at hrendered
  refine ⟨⟨_, ds, hpredicate, by decide +kernel, ?_, hcollects, ?_⟩, hrefuses _ rfl⟩
  · refine List.map_injective_iff.2 (fun _ _ ↦ Option.some.inj) ?_
    rw [List.map_map]
    exact hrendered
  · rw [← hsame _ hagree, hpredicate]

end JoinPlan

end SchemaSql
