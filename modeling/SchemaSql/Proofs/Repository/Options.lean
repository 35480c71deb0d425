import SchemaSql.Proofs.Query.Asking
import SchemaSql.Proofs.Query.Writing
import SchemaSql.Proofs.Schema.WellFormed
import SchemaSql.Proofs.Wire.ArrayBinding
import SchemaSql.Repository.Statements

/-!
# Fields restricted to options

A field with options and without an encoder binds nothing but its options: in insertions, updates,
conditions and keys, and within the literals of arrays. Each option that was declared is accepted as
the text that it was registered as. Only the patterns that a JSON text is matched with are free.
-/

namespace SchemaSql

def Param.Within (texts : List String) (p : Param) : Prop :=
  ∀ text, p = .text text → text ∈ texts

namespace Field

/-- The field has these texts as its options, and binds a text as it is. -/
structure Restricted (f : Field) (texts : List String) : Prop where
  options_eq : f.options = some texts
  bare : f.encoder = none

/-- The parameter holds nothing but null and the texts, as a value of the field: under an array
field these are the elements that its literal is read as. -/
inductive Holds (f : Field) (texts : List String) : Param → Prop where
  | null : f.Holds texts .null
  | single {text} (single : f.isArray = false) (mem : text ∈ texts) : f.Holds texts (.text text)
  | elements {text es} (array : f.isArray = true) (read : ArrayLiteral.read? text = some es)
      (mem : ∀ e, some e ∈ es → e ∈ texts) : f.Holds texts (.text text)

variable {f : Field} {texts : List String}

/-! ## Values -/

/-- A restricted field binds null if it may be null, and of the other values those whose canonical
text is an option, each as this text. -/
theorem Restricted.coerceScalar_eq_ok_iff (h : f.Restricted texts) {v : Json} {p : Param} :
    f.coerceScalar v = .ok p ↔
      v = .null ∧ f.nullable = true ∧ p = .null ∨
        v ≠ .null ∧ ∃ text ∈ texts, f.type.cast v = .ok text ∧ p = .text text := by
  by_cases hnull : v = .null
  · subst hnull
    cases hnullable : f.nullable with
    | true => simp [coerceScalar, Json.isNull, hnullable, eq_comm (a := Param.null)]
    | false => simp [coerceScalar, Json.isNull, hnullable, fails]
  · have hgiven : ¬ v.isNull = true := mt Json.isNull_iff.1 hnull
    have hcoerce : f.coerceScalar v = f.cast v >>= fun text ↦
        if text ∈ texts then .ok (.text text) else f.fails (.notOption text texts) := by
      simp [coerceScalar, hgiven, admits, encode, h.options_eq, h.bare]
      rfl
    rw [hcoerce, Outcome.bind_eq_ok_iff]
    constructor
    · rintro ⟨text, hcast, hbound⟩
      split at hbound
      · rename_i hmem
        exact .inr ⟨hnull, text, hmem, cast_eq_ok_iff.1 hcast, (Except.ok.inj hbound).symm⟩
      · cases hbound
    · rintro (⟨hv, _⟩ | ⟨_, text, hmem, hcast, rfl⟩)
      · exact absurd hv hnull
      · exact ⟨text, cast_eq_ok_iff.2 hcast, if_pos hmem⟩

theorem Restricted.within_of_coerceScalar (h : f.Restricted texts) {v : Json} {p : Param}
    (hp : f.coerceScalar v = .ok p) : p.Within texts := by
  rcases h.coerceScalar_eq_ok_iff.1 hp with ⟨_, _, rfl⟩ | ⟨_, text, hmem, _, rfl⟩
  · exact nofun
  · rintro _ ⟨⟩
    exact hmem

theorem Restricted.within_of_coerces (h : f.Restricted texts) {vs : List Json} {ps : List Param}
    (hps : f.Coerces vs ps) : ∀ p ∈ ps, p.Within texts := by
  intro p hp
  obtain ⟨v, _, hv⟩ := Outcome.exists_mem_of_forall₂ hps.flip hp
  exact h.within_of_coerceScalar hv

/-- What a restricted field makes of a value holds nothing but its options. -/
theorem Restricted.holds_of_coerce (h : f.Restricted texts) {v : Json} {p : Param}
    (hp : f.coerce v = .ok p) : f.Holds texts p := by
  cases harray : f.isArray with
  | false =>
    rw [coerce, harray] at hp
    rcases h.coerceScalar_eq_ok_iff.1 hp with ⟨_, _, rfl⟩ | ⟨_, text, hmem, _, rfl⟩
    · exact .null
    · exact .single harray hmem
  | true =>
    rcases eq_null_or_array_of_coerce harray hp with ⟨_, rfl⟩ | ⟨xs, rfl⟩
    · exact .null
    · obtain ⟨params, hparams, rfl⟩ := coerce_array harray hp
      refine .elements harray (ArrayLiteral.read?_write _) ?_
      intro e he
      obtain ⟨q, hq, hsome⟩ := List.mem_map.1 he
      apply h.within_of_coerces (Outcome.mapM_eq_ok_iff.1 hparams) q hq
      rw [← q.ofOption_toOption, hsome]
      rfl

/-! ## Conditions -/

/-- The values of the conditions that a value asks of a restricted field are among its options,
unless the text of a JSON value is matched. -/
theorem Asks.within (h : f.Restricted texts) {v : Json} {cs : List Condition} (hcs : f.Asks v cs)
    {t : Table} {q : Predicate} (hq : q ∈ Asked.predicates t ⟨f, v, cs⟩) :
    (∃ pattern, q.condition = .textLike pattern ∧ f.isArray = false ∧ f.type = .json) ∨
      ∀ p ∈ q.values, p.Within texts := by
  obtain ⟨c, hc, rfl⟩ := List.mem_map.1 hq
  cases hcs with
  | elements array params =>
    obtain ⟨p, hp, rfl⟩ := List.mem_map.1 hc
    exact .inr (List.forall_mem_singleton.2 (h.within_of_coerces params p hp))
  | null single =>
    obtain rfl := List.mem_singleton.1 hc
    exact .inr nofun
  | textLike single json given =>
    obtain rfl := List.mem_singleton.1 hc
    exact .inl ⟨_, rfl, single, json⟩
  | range single ordered least greatest bounded =>
    rcases List.mem_append.1 hc with hc | hc
    · obtain ⟨p, hp, rfl⟩ := List.mem_map.1 hc
      exact .inr (List.forall_mem_singleton.2 (h.within_of_coerces least p hp))
    · obtain ⟨p, hp, rfl⟩ := List.mem_map.1 hc
      exact .inr (List.forall_mem_singleton.2 (h.within_of_coerces greatest p hp))
  | never single plain =>
    obtain rfl := List.mem_singleton.1 hc
    exact .inr nofun
  | oneOf single plain params =>
    obtain rfl := List.mem_singleton.1 hc
    exact .inr (h.within_of_coerces params)
  | equals single plain scalar exact param =>
    obtain rfl := List.mem_singleton.1 hc
    exact .inr (List.forall_mem_singleton.2 (h.within_of_coerceScalar param))
  | like single scalar free string param =>
    cases free.symm.trans h.options_eq

end Field

/-! ## Declared options -/

/-- The options of a field without an encoder are registered as their canonical texts, and each of
them is accepted as this text; null alone is left to whether the field may be null. -/
def FieldDecl.Offers (d : FieldDecl) (f : Field) : Prop :=
  ∀ declared, d.options = some declared → d.encoder = none →
    ∃ texts, f.Restricted texts ∧
      List.Forall₂ (fun o text ↦
        d.type.cast o = .ok text ∧ (o ≠ .null → f.coerceScalar o = .ok (.text text)))
        declared texts

theorem FieldDecl.Declares.offers {d : FieldDecl} {f : Field} (h : d.Declares f) : d.Offers f := by
  intro declared hdeclared hbare
  have hrel := h.options_rel
  rw [hdeclared] at hrel
  cases htexts : f.options with
  | none =>
    rw [htexts] at hrel
    cases hrel
  | some texts =>
    rw [htexts] at hrel
    cases hrel with
    | some hcast =>
      have hrestricted : f.Restricted texts := ⟨htexts, h.encoder_eq.trans hbare⟩
      refine ⟨texts, hrestricted, List.forall₂_iff_zip.2 ⟨hcast.length_eq, ?_⟩⟩
      intro o text hpair
      have ho := (List.forall₂_iff_zip.1 hcast).2 hpair
      refine ⟨ho, fun hgiven ↦ hrestricted.coerceScalar_eq_ok_iff.2 (.inr ⟨hgiven, text, ?_⟩)⟩
      exact ⟨(List.of_mem_zip hpair).2, h.type_eq ▸ ho, rfl⟩

namespace Repository

theorem keyParam_within {r : Repository} {f : Field} {texts : List String}
    (hf : r.schema.fields.find? (fun g ↦ g.column == r.schema.key) = some f)
    (h : f.Restricted texts) {key : Json} {p : Param} (hp : r.keyParam key = .ok p) :
    ∃ text ∈ texts, p = .text text := by
  unfold keyParam at hp
  split at hp
  · cases hp
  · rename_i hgiven
    rw [hf] at hp
    dsimp only at hp
    split at hp
    · rename_i q hq
      obtain rfl := Except.ok.inj hp
      rcases h.coerceScalar_eq_ok_iff.1 hq with ⟨rfl, _⟩ | ⟨_, text, hmem, _, rfl⟩
      · exact absurd rfl hgiven
      · exact ⟨text, hmem, rfl⟩
    · cases hp

/-- In a repository of a schema that was built, a field with options and without an encoder takes
each declared option as its canonical text, and binds no other text: not in an insertion or an
update, where the elements of an array are read off its literal, not in a condition but for the
pattern that a JSON text is matched with, and not in a key. -/
theorem options_kept {d : SchemaDecl} {s : Schema} (h : d.build = .ok s) (config : Config) :
    List.Forall₂ (fun e f ↦ e.Declares f ∧ e.Offers f) d.fields s.fields ∧
      (∀ (w : Writing) payload c, w.clause s.toTable payload = .ok c →
        c.fragments = (w.fields s.toTable payload).map (fun f ↦ f.column.quoted) ∧
          List.Forall₂ (fun f p ↦ ∀ texts, f.Restricted texts → f.Holds texts p)
            (w.fields s.toTable payload) c.values) ∧
      (∀ payload combinator c, s.whereClause payload combinator = .ok c →
        ∃ asked, s.Asks payload asked ∧
          c = Predicate.clause combinator (asked.flatMap (Asked.predicates s.toTable)) ∧
          ∀ a ∈ asked, ∀ texts, a.field.Restricted texts →
            ∀ q ∈ a.predicates s.toTable,
              (∃ pattern, q.condition = .textLike pattern ∧
                a.field.isArray = false ∧ a.field.type = .json) ∨
              ∀ p ∈ q.values, p.Within texts) ∧
      ∀ f texts, s.fields.find? (fun g ↦ g.column == s.key) = some f → f.Restricted texts →
        ∀ key p, keyParam ⟨s, config⟩ key = .ok p → ∃ text ∈ texts, p = .text text := by
  obtain ⟨_, hs⟩ := d.justified_build.of_eq_ok h
  refine ⟨hs.fields_rel.imp fun e f hf ↦ ⟨hf, hf.offers⟩, ?_, ?_, ?_⟩
  · intro w payload c hc
    obtain ⟨hfragments, hcoerced⟩ := Writing.parts_of_clause hc
    exact ⟨hfragments, hcoerced.imp fun f p hp texts hf ↦ hf.holds_of_coerce hp⟩
  · intro payload combinator c hc
    obtain ⟨ps, hps, hc⟩ := Outcome.bind_eq_ok_iff.1 hc
    obtain rfl := Except.ok.inj hc
    obtain ⟨_, _, asked, hasks, rfl⟩ := Table.asksFor_of_predicates hps
    exact ⟨asked, hasks, rfl, fun a ha texts hf q hq ↦ (hasks.asks a ha).within hf hq⟩
  · intro f texts hf hrestricted key p hp
    exact keyParam_within hf hrestricted hp

/-- False is a level of accounts, declared and accepted as the text of zero; the levels of an inserted
account are bound in a literal of declared levels. -/
theorem options_kept_accounts :
    ∃ f ∈ Schema.accounts.fields, f.Restricted ["1", "2", "0"] ∧
      f.coerceScalar (.bool false) = .ok (.text "0") ∧
      ∃ c,
        Writing.insert.clause Schema.accounts.toTable
            (.object [("levels", .array [.string "2", .null, .bool true])]) = .ok c ∧
          c.fragments = ["\"levels\""] ∧ ∃ p ∈ c.values, f.Holds ["1", "2", "0"] p := by
  obtain ⟨hdeclared, hwritten, _⟩ := options_kept SchemaDecl.build_accounts {}
  obtain ⟨f, hf, _, hoffers⟩ := Outcome.exists_getElem?_of_forall₂ hdeclared (i := 4) rfl
  obtain rfl := Option.some.inj hf
  obtain ⟨texts, hrestricted, haccepts⟩ := hoffers _ rfl rfl
  obtain rfl := Option.some.inj hrestricted.options_eq
  obtain _ | ⟨_, _ | ⟨_, _ | ⟨hfalse, _⟩⟩⟩ := haccepts
  have hclause : Writing.insert.clause Schema.accounts.toTable
      (.object [("levels", .array [.string "2", .null, .bool true])]) = .ok _ := rfl
  obtain ⟨hfragments, hvalues⟩ := hwritten .insert _ _ hclause
  obtain ⟨p, hp, hholds⟩ := Outcome.exists_mem_of_forall₂ hvalues List.mem_cons_self
  exact ⟨_, List.mem_of_getElem? hf, hrestricted, hfalse.2 nofun, _, hclause, hfragments, p, hp,
    hholds _ hrestricted⟩

end Repository

end SchemaSql
