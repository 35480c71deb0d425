import SchemaSql.Proofs.Outcome
import SchemaSql.Proofs.Schema.Declared
import SchemaSql.Query.Assignment

/-!
# What a payload writes

An insertion and an update write the declared fields that are open to it and have a value in the
payload, each to its own column and in the order of declaration. They are refused if there is no
such field, or for the first of these whose value cannot be coerced, by an error that names it.
Nothing else in the payload matters.
-/

namespace SchemaSql

/-! ## Errors of values -/

namespace Field

variable {f : Field} {v : Json} {e : ValueError}

theorem field_of_fails {α : Type} {fault : ValueFault}
    (h : (f.fails fault : Except ValueError α) = .error e) : e.field = f.name :=
  Except.error.inj h ▸ rfl

theorem field_of_cast (h : f.cast v = .error e) : e.field = f.name := by
  unfold cast at h
  split at h
  · cases h
  · exact field_of_fails h

theorem field_of_coerceScalar (h : f.coerceScalar v = .error e) : e.field = f.name := by
  unfold coerceScalar at h
  split at h
  · split at h
    · cases h
    · exact field_of_fails h
  · rcases Outcome.bind_eq_error_iff.1 h with hcast | ⟨text, _, h⟩
    · exact field_of_cast hcast
    · split at h
      · cases h
      · exact field_of_fails h

theorem field_of_elements (h : f.elements v = .error e) : e.field = f.name := by
  cases v with
  | array vs => cases h
  | null | bool | number | string | object => exact field_of_fails h

/-- Whatever is wrong with a value, the error names the field that it was given for. -/
theorem field_of_coerce (h : f.coerce v = .error e) : e.field = f.name := by
  unfold coerce at h
  split at h
  · exact field_of_coerceScalar h
  · split at h
    · cases h
    · rcases Outcome.bind_eq_error_iff.1 h with helements | ⟨vs, _, h⟩
      · exact field_of_elements helements
      · rcases Outcome.bind_eq_error_iff.1 h with hparams | ⟨ps, _, h⟩
        · obtain ⟨u, _, hu⟩ := Outcome.exists_of_mapM_eq_error hparams
          exact field_of_coerceScalar hu
        · cases h

/-! ## Assignments -/

/-- The value that a payload has for the field, or null if it has none. -/
def valueIn (payload : Json) (f : Field) : Json :=
  (payload.get? f.name).getD .null

theorem assign_eq_ok_iff {a : Assignment} :
    f.assign v = .ok a ↔ ∃ p, f.coerce v = .ok p ∧ a = ⟨f.column, p⟩ := by
  rw [assign, Outcome.bind_eq_ok_iff]
  refine exists_congr fun p ↦ and_congr_right fun _ ↦ ?_
  exact ⟨fun h ↦ (Except.ok.inj h).symm, fun h ↦ h ▸ rfl⟩

theorem coerce_of_assign (h : f.assign v = .error e) : f.coerce v = .error e := by
  rcases Outcome.bind_eq_error_iff.1 h with hcoerce | ⟨p, _, h⟩
  · exact hcoerce
  · cases h

/-- Assignments to fields have their columns, and the parameters of their values. -/
theorem parts_of_assign {payload : Json} {fs : List Field} {as : List Assignment}
    (h : List.Forall₂ (fun f a ↦ f.assign (f.valueIn payload) = .ok a) fs as) :
    (as.map fun a ↦ a.column.quoted) = (fs.map fun f ↦ f.column.quoted) ∧
      List.Forall₂ (fun f p ↦ f.coerce (f.valueIn payload) = .ok p) fs
        (as.map Assignment.value) := by
  induction h with
  | nil => exact ⟨rfl, .nil⟩
  | cons ha _ ih =>
    obtain ⟨p, hp, rfl⟩ := assign_eq_ok_iff.1 ha
    rw [List.map_cons, List.map_cons, ih.1]
    exact ⟨rfl, .cons hp ih.2⟩

end Field

/-! ## Insertions and updates -/

/-- The two ways to write a row. -/
inductive Writing where
  | insert
  | update

namespace Writing

def allows : Writing → Field → Bool
  | insert => Field.insertable
  | update => Field.updatable

def clause : Writing → Table → Json → Except Error Clause
  | insert => Table.insertClause
  | update => Table.updateClause

def pattern : Writing → String
  | insert => Template.identity
  | update => Table.updatePattern

/-- The fields that are written: declared, open to it, and with a value in the payload. -/
def fields (w : Writing) (t : Table) (payload : Json) : List Field :=
  t.fields.filter fun f ↦ w.allows f && (payload.get? f.name).isSome

variable (w : Writing) (t : Table) (payload : Json)

theorem filterMap_present? (fs : List Field) :
    (fs.filter w.allows).filterMap (Field.present? payload) =
      (fs.filter fun f ↦ w.allows f && (payload.get? f.name).isSome).map
        fun f ↦ (f, f.valueIn payload) := by
  induction fs with
  | nil => rfl
  | cons f fs ih =>
    cases hallows : w.allows f with
    | false => simp [hallows, ih]
    | true =>
      cases hvalue : payload.get? f.name with
      | none => simp [hallows, hvalue, ih, Field.present?]
      | some v => simp [hallows, hvalue, ih, Field.present?, Field.valueIn]

/-- Nothing has a value in a payload that is no object. -/
theorem fields_eq_nil (h : ∀ members, payload ≠ .object members) : w.fields t payload = [] := by
  have hnone (f : Field) : payload.get? f.name = none := by
    cases payload with
    | object members => exact absurd rfl (h members)
    | null | bool | number | string | array => rfl
  simp [fields, hnone]

/-- The assignments to the fields that are written, in their order. -/
theorem assignments_eq :
    t.assignments w.allows payload =
      match (w.fields t payload).mapM fun f ↦ f.assign (f.valueIn payload) with
      | .error e => .error (.value e)
      | .ok [] => .error .missingInput
      | .ok assignments => .ok assignments := by
  cases payload with
  | object members =>
    simp only [Table.assignments]
    rw [w.filterMap_present?, List.mapM_map, fields]
    rfl
  | null | bool | number | string | array =>
    rw [w.fields_eq_nil t _ (by simp)]
    rfl

inductive Writes : Except Error Clause → Prop where
  | nothing (absent : w.fields t payload = []) : Writes (.error .missingInput)
  | refused {before f after fault} (split : w.fields t payload = before ++ f :: after)
      (before_ok : ∀ g ∈ before, ∃ p, g.coerce (g.valueIn payload) = .ok p)
      (fails : f.coerce (f.valueIn payload) = .error fault) : Writes (.error (.value fault))
  | clause {ps} (given : w.fields t payload ≠ [])
      (coerced : List.Forall₂ (fun f p ↦ f.coerce (f.valueIn payload) = .ok p)
        (w.fields t payload) ps) :
      Writes (.ok {
        fragments := (w.fields t payload).map fun f ↦ f.column.quoted
        values := ps
        pattern := w.pattern })

theorem clause_eq :
    w.clause t payload = (t.assignments w.allows payload).map fun as ↦ {
      fragments := as.map fun a ↦ a.column.quoted
      values := as.map Assignment.value
      pattern := w.pattern } := by
  cases w with
  | insert =>
    change t.insertClause payload = (t.assignments Field.insertable payload).map _
    rw [Table.insertClause]
    cases t.assignments Field.insertable payload <;> rfl
  | update =>
    change t.updateClause payload = (t.assignments Field.updatable payload).map _
    rw [Table.updateClause]
    cases t.assignments Field.updatable payload <;> rfl

theorem writes_clause : w.Writes t payload (w.clause t payload) := by
  have hordered := Outcome.inOrder_mapM (fun f ↦ f.assign (f.valueIn payload)) (w.fields t payload)
  rw [clause_eq, assignments_eq]
  cases hmap : (w.fields t payload).mapM fun f ↦ f.assign (f.valueIn payload) with
  | error fault =>
    rw [hmap] at hordered
    cases hordered with
    | error split before_ok fails =>
      refine .refused split ?_ (Field.coerce_of_assign fails)
      intro g hg
      obtain ⟨a, ha⟩ := before_ok g hg
      obtain ⟨p, hp, _⟩ := Field.assign_eq_ok_iff.1 ha
      exact ⟨p, hp⟩
  | ok as =>
    rw [hmap] at hordered
    cases hordered with
    | ok each =>
      obtain ⟨hcolumns, hcoerced⟩ := Field.parts_of_assign each
      cases as with
      | nil => exact .nothing (List.forall₂_nil_right_iff.1 each)
      | cons a as =>
        have hsome : w.fields t payload ≠ [] := by
          intro hnone
          rw [hnone] at each
          cases each
        have hclause := Writes.clause hsome hcoerced
        rwa [← hcolumns] at hclause

variable {w t payload} in
/-- A clause has the columns of the fields that are written, and their coerced values. -/
theorem parts_of_clause {c : Clause} (h : w.clause t payload = .ok c) :
    c.fragments = (w.fields t payload).map (fun f ↦ f.column.quoted) ∧
      List.Forall₂ (fun f p ↦ f.coerce (f.valueIn payload) = .ok p) (w.fields t payload)
        c.values := by
  have hwrites := w.writes_clause t payload
  rw [h] at hwrites
  cases hwrites with
  | clause _ coerced => exact ⟨rfl, coerced⟩

/-- Payloads that have the same values for the fields that are open to writing write the same. -/
theorem clause_congr {other : Json}
    (h : ∀ f ∈ t.fields, w.allows f = true → other.get? f.name = payload.get? f.name) :
    w.clause t other = w.clause t payload := by
  have hfields : w.fields t other = w.fields t payload := by
    apply List.filter_congr
    intro f hf
    cases hallows : w.allows f with
    | false => rfl
    | true => rw [h f hf hallows]
  have hassign : ∀ f ∈ w.fields t payload,
      f.assign (f.valueIn other) = f.assign (f.valueIn payload) := by
    intro f hf
    obtain ⟨hmem, hopen⟩ := List.mem_filter.1 hf
    have hallows : w.allows f = true := (Bool.and_eq_true_iff.1 hopen).1
    rw [Field.valueIn, h f hmem hallows, Field.valueIn]
  rw [clause_eq, clause_eq, assignments_eq, assignments_eq, hfields, Outcome.mapM_congr hassign]

/-- Some field is written only if the payload is an object. -/
theorem exists_object (h : w.fields t payload ≠ []) : ∃ members, payload = .object members := by
  by_contra hnone
  exact h (w.fields_eq_nil t payload fun members hmembers ↦ hnone ⟨members, hmembers⟩)

/-- An insertion or an update succeeds exactly if the payload is an object, has a value for some
declared field that is open to it, and each such value can be coerced. The clause then has the
quoted columns of these fields, in the order of declaration, each with its own coerced value. Else
there is nothing to write, or the first of these fields whose value cannot be coerced is named by
the error. What a payload has under other names makes no difference. -/
theorem writes_exactly :
    ((∃ c, w.clause t payload = .ok c) ↔
      (∃ members, payload = .object members) ∧ w.fields t payload ≠ [] ∧
        ∀ f ∈ w.fields t payload, ∃ p, f.coerce (f.valueIn payload) = .ok p) ∧
      (∀ c, w.clause t payload = .ok c →
        c.fragments = (w.fields t payload).map (fun f ↦ f.column.quoted) ∧
          List.Forall₂ (fun f p ↦ f.coerce (f.valueIn payload) = .ok p) (w.fields t payload)
            c.values) ∧
      (∀ e, w.clause t payload = .error e →
        e = .missingInput ∧ w.fields t payload = [] ∨
          ∃ before f after fault, w.fields t payload = before ++ f :: after ∧
            (∀ g ∈ before, ∃ p, g.coerce (g.valueIn payload) = .ok p) ∧
            f.coerce (f.valueIn payload) = .error fault ∧
            e = .value fault ∧ e.field? = some f.name) ∧
      ∀ other : Json,
        (∀ f ∈ t.fields, w.allows f = true → other.get? f.name = payload.get? f.name) →
          w.clause t other = w.clause t payload := by
  have hwrites := w.writes_clause t payload
  refine ⟨?_, ?_, ?_, fun other ↦ w.clause_congr t payload⟩
  · constructor
    · rintro ⟨c, hc⟩
      rw [hc] at hwrites
      cases hwrites with
      | clause given coerced =>
        refine ⟨w.exists_object t payload given, given, fun f hf ↦ ?_⟩
        obtain ⟨p, _, hp⟩ := Outcome.exists_mem_of_forall₂ coerced hf
        exact ⟨p, hp⟩
    · rintro ⟨_, hgiven, hcoerced⟩
      cases hclause : w.clause t payload with
      | ok c => exact ⟨c, rfl⟩
      | error e =>
        rw [hclause] at hwrites
        cases hwrites with
        | nothing hnone => exact absurd hnone hgiven
        | @refused _ f _ _ split _ fails =>
          obtain ⟨p, hp⟩ := hcoerced f (by simp [split])
          cases fails.symm.trans hp
  · intro c hc
    rw [hc] at hwrites
    cases hwrites with
    | clause _ coerced => exact ⟨rfl, coerced⟩
  · intro e he
    rw [he] at hwrites
    cases hwrites with
    | nothing hnone => exact .inl ⟨rfl, hnone⟩
    | refused split before_ok fails =>
      exact .inr ⟨_, _, _, _, split, before_ok, fails, rfl,
        congrArg some (Field.field_of_coerce fails)⟩

/-- A member without a key is inserted, whatever else the payload holds; an update to a team that is
no number is refused. -/
theorem writes_exactly_members :
    ∃ c e,
      insert.clause Schema.members.toTable
          (.object [("name", .string "ann"), ("other", .array []), ("team_id", .bool true)]) =
            .ok c ∧
        insert.clause Schema.members.toTable
          (.object [("name", .string "ann"), ("team_id", .bool true)]) = .ok c ∧
        c.fragments = ["\"name\"", "\"team_id\""] ∧
        update.clause Schema.members.toTable
          (.object [("name", .string "ann"), ("team_id", .string "red")]) = .error e ∧
        ∃ f ∈ Schema.members.fields, e.field? = some f.name := by
  obtain ⟨_, hclause, _, hcongr⟩ := writes_exactly insert Schema.members.toTable
    (.object [("name", .string "ann"), ("team_id", .bool true)])
  obtain ⟨_, _, hrefused, _⟩ := writes_exactly update Schema.members.toTable
    (.object [("name", .string "ann"), ("team_id", .string "red")])
  have hinsert : insert.clause Schema.members.toTable
      (.object [("name", .string "ann"), ("team_id", .bool true)]) = .ok _ := rfl
  have hupdate : update.clause Schema.members.toTable
      (.object [("name", .string "ann"), ("team_id", .string "red")]) = .error _ := rfl
  refine ⟨_, _, (hcongr _ ?_).trans hinsert, hinsert, (hclause _ hinsert).1, hupdate, ?_⟩
  · simp [Schema.members, Field.plain, Json.get?, List.lookup_cons]
  · rcases hrefused _ hupdate with ⟨_, hnone⟩ | ⟨before, f, after, _, hsplit, _, _, _, hnames⟩
    · cases hnone
    · have hmem : f ∈ update.fields Schema.members.toTable
          (.object [("name", .string "ann"), ("team_id", .string "red")]) := by
        simp [hsplit]
      exact ⟨f, (List.mem_filter.1 hmem).1, hnames⟩

end Writing

end SchemaSql
