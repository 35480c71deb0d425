import SchemaSql.Proofs.Json.Members
import SchemaSql.Proofs.Schema.WellFormed
import SchemaSql.Repository.Operations

/-!
# Fields blamed for unique violations

A violated unique constraint is explained by the field that was declared last for it. Without a
declaration the name of the constraint counts: of the names that constraints have by convention, at
most one is that of the constraint, whatever separators the names of tables and fields hold
themselves. All other errors stay as they are.
-/

namespace SchemaSql

/-- The field has this name, or its column has. -/
def Field.Answers (f : Field) (subject : String) : Prop :=
  f.name = subject ∨ f.column.text = subject

namespace Table

variable {t : Table} {constraint : String}

/-! ## Names by convention -/

def conventionalName (t : Table) (subject : String) : String :=
  t.name.text ++ "_unique_" ++ subject ++ "_index"

theorem constraintSubject?_eq_some_iff {subject : String} :
    t.constraintSubject? constraint = some subject ↔ constraint = t.conventionalName subject := by
  have hname : constraint = t.conventionalName subject ↔
      t.name.text.toList ++ ("_unique_".toList ++ (subject.toList ++ "_index".toList)) =
        constraint.toList := by
    rw [← String.toList_inj, eq_comm]
    simp [conventionalName]
  rw [hname, constraintSubject?]
  constructor
  · intro h
    obtain ⟨cs, htable, h⟩ := Option.bind_eq_some_iff.1 h
    obtain ⟨ds, hunique, h⟩ := Option.bind_eq_some_iff.1 h
    obtain ⟨es, hindex, h⟩ := Option.bind_eq_some_iff.1 h
    obtain rfl := Option.some.inj h
    rw [String.toList_ofList (l := es), List.isSuffixOf?_eq_some_iff_append_eq.1 hindex,
      List.isPrefixOf?_eq_some_iff_append_eq.1 hunique,
      List.isPrefixOf?_eq_some_iff_append_eq.1 htable]
  · intro h
    refine Option.bind_eq_some_iff.2 ⟨_, List.isPrefixOf?_eq_some_iff_append_eq.2 h, ?_⟩
    refine Option.bind_eq_some_iff.2 ⟨_, List.isPrefixOf?_eq_some_iff_append_eq.2 rfl, ?_⟩
    refine Option.bind_eq_some_iff.2 ⟨_, List.isSuffixOf?_eq_some_iff_append_eq.2 rfl, ?_⟩
    exact congrArg some String.ofList_toList

/-- A name is conventional for one subject at most. -/
theorem conventionalName_inj {subject other : String}
    (h : t.conventionalName subject = t.conventionalName other) : subject = other := by
  have hsubject := constraintSubject?_eq_some_iff (t := t).2 (Eq.refl (t.conventionalName subject))
  have hother := constraintSubject?_eq_some_iff.2 h
  exact Option.some.inj (hsubject.symm.trans hother)

/-! ## Fields to blame -/

/-- A field is blamed for a constraint: the one that was declared last for it, or without such a
declaration the first one that the constraint is named after. -/
inductive Blames (t : Table) (constraint : String) : String → Prop where
  | declared {before after field} (split : t.constraints = before ++ (constraint, field) :: after)
      (last : ∀ c ∈ after, c.1 ≠ constraint) : Blames t constraint field
  | conventional {subject before after f} (undeclared : ∀ c ∈ t.constraints, c.1 ≠ constraint)
      (named : constraint = t.conventionalName subject) (split : t.fields = before ++ f :: after)
      (answers : f.Answers subject) (first : ∀ g ∈ before, ¬ g.Answers subject) :
      Blames t constraint f.name

/-- A constraint that fields were declared for, or that is named after some field. -/
def Traceable (t : Table) (constraint : String) : Prop :=
  (∃ c ∈ t.constraints, c.1 = constraint) ∨
    ∃ subject, constraint = t.conventionalName subject ∧ ∃ f ∈ t.fields, f.Answers subject

/-- The field that is found for a constraint is the one to blame. -/
theorem guardedField?_eq_some_iff {field : String} :
    t.guardedField? constraint = some field ↔ t.Blames constraint field := by
  unfold guardedField?
  cases hdeclared : t.constraints.reverse.lookup constraint with
  | some last =>
    obtain ⟨before, after, hsplit, hlast⟩ := lookup_reverse_eq_some_iff.1 hdeclared
    constructor
    · intro h
      obtain rfl := Option.some.inj h
      exact .declared hsplit hlast
    · rintro (⟨split, last⟩ | ⟨undeclared, _, _, _, _⟩)
      · exact hdeclared.symm.trans (lookup_reverse_eq_some_iff.2 ⟨_, _, split, last⟩)
      · exact absurd rfl (undeclared (constraint, last) (by simp [hsplit]))
  | none =>
    have hundeclared := lookup_reverse_eq_none_iff.1 hdeclared
    constructor
    · intro h
      obtain ⟨subject, hsubject, h⟩ := Option.bind_eq_some_iff.1 h
      obtain ⟨f, hf, h⟩ := Option.bind_eq_some_iff.1 h
      obtain rfl := Option.some.inj h
      obtain ⟨hanswers, before, after, hsplit, hfirst⟩ := List.find?_eq_some_iff_append.1 hf
      refine .conventional hundeclared (constraintSubject?_eq_some_iff.1 hsubject) hsplit ?_ ?_
      · simpa [Field.Answers] using hanswers
      · simpa [Field.Answers] using hfirst
    · rintro (⟨split, _⟩ | ⟨_, named, split, answers, first⟩)
      · exact absurd rfl (hundeclared (constraint, field) (by simp [split]))
      · refine Option.bind_eq_some_iff.2 ⟨_, constraintSubject?_eq_some_iff.2 named, ?_⟩
        refine Option.bind_eq_some_iff.2 ⟨_, List.find?_eq_some_iff_append.2 ?_, rfl⟩
        refine ⟨by simpa [Field.Answers] using answers, _, _, split, ?_⟩
        simpa [Field.Answers] using first

/-- Some field is to blame for every constraint that can be traced, and for no other. -/
theorem exists_blames_iff : (∃ field, t.Blames constraint field) ↔ t.Traceable constraint := by
  constructor
  · rintro ⟨field, ⟨split, _⟩ | ⟨_, named, split, answers, _⟩⟩
    · exact .inl ⟨(constraint, field), by simp [split], rfl⟩
    · exact .inr ⟨_, named, _, by simp [split], answers⟩
  · intro htraceable
    simp only [← guardedField?_eq_some_iff, guardedField?]
    cases hdeclared : t.constraints.reverse.lookup constraint with
    | some last => exact ⟨last, rfl⟩
    | none =>
      rcases htraceable with ⟨c, hc, hsame⟩ | ⟨subject, named, f, hf, answers⟩
      · exact absurd hsame (lookup_reverse_eq_none_iff.1 hdeclared c hc)
      · have hsome : (t.fields.find? fun g ↦ g.name == subject || g.column.text == subject).isSome =
            true := by
          rw [List.find?_isSome]
          exact ⟨f, hf, by simpa [Field.Answers] using answers⟩
        obtain ⟨g, hg⟩ := Option.isSome_iff_exists.1 hsome
        exact ⟨g.name, by simp [constraintSubject?_eq_some_iff.2 named, hg]⟩

/-- At most one field is to blame. -/
theorem Blames.eq {field other : String} (h : t.Blames constraint field)
    (hother : t.Blames constraint other) : field = other :=
  Option.some.inj ((guardedField?_eq_some_iff.2 h).symm.trans (guardedField?_eq_some_iff.2 hother))

end Table

/-- The field that is to blame was declared. -/
theorem SchemaDecl.mem_fieldNames_of_blames {d : SchemaDecl} {s : Schema} (hd : d.WellFormed)
    (hs : d.Declares s) {constraint field : String} (h : s.toTable.Blames constraint field) :
    field ∈ d.fieldNames := by
  cases h with
  | declared split _ =>
    apply hd.constraint_fields_declared (constraint, field)
    rw [← hs.constraints_eq, split]
    simp
  | conventional _ _ split _ _ =>
    rw [← hs.field_names_eq, split]
    simp

namespace Repository

variable {r : Repository} {constraint : String}

theorem explainError_of_blames {field : String} (h : r.schema.Blames constraint field)
    (text : String) :
    r.explainError (.uniqueViolation constraint text) =
      ([.uniqueViolation r.schema.displayName constraint field],
        .uniqueConstraint field constraint) := by
  rw [explainError, Table.guardedField?_eq_some_iff.2 h]

/-- An error that is no violation of a traceable constraint is not explained. -/
theorem explainError_of_not_traceable {e : Error}
    (h : ∀ constraint text, e = .uniqueViolation constraint text →
      ¬ r.schema.Traceable constraint) : r.explainError e = ([], e) := by
  cases e with
  | uniqueViolation constraint text =>
    cases hfound : r.schema.guardedField? constraint with
    | none => rw [explainError, hfound]
    | some field =>
      exact absurd (Table.exists_blames_iff.1 ⟨field, Table.guardedField?_eq_some_iff.1 hfound⟩)
        (h constraint text rfl)
  | _ => rfl

/-- In a repository of a schema that was built, an error is explained exactly if it is a violation
of a unique constraint that can be traced: one that fields were declared for, or that has the
conventional name for the name or the column of a field. It is then put down to the one field that
is to blame, which was declared, and keeps its constraint. Every other error stays as it is. No
constraint has the conventional name for two names. -/
theorem explains_violations {d : SchemaDecl} {s : Schema} (h : d.build = .ok s) (config : Config) :
    d.Declares s ∧
      (∀ e : Error,
        (∀ constraint text, e = .uniqueViolation constraint text → ¬ s.Traceable constraint) →
          explainError ⟨s, config⟩ e = ([], e)) ∧
      (∀ constraint text, s.Traceable constraint →
        ∃ field ∈ d.fieldNames, s.Blames constraint field ∧
          explainError ⟨s, config⟩ (.uniqueViolation constraint text) =
            ([.uniqueViolation s.displayName constraint field],
              .uniqueConstraint field constraint)) ∧
      (∀ constraint field other, s.Blames constraint field → s.Blames constraint other →
        field = other) ∧
      ∀ subject other, s.conventionalName subject = s.conventionalName other →
        subject = other := by
  obtain ⟨hd, hs⟩ := d.justified_build.of_eq_ok h
  refine ⟨hs, fun e ↦ explainError_of_not_traceable (r := ⟨s, config⟩), ?_,
    fun _ _ _ ↦ Table.Blames.eq, fun _ _ ↦ Table.conventionalName_inj⟩
  intro constraint text htraceable
  obtain ⟨field, hblames⟩ := Table.exists_blames_iff.2 htraceable
  exact ⟨field, SchemaDecl.mem_fieldNames_of_blames hd hs hblames, hblames,
    explainError_of_blames hblames text⟩

/-- Of two fields that were declared for a constraint the last is to blame, and a constraint that is
named after a column is put down to its field. -/
theorem explains_violations_accounts :
    (explainError ⟨.accounts, {}⟩ (.uniqueViolation "accounts_login_key" "taken")).2 =
        .uniqueConstraint "email" "accounts_login_key" ∧
      (explainError ⟨.accounts, {}⟩ (.uniqueViolation "accounts_unique_address_index" "taken")).2 =
        .uniqueConstraint "email" "accounts_unique_address_index" ∧
      explainError ⟨.accounts, {}⟩ .missingInput = ([], .missingInput) := by
  obtain ⟨_, hkept, hexplained, hunique, _⟩ := explains_violations SchemaDecl.build_accounts {}
  refine ⟨?_, ?_, hkept .missingInput nofun⟩
  · have hsplit : Schema.accounts.constraints =
        [("accounts_login_key", "id")] ++ ("accounts_login_key", "email") :: [] := rfl
    have hlast : Schema.accounts.Blames "accounts_login_key" "email" := .declared hsplit nofun
    obtain ⟨field, _, hblames, h⟩ :=
      hexplained "accounts_login_key" "taken" (Table.exists_blames_iff.1 ⟨_, hlast⟩)
    rw [h, hunique _ _ _ hblames hlast]
  · have hsplit : Schema.accounts.fields =
        [.plain ⟨"id", by decide⟩ .int] ++
          { Field.plain ⟨"address", by decide⟩ .string with name := "email" } :: _ := rfl
    have hnamed : Schema.accounts.Blames "accounts_unique_address_index" "email" :=
      .conventional (by decide) (by decide) hsplit (.inr rfl) (by simp [Field.Answers, Field.plain])
    obtain ⟨field, _, hblames, h⟩ :=
      hexplained "accounts_unique_address_index" "taken" (Table.exists_blames_iff.1 ⟨_, hnamed⟩)
    rw [h, hunique _ _ _ hblames hnamed]

end Repository

end SchemaSql
