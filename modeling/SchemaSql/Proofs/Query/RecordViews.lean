import SchemaSql.Proofs.Query.HydratedJson
import SchemaSql.Row.Shape

/-!
# Views of a record

A record is read in two ways: name by name, and as an object as a whole. Reading by name finds what
was joined first under a name, while in the object the join that came last counts, and before the
field of its name. Hydration joins each name once, and none that a field has, so that both agree on
whatever it reads. Records can be joined to afterwards, under any name; then both agree under a name
exactly if what was joined last is what is read.
-/

namespace SchemaSql.Record

variable {r : Record} {name : String}

/-! ## Changes -/

inductive Change where
  | attach (name : String) (joined : Option Record)
  | take (field : String)

def after (r : Record) : Change → Record
  | .attach name joined => r.attach name joined
  | .take field => (r.take field).2

def afterAll (r : Record) (changes : List Change) : Record :=
  changes.foldl after r

/-- A record as it is made: a new one, or one that was hydrated from a row. -/
inductive Original : Record → Prop where
  | new : Original {}
  | hydrated {p : JoinPlan} {row : List Json} {r : Record} (declared : p.schema.Declared)
      (hydrates : (p.hydrate row).2 = .ok r) : Original r

theorem Original.names_nodup (h : Original r) : r.names.Nodup := by
  cases h with
  | new => exact .nil
  | hydrated declared hydrates =>
    rw [JoinPlan.names_of_hydrate hydrates]
    exact declared.shown_names_nodup

/-- Each change that attaches uses a name that neither a field nor a join has by then. -/
def AttachesFresh : Record → List Change → Prop
  | _, [] => True
  | r, .attach name joined :: changes =>
    name ∉ r.names ∧ (r.attach name joined).AttachesFresh changes
  | r, .take field :: changes => (r.take field).2.AttachesFresh changes

/-! ## Fields after changes -/

theorem map_fst_clearFirst (field : String) (values : List (String × Json)) :
    (clearFirst field values).map Prod.fst = values.map Prod.fst := by
  induction values with
  | nil => rfl
  | cons value values ih =>
    obtain ⟨name, v⟩ := value
    rw [clearFirst]
    split
    · rfl
    · rw [List.map_cons, List.map_cons, ih]

/-- A change leaves the names of the fields as they are. -/
theorem fieldNames_after (r : Record) (change : Change) :
    (r.after change).values.map Prod.fst = r.values.map Prod.fst := by
  cases change with
  | attach name joined => rfl
  | take field => exact map_fst_clearFirst field r.values

theorem fieldNames_afterAll (r : Record) (changes : List Change) :
    (r.afterAll changes).values.map Prod.fst = r.values.map Prod.fst := by
  induction changes generalizing r with
  | nil => rfl
  | cons change changes ih => exact (ih (r.after change)).trans (r.fieldNames_after change)

/-- What is taken from a field is null from then on. -/
theorem get?_take_self {field : String} {v : Json} (h : r.get? field = some v) :
    (r.take field).2.get? field = some .null := by
  change (clearFirst field r.values).lookup field = some .null
  rw [get?] at h
  generalize r.values = values at h ⊢
  induction values with
  | nil => cases h
  | cons value values ih =>
    obtain ⟨name, u⟩ := value
    rw [clearFirst]
    split
    · rename_i hsame
      rw [hsame, List.lookup_cons_self]
    · rename_i hne
      have hother : (field == name) = false := beq_eq_false_iff_ne.2 (Ne.symm hne)
      rw [List.lookup_cons, hother] at h ⊢
      exact ih h

/-! ## Joins after changes -/

/-- A join that is attached is what its name stands for, unless a join had the name before. -/
theorem join?_attach_self (r : Record) (name : String) (joined : Option Record) :
    (r.attach name joined).join? name = if r.hasJoin name then r.join? name else joined := by
  rw [hasJoin, ← isSome_lookup, join?, attach, List.lookup_append, List.lookup_cons_self, join?]
  cases r.joins.lookup name with
  | none => rfl
  | some first => rfl

/-- Under the name the record has what was joined, as it is and as whatever it is converted to. -/
def Reads (r : Record) (name : String) (joined : Option Record) : Prop :=
  r.join? name = joined ∧
    ∀ {α : Type} (convert : Record → Except Error α),
      r.joinedAs convert name = joined.mapM convert

theorem reads_iff {joined : Option Record} : r.Reads name joined ↔ r.join? name = joined := by
  constructor
  · exact And.left
  · rintro rfl
    exact ⟨rfl, fun _ ↦ rfl⟩

/-! ## The object beside the names -/

def lastJoin? (r : Record) (name : String) : Option (Option Record) :=
  r.joins.reverse.lookup name

/-- Where fields differ in name, the object has the join that came last, and the field if there is
no join. -/
theorem get?_toJson (hnodup : (r.values.map Prod.fst).Nodup) (name : String) :
    r.toJson.get? name = ((r.lastJoin? name).map joinedJson).or (r.get? name) := by
  rw [toJson_eq, Json.get?_ofMembers, members, List.reverse_append, List.lookup_append,
    ← List.map_reverse, lookup_map_snd, lookup_reverse_of_nodup hnodup, lastJoin?, get?]

/-- The object has under a name what is read by the name: what a field has, and under a name that no
field has, the join that has it, or nothing if there is none. -/
structure Agrees (r : Record) (name : String) : Prop where
  field : ∀ v, r.get? name = some v → r.toJson.get? name = some v
  key : r.get? name = none → ((r.toJson.get? name).isSome = true ↔ r.hasJoin name = true)
  join : r.get? name = none → r.hasJoin name = true →
    r.toJson.get? name = some (joinedJson (r.join? name))

/-- What was joined last under a name, if anything, looks like what is read by the name. -/
def LastIsRead (r : Record) (name : String) : Prop :=
  ∀ joined, r.lastJoin? name = some joined →
    joinedJson joined = (r.get? name).getD (joinedJson (r.join? name))

theorem isSome_lastJoin? (r : Record) (name : String) :
    (r.lastJoin? name).isSome = r.hasJoin name := by
  rw [lastJoin?, isSome_lookup, List.any_reverse, hasJoin]

/-- A name that no field has is a key of the object exactly if a join has it. -/
theorem isSome_get?_toJson (hnodup : (r.values.map Prod.fst).Nodup) (hfield : r.get? name = none) :
    (r.toJson.get? name).isSome = r.hasJoin name := by
  rw [get?_toJson hnodup, hfield, Option.or_none, Option.isSome_map, isSome_lastJoin?]

/-- Where fields differ in name, the views agree under a name exactly if what was joined last under
it is what is read. -/
theorem agrees_iff (hnodup : (r.values.map Prod.fst).Nodup) :
    r.Agrees name ↔ r.LastIsRead name := by
  have hobject := get?_toJson hnodup name
  constructor
  · intro hagrees joined hlast
    rw [hlast] at hobject
    have hlatest : r.toJson.get? name = some (joinedJson joined) := hobject
    cases hfield : r.get? name with
    | some v => exact Option.some.inj (hlatest.symm.trans (hagrees.field v hfield))
    | none =>
      have hhas : r.hasJoin name = true := by
        rw [← isSome_lastJoin?, hlast]
        rfl
      exact Option.some.inj (hlatest.symm.trans (hagrees.join hfield hhas))
  · intro hread
    refine ⟨?_, fun hfield ↦ Bool.eq_iff_iff.1 (isSome_get?_toJson hnodup hfield), ?_⟩
    · intro v hv
      cases hlast : r.lastJoin? name with
      | none => rw [hobject, hlast, Option.map_none, Option.none_or, hv]
      | some joined =>
        rw [hobject, hlast, Option.map_some, Option.some_or, hread joined hlast, hv,
          Option.getD_some]
    · intro hfield hhas
      obtain ⟨joined, hlast⟩ : ∃ joined, r.lastJoin? name = some joined := by
        rw [← Option.isSome_iff_exists, isSome_lastJoin?, hhas]
      rw [hobject, hlast, Option.map_some, Option.some_or, hread joined hlast, hfield,
        Option.getD_none]

/-! ## Fresh names -/

/-- Where all names differ, what was joined last under a name is the only thing that has it. -/
theorem lastIsRead_of_nodup (hnames : r.names.Nodup) (name : String) : r.LastIsRead name := by
  obtain ⟨_, hjoins, hdisjoint⟩ := List.nodup_append.1 hnames
  intro joined hlast
  rw [lastJoin?, lookup_reverse_of_nodup hjoins] at hlast
  have hjoin : r.join? name = joined := by
    rw [join?, hlast]
    rfl
  have hmem : name ∈ r.joins.map Prod.fst := List.mem_map_of_mem (mem_of_lookup_eq_some hlast)
  have hfield : r.get? name = none := by
    rw [get?, List.lookup_eq_none_iff]
    intro value hvalue
    exact bne_iff_ne.2 fun hsame ↦
      hdisjoint value.1 (List.mem_map_of_mem hvalue) name hmem hsame.symm
  rw [hfield, Option.getD_none, hjoin]

theorem names_nodup_attach (hnames : r.names.Nodup) (hfresh : name ∉ r.names)
    (joined : Option Record) : (r.attach name joined).names.Nodup := by
  have hmore : (r.attach name joined).names = r.names ++ [name] := by
    rw [names, names, attach, List.map_append, ← List.append_assoc]
    rfl
  rw [hmore]
  exact List.nodup_append.2 ⟨hnames, List.nodup_singleton name, by
    intro other hother last hlast hsame
    rw [List.mem_singleton.1 hlast] at hsame
    exact hfresh (hsame ▸ hother)⟩

theorem names_nodup_of_attachesFresh {changes : List Change} (hnames : r.names.Nodup)
    (hfresh : r.AttachesFresh changes) : (r.afterAll changes).names.Nodup := by
  induction changes generalizing r with
  | nil => exact hnames
  | cons change changes ih =>
    cases change with
    | attach name joined => exact ih (names_nodup_attach hnames hfresh.1 joined) hfresh.2
    | take field =>
      have hsame : (r.after (.take field)).names = r.names :=
        congrArg (· ++ r.joins.map Prod.fst) (r.fieldNames_after (.take field))
      exact ih (hsame ▸ hnames) hfresh

/-- What is attached shows in the object at once. -/
theorem get?_toJson_attach_self (hnodup : (r.values.map Prod.fst).Nodup) (name : String)
    (joined : Option Record) :
    (r.attach name joined).toJson.get? name = some (joinedJson joined) := by
  have hlast : (r.attach name joined).lastJoin? name = some joined := by
    rw [lastJoin?, attach, List.reverse_append, List.reverse_singleton, List.singleton_append,
      List.lookup_cons_self]
  rw [get?_toJson (r := r.attach name joined) hnodup, hlast]
  rfl

/-- A record may be joined to and taken from in any order after it was made, by hydration or anew.
The names that its object has besides those of fields are always those of joins; and what it has
under a name is what is read by the name exactly if what was joined last under it looks like that.
What is attached shows in the object at once, but is read by its name only if no join had the name
before, or one that is the same. What is taken is null from then on. So all views agree as long as
every name that is attached is a fresh one. -/
theorem views_agree_iff {start : Record} (hstart : Original start) (changes : List Change)
    (hr : start.afterAll changes = r) :
    (∀ name, r.get? name = none → ((r.toJson.get? name).isSome = true ↔ r.hasJoin name = true)) ∧
      (∀ name, r.Agrees name ↔ r.LastIsRead name) ∧
      (∀ name joined, (r.attach name joined).toJson.get? name = some (joinedJson joined) ∧
        ((r.attach name joined).Reads name joined ↔
          (r.hasJoin name = true → r.join? name = joined))) ∧
      (∀ field v, r.get? field = some v → (r.take field).2.get? field = some .null) ∧
      (start.AttachesFresh changes → ∀ name, r.Agrees name) := by
  have hnames := hstart.names_nodup
  have hfields : (r.values.map Prod.fst).Nodup := by
    rw [← hr, fieldNames_afterAll]
    exact (List.nodup_append.1 hnames).1
  refine ⟨fun name hfield ↦ Bool.eq_iff_iff.1 (isSome_get?_toJson hfields hfield),
    fun name ↦ agrees_iff hfields, ?_, fun field v ↦ get?_take_self, ?_⟩
  · intro name joined
    refine ⟨get?_toJson_attach_self hfields name joined, ?_⟩
    rw [reads_iff, join?_attach_self]
    split
    · rename_i hhas
      exact ⟨fun hsame _ ↦ hsame, fun hsame ↦ hsame hhas⟩
    · rename_i hnone
      exact iff_of_true rfl fun hhas ↦ absurd hhas hnone
  · intro hfresh name
    have hafter : r.names.Nodup := hr ▸ names_nodup_of_attachesFresh hnames hfresh
    exact (agrees_iff hfields).2 (lastIsRead_of_nodup hafter name)

/-- An account whose email is taken from it and to which a badge is joined. -/
theorem views_agree_accounts :
    ∃ account,
      ((JoinPlan.ofSchema .accounts none).hydrate [.int 1, .string "ann@x", .string "admin",
        .array [.int 1, .null], .int 3, .null, .null]).2 = .ok account ∧
      let changed := account.afterAll
        [.take "email", .attach "badge" (some { values := [("id", .int 7)] })]
      changed.toJson.get? "email" = some .null ∧
        changed.toJson.get? "badge" = some (.object [("id", .int 7)]) ∧
        changed.toJson.get? "team" = some .null ∧ changed.toJson.get? "password" = none := by
  have hydrates : ((JoinPlan.ofSchema .accounts none).hydrate [.int 1, .string "ann@x",
      .string "admin", .array [.int 1, .null], .int 3, .null, .null]).2 = .ok _ := rfl
  refine ⟨_, hydrates, ?_⟩
  have hviews := views_agree_iff (.hydrated Schema.accounts_declared hydrates)
    [.take "email", .attach "badge" (some { values := [("id", .int 7)] })] rfl
  have hagree := hviews.2.2.2.2 ⟨by decide, trivial⟩
  refine ⟨(hagree "email").field _ rfl, (hagree "badge").join rfl rfl,
    (hagree "team").join rfl rfl, ?_⟩
  exact Option.not_isSome_iff_eq_none.1 (mt ((hagree "password").key rfl).1 (by decide))

/-- A team that is attached to a member who was hydrated without one shows in the object, but the
join still has none. -/
theorem late_team_unread :
    ∃ member team,
      ((JoinPlan.ofSchema .members none).hydrate
        [.int 1, .string "ann", .int 3, .null, .null]).2 = .ok member ∧
      Table.teams.hydrate [.int 3, .string "red"] = .ok team ∧
      (member.attach "team" (some team)).join? "team" = none ∧
      (member.attach "team" (some team)).toJson.get? "team" =
        some (.object [("id", .int 3), ("title", .string "red")]) ∧
      ¬ (member.attach "team" (some team)).Agrees "team" := by
  refine ⟨_, _, rfl, rfl, rfl, rfl, ?_⟩
  intro hagrees
  have hsame := hagrees.join rfl rfl
  cases hsame

end SchemaSql.Record
