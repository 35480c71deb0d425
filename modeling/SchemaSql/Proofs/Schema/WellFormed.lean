import Mathlib.Data.List.Duplicate
import SchemaSql.Proofs.Outcome
import SchemaSql.Proofs.Schema.Declared

/-!
# Well-formed declarations

What a declaration has to be like is said once as a whole, apart from the order in which its parts
are checked: names match a pattern and differ from each other, fields that are referred to are
declared, keys and options suit the type of their field. Exactly the declarations that are like this
build a schema, every fault names something that is wrong with the declaration, and the schema that
is built is the declared one.
-/

namespace SchemaSql

/-! ## Names -/

namespace Identifier

def IsLetter (c : Char) : Prop :=
  ('A' ≤ c ∧ c ≤ 'Z') ∨ ('a' ≤ c ∧ c ≤ 'z')

def IsDigit (c : Char) : Prop :=
  '0' ≤ c ∧ c ≤ '9'

/-- `[A-Za-z_]` -/
def IsFirst (c : Char) : Prop :=
  IsLetter c ∨ c = '_'

/-- `[A-Za-z0-9_$]` -/
def IsFurther (c : Char) : Prop :=
  IsLetter c ∨ IsDigit c ∨ c = '_' ∨ c = '$'

/-- `[A-Za-z_][A-Za-z0-9_$]*` -/
def Matches (name : String) : Prop :=
  ∃ c cs, name.toList = c :: cs ∧ IsFirst c ∧ ∀ d ∈ cs, IsFurther d

inductive Breaks (name : String) : IdentifierFault → Prop where
  | empty (h : name.toList = []) : Breaks name .empty
  | badStart {c cs} (h : name.toList = c :: cs) (hfirst : ¬ IsFirst c) :
    Breaks name (.badStart c name)
  | badCharacter {c cs d} (h : name.toList = c :: cs) (hd : d ∈ cs) (hfurther : ¬ IsFurther d) :
    Breaks name (.badCharacter d name)

theorem isAlpha_iff {c : Char} : c.isAlpha = true ↔ IsLetter c := by
  have halpha : c.isAlpha =
      (decide ('A' ≤ c ∧ c ≤ 'Z') || (decide ('a' ≤ c) && decide (c ≤ 'z'))) := rfl
  rw [halpha, IsLetter]
  simp

theorem isDigit_iff {c : Char} : c.isDigit = true ↔ IsDigit c := by
  have hdigit : c.isDigit = (decide ('0' ≤ c) && decide (c ≤ '9')) := rfl
  rw [hdigit, IsDigit]
  simp

theorem startsName_iff {c : Char} : startsName c = true ↔ IsFirst c := by
  rw [startsName, Bool.or_eq_true, beq_iff_eq, isAlpha_iff, or_comm, IsFirst]

theorem continuesName_iff {c : Char} : continuesName c = true ↔ IsFurther c := by
  have hboth : continuesName c = (c == '_' || c == '$' || (c.isAlpha || c.isDigit)) := rfl
  rw [hboth, IsFurther, ← isAlpha_iff, ← isDigit_iff]
  simp only [Bool.or_eq_true, beq_iff_eq]
  tauto

theorem fault?_eq_none_iff_matches {name : String} : fault? name = none ↔ Matches name := by
  simp only [fault?_eq_none_iff, startsName_iff, continuesName_iff, Matches]

/-- A fault of a name is one that it has. -/
theorem breaks_of_fault? {name : String} {fault : IdentifierFault}
    (h : fault? name = some fault) : Breaks name fault := by
  unfold fault? at h
  split at h
  · rename_i hnil
    obtain rfl := Option.some.inj h
    exact .empty hnil
  · rename_i c cs hcons
    split at h
    · obtain ⟨d, hd, rfl⟩ := Option.map_eq_some_iff.1 h
      have hbad : ¬ IsFurther d := by
        have hfound := List.find?_some hd
        rwa [Bool.not_eq_true', ← Bool.not_eq_true, continuesName_iff] at hfound
      exact .badCharacter hcons (List.mem_of_find?_eq_some hd) hbad
    · rename_i hstart
      obtain rfl := Option.some.inj h
      exact .badStart hcons (mt startsName_iff.2 hstart)

theorem Breaks.not_matches {name : String} {fault : IdentifierFault} (h : Breaks name fault) :
    ¬ Matches name := by
  rintro ⟨first, rest, hname, hfirst, hrest⟩
  cases h with
  | empty h => exact List.cons_ne_nil _ _ (hname.symm.trans h)
  | badStart h hbad =>
    obtain ⟨rfl, _⟩ := List.cons.inj (hname.symm.trans h)
    exact hbad hfirst
  | badCharacter h hd hbad =>
    obtain ⟨_, rfl⟩ := List.cons.inj (hname.symm.trans h)
    exact hbad (hrest _ hd)

end Identifier

/-! ## Fields -/

namespace FieldDecl

def IsKeyCharacter (c : Char) : Prop :=
  Text.isAlphanumeric c = true ∨ c = '_' ∨ c = '-'

def IsKey (key : String) : Prop :=
  key ≠ "" ∧ ∀ c ∈ key.toList, IsKeyCharacter c

/-- The name of the column: the field's own, where no other one is declared. -/
def columnName (d : FieldDecl) : String :=
  d.column.getD d.name

structure WellFormed (d : FieldDecl) : Prop where
  name_given : d.name ≠ ""
  name_undotted : '.' ∉ d.name.toList
  column_matches : Identifier.Matches d.columnName
  keys_suit : ∀ keys, d.keys = some keys → d.type = .json ∧ ∀ key ∈ keys, IsKey key
  options_cast : ∀ options, d.options = some options →
    ∀ o ∈ options, ∃ text, d.type.cast o = .ok text

inductive Breaks (d : FieldDecl) : SchemaFault → Prop where
  | emptyName (h : d.name = "") : Breaks d .emptyFieldName
  | dottedName (h : '.' ∈ d.name.toList) : Breaks d (.dottedFieldName d.name)
  | column {fault} (h : Identifier.Breaks d.columnName fault) : Breaks d (.identifier fault)
  | keysWithoutJson {keys} (h : d.keys = some keys) (htype : d.type ≠ .json) :
    Breaks d (.keysWithoutJson d.name d.type)
  | emptyKey {keys} (h : d.keys = some keys) (hkey : "" ∈ keys) : Breaks d (.emptyKey d.name)
  | badKey {keys key c} (h : d.keys = some keys) (hkey : key ∈ keys) (hc : c ∈ key.toList)
      (hbad : ¬ IsKeyCharacter c) : Breaks d (.badKey c key d.name)
  | badOption {options o fault} (h : d.options = some options) (ho : o ∈ options)
      (hcast : d.type.cast o = .error fault) : Breaks d (.badOption d.name ⟨d.name, fault⟩)

structure Declares (d : FieldDecl) (f : Field) : Prop where
  name_eq : f.name = d.name
  column_eq : f.column.text = d.columnName
  type_eq : f.type = d.type
  isArray_eq : f.isArray = d.isArray
  options_rel : Option.Rel (List.Forall₂ fun o text ↦ d.type.cast o = .ok text) d.options f.options
  selectable_eq : f.selectable = d.selectable
  insertable_eq : f.insertable = d.insertable
  updatable_eq : f.updatable = d.updatable
  nullable_eq : f.nullable = d.nullable
  encoder_eq : f.encoder = d.encoder
  decoder_eq : f.decoder = d.decoder
  keys_eq : f.keys = d.keys

theorem Breaks.not_wellFormed {d : FieldDecl} {fault : SchemaFault} (h : d.Breaks fault) :
    ¬ d.WellFormed := by
  intro hd
  cases h with
  | emptyName h => exact hd.name_given h
  | dottedName h => exact hd.name_undotted h
  | column h => exact h.not_matches hd.column_matches
  | keysWithoutJson h htype => exact htype (hd.keys_suit _ h).1
  | emptyKey h hkey => exact ((hd.keys_suit _ h).2 _ hkey).1 rfl
  | badKey h hkey hc hbad => exact hbad (((hd.keys_suit _ h).2 _ hkey).2 _ hc)
  | badOption h ho hcast =>
    obtain ⟨text, htext⟩ := hd.options_cast _ h _ ho
    rw [hcast] at htext
    cases htext

open Outcome

theorem isKeyCharacter_iff {c : Char} : isKeyCharacter c = true ↔ IsKeyCharacter c := by
  simp only [isKeyCharacter, Bool.or_eq_true, beq_iff_eq, IsKeyCharacter]
  tauto

/-- A name is taken as an identifier if it matches the pattern, and what can be wrong with it is all
that can be wrong. -/
theorem justified_identifier {name : String} {refuses : SchemaFault → Prop}
    (hrefuses : ∀ fault, Identifier.Breaks name fault → refuses (.identifier fault)) :
    Justified (fun i ↦ i.text = name ∧ Identifier.Matches name) refuses (identifier name) := by
  unfold identifier Identifier.read
  split
  · rename_i hread
    split at hread
    · rename_i hnone
      obtain rfl := Except.ok.inj hread
      exact .ok ⟨rfl, Identifier.fault?_eq_none_iff_matches.1 hnone⟩
    · cases hread
  · rename_i hread
    split at hread
    · cases hread
    · rename_i hsome
      obtain rfl := Except.error.inj hread
      exact .error (hrefuses _ (Identifier.breaks_of_fault? hsome))

theorem justified_checkKey {field key : String} {refuses : SchemaFault → Prop}
    (hempty : key = "" → refuses (.emptyKey field))
    (hbad : ∀ c ∈ key.toList, ¬ IsKeyCharacter c → refuses (.badKey c key field)) :
    Justified (fun _ ↦ IsKey key) refuses (checkKey field key) := by
  unfold checkKey
  split
  · rename_i hnone
    exact .error (hempty (by simpa using hnone))
  · rename_i hgiven
    split
    · rename_i c hfound
      have hfault := List.find?_some hfound
      rw [Bool.not_eq_true', ← Bool.not_eq_true, isKeyCharacter_iff] at hfault
      exact .error (hbad c (List.mem_of_find?_eq_some hfound) hfault)
    · rename_i hnone
      refine .ok ⟨by simpa using hgiven, ?_⟩
      intro c hc
      rw [← isKeyCharacter_iff]
      simpa using List.find?_eq_none.1 hnone c hc

theorem justified_checkKeys (d : FieldDecl) :
    Justified (fun _ ↦ ∀ keys, d.keys = some keys → d.type = .json ∧ ∀ key ∈ keys, IsKey key)
      d.Breaks d.checkKeys := by
  unfold checkKeys
  split
  · rename_i hnone
    exact .ok (by simp [hnone])
  · rename_i keys hkeys
    split
    · rename_i htype
      have hall : Justified (fun _ ↦ ∀ key ∈ keys, IsKey key) d.Breaks
          (keys.forM (checkKey d.name)) := by
        apply Justified.forM
        intro key hkey
        exact justified_checkKey (fun hempty ↦ .emptyKey hkeys (hempty ▸ hkey))
          fun c hc ↦ .badKey hkeys hkey hc
      refine hall.imp ?_ fun _ hfault ↦ hfault
      rintro - hvalid declared hdeclared
      obtain rfl := Option.some.inj (hkeys.symm.trans hdeclared)
      exact ⟨htype, hvalid⟩
    · rename_i htype
      exact .error (.keysWithoutJson hkeys htype)

theorem justified_castOptions (d : FieldDecl) :
    Justified (Option.Rel (List.Forall₂ fun o text ↦ d.type.cast o = .ok text) d.options) d.Breaks
      d.castOptions := by
  unfold castOptions
  split
  · rename_i hnone
    exact .ok (hnone ▸ .none)
  · rename_i options hoptions
    split
    · rename_i texts hcast
      exact .ok (hoptions ▸ .some (mapM_eq_ok_iff.1 hcast))
    · rename_i fault hcast
      obtain ⟨o, ho, hfault⟩ := exists_of_mapM_eq_error hcast
      exact .error (.badOption hoptions ho hfault)

/-- The check of a field gives the declared field if the declaration is well-formed, and otherwise
names something that is wrong with it. -/
theorem justified_check (d : FieldDecl) :
    Justified (fun f ↦ d.WellFormed ∧ d.Declares f) d.Breaks d.check := by
  unfold check
  by_cases hempty : d.name.isEmpty = true
  · rw [if_pos hempty]
    exact .error (Breaks.emptyName (by simpa using hempty))
  rw [if_neg hempty]
  by_cases hdot : d.name.toList.contains '.' = true
  · dsimp only
    rw [if_pos hdot]
    exact .error (Breaks.dottedName (by simpa using hdot))
  dsimp only
  rw [if_neg hdot]
  apply (justified_identifier fun _ ↦ Breaks.column).bind
  rintro column - ⟨htext, hmatches⟩
  apply d.justified_checkKeys.bind
  rintro - - hkeys
  apply d.justified_castOptions.bind
  rintro texts - htexts
  refine .ok ⟨⟨by simpa using hempty, by simpa using hdot, hmatches, hkeys, ?_⟩, ?_⟩
  · intro options hoptions o ho
    rw [hoptions] at htexts
    cases htexts with
    | some hall =>
      obtain ⟨text, _, htext⟩ := exists_mem_of_forall₂ hall ho
      exact ⟨text, htext⟩
  · exact ⟨rfl, htext, rfl, rfl, htexts, rfl, rfl, rfl, rfl, rfl, rfl, rfl⟩

end FieldDecl

/-! ## Schemas -/

/-- What a declared join is in a schema of the fields: the column that is joined to is that of the
declared field. -/
structure JoinDecl.Declares (fields : List Field) (d : JoinDecl) (j : Join) : Prop where
  name_eq : j.name = d.name
  table_eq : j.table = d.table
  field_eq : j.field = d.field
  column_eq : ∃ f ∈ fields, f.name = d.field ∧ j.column = f.column

namespace SchemaDecl

def fieldNames (d : SchemaDecl) : List String :=
  d.fields.map FieldDecl.name

def joinNames (d : SchemaDecl) : List String :=
  d.joins.map JoinDecl.name

structure WellFormed (d : SchemaDecl) : Prop where
  name_matches : Identifier.Matches d.name
  space_matches : ∀ space, d.space = some space → Identifier.Matches space
  key_matches : Identifier.Matches d.key
  fields_wellFormed : ∀ f ∈ d.fields, f.WellFormed
  field_names_nodup : d.fieldNames.Nodup
  join_names_match : ∀ j ∈ d.joins, Identifier.Matches j.name
  join_names_nodup : d.joinNames.Nodup
  join_names_fresh : ∀ j ∈ d.joins, j.name ∉ d.fieldNames
  join_fields_declared : ∀ j ∈ d.joins, j.field ∈ d.fieldNames
  constraint_fields_declared : ∀ c ∈ d.constraints, c.2 ∈ d.fieldNames

inductive Breaks (d : SchemaDecl) : SchemaFault → Prop where
  | name {fault} (h : Identifier.Breaks d.name fault) : Breaks d (.identifier fault)
  | space {space fault} (hspace : d.space = some space) (h : Identifier.Breaks space fault) :
    Breaks d (.identifier fault)
  | key {fault} (h : Identifier.Breaks d.key fault) : Breaks d (.identifier fault)
  | field {f fault} (hf : f ∈ d.fields) (h : f.Breaks fault) : Breaks d fault
  | duplicateField {name} (h : List.Duplicate name d.fieldNames) :
    Breaks d (.duplicateField name d.name)
  | badJoinName {j} (hj : j ∈ d.joins) (h : ¬ Identifier.Matches j.name) :
    Breaks d (.badJoinName j.name d.name)
  | joinNamedAsField {j} (hj : j ∈ d.joins) (h : j.name ∈ d.fieldNames) :
    Breaks d (.joinCollides j.name d.name)
  | duplicateJoin {name} (h : List.Duplicate name d.joinNames) :
    Breaks d (.joinCollides name d.name)
  | joinFieldUnknown {j} (hj : j ∈ d.joins) (h : j.field ∉ d.fieldNames) :
    Breaks d (.joinFieldUnknown j.name j.field d.name)
  | constraintFieldUnknown {c} (hc : c ∈ d.constraints) (h : c.2 ∉ d.fieldNames) :
    Breaks d (.constraintFieldUnknown c.1 c.2)

theorem Breaks.not_wellFormed {d : SchemaDecl} {fault : SchemaFault} (h : d.Breaks fault) :
    ¬ d.WellFormed := by
  intro hd
  cases h with
  | name h => exact h.not_matches hd.name_matches
  | space hspace h => exact h.not_matches (hd.space_matches _ hspace)
  | key h => exact h.not_matches hd.key_matches
  | field hf h => exact h.not_wellFormed (hd.fields_wellFormed _ hf)
  | duplicateField h => exact List.nodup_iff_forall_not_duplicate.1 hd.field_names_nodup _ h
  | badJoinName hj h => exact h (hd.join_names_match _ hj)
  | joinNamedAsField hj h => exact hd.join_names_fresh _ hj h
  | duplicateJoin h => exact List.nodup_iff_forall_not_duplicate.1 hd.join_names_nodup _ h
  | joinFieldUnknown hj h => exact h (hd.join_fields_declared _ hj)
  | constraintFieldUnknown hc h => exact h (hd.constraint_fields_declared _ hc)

/-- The schema that a declaration declares, with fields and joins in their order. -/
structure Declares (d : SchemaDecl) (s : Schema) : Prop where
  name_eq : s.name.text = d.name
  space_eq : s.space.map Identifier.text = d.space
  key_eq : s.key.text = d.key
  constraints_eq : s.constraints = d.constraints
  fields_rel : List.Forall₂ FieldDecl.Declares d.fields s.fields
  joins_rel : List.Forall₂ (JoinDecl.Declares s.fields) d.joins s.joins

/-- What is found in a schema by name: the one field and the one join of the name, nothing under a
name that was not declared, and for each join the field whose column it has. -/
structure Finds (d : SchemaDecl) (s : Schema) : Prop where
  field?_eq_some_iff : ∀ name f, s.field? name = some f ↔ f ∈ s.fields ∧ f.name = name
  field?_eq_none_iff : ∀ name, s.field? name = none ↔ name ∉ d.fieldNames
  join?_eq_some_iff : ∀ name j, s.join? name = some j ↔ j ∈ s.joins ∧ j.name = name
  join?_eq_none_iff : ∀ name, s.join? name = none ↔ name ∉ d.joinNames
  join_column : ∀ j ∈ s.joins, ∃ f, s.field? j.field = some f ∧ j.column = f.column

open Outcome

namespace Declares

variable {d : SchemaDecl} {s : Schema}

theorem field_names_eq (h : d.Declares s) : s.fields.map Field.name = d.fieldNames :=
  map_eq_map_of_forall₂ (fun _ _ hf ↦ hf.name_eq) h.fields_rel

theorem join_names_eq (h : d.Declares s) : s.joins.map Join.name = d.joinNames :=
  map_eq_map_of_forall₂ (fun _ _ hj ↦ hj.name_eq) h.joins_rel

/-- As declared names differ, everything is found under its own name. -/
theorem finds (h : d.Declares s) (hd : d.WellFormed) : d.Finds s := by
  have hfields : (s.fields.map Field.name).Nodup := h.field_names_eq ▸ hd.field_names_nodup
  have hjoins : (s.joins.map Join.name).Nodup := h.join_names_eq ▸ hd.join_names_nodup
  refine ⟨fun name f ↦ find?_eq_some_iff_of_nodup hfields,
    fun name ↦ h.field_names_eq ▸ find?_eq_none_iff_not_mem,
    fun name j ↦ find?_eq_some_iff_of_nodup hjoins,
    fun name ↦ h.join_names_eq ▸ find?_eq_none_iff_not_mem, ?_⟩
  intro j hj
  obtain ⟨e, _, he⟩ := exists_mem_of_forall₂ h.joins_rel.flip hj
  obtain ⟨f, hf, hname, hcolumn⟩ := he.column_eq
  have hfound : s.field? j.field = some f :=
    (find?_eq_some_iff_of_nodup hfields).2 ⟨hf, hname.trans he.field_eq.symm⟩
  exact ⟨f, hfound, hcolumn⟩

end Declares

/-! ### Checks -/

/-- Fields are refused for what is wrong with one of them, or for a name that was seen before. -/
theorem justified_checkFields {table : Identifier} {seen : List String} {ds : List FieldDecl}
    {refuses : SchemaFault → Prop} (hfield : ∀ d ∈ ds, ∀ fault, d.Breaks fault → refuses fault)
    (hseen : ∀ name ∈ seen, name ∈ ds.map FieldDecl.name →
      refuses (.duplicateField name table.text))
    (hduplicate : ∀ name, List.Duplicate name (ds.map FieldDecl.name) →
      refuses (.duplicateField name table.text)) :
    Justified (List.Forall₂ (fun d f ↦ d.WellFormed ∧ d.Declares f) ds) refuses
      (checkFields table seen ds) := by
  induction ds generalizing seen with
  | nil => exact .ok .nil
  | cons d ds ih =>
    rw [checkFields]
    apply (d.justified_check.imp (fun _ hf ↦ hf) (hfield d List.mem_cons_self)).bind
    intro f _ hf
    dsimp only
    split
    · rename_i hmem
      rw [hf.2.name_eq] at hmem ⊢
      exact .error (hseen d.name (by simpa using hmem) List.mem_cons_self)
    · have hrest := @ih (f.name :: seen)
        (fun e he ↦ hfield e (List.mem_cons_of_mem d he)) ?_
        (fun name hname ↦ hduplicate name (.cons_duplicate hname))
      · apply hrest.bind
        intro fs _ hfs
        exact .ok (.cons hf hfs)
      · intro name hname hmem
        -- A name that is met again is either the one just seen or one from before.
        rcases List.mem_cons.1 hname with hsame | hname
        · rw [hf.2.name_eq] at hsame
          exact hduplicate name (hsame ▸ .cons_mem (hsame ▸ hmem))
        · exact hseen name hname (List.mem_cons_of_mem d.name hmem)

theorem justified_checkJoin {table : Identifier} {fields : List Field} {taken : List String}
    {d : JoinDecl} {refuses : SchemaFault → Prop}
    (hbadName : ¬ Identifier.Matches d.name → refuses (.badJoinName d.name table.text))
    (htaken : d.name ∈ taken → refuses (.joinCollides d.name table.text))
    (hunknown : d.field ∉ fields.map Field.name →
      refuses (.joinFieldUnknown d.name d.field table.text)) :
    Justified (fun j ↦ Identifier.Matches d.name ∧ d.Declares fields j) refuses
      (checkJoin table fields taken d) := by
  unfold checkJoin
  by_cases hfault : (Identifier.fault? d.name).isSome = true
  · rw [if_pos hfault]
    obtain ⟨fault, hfault⟩ := Option.isSome_iff_exists.1 hfault
    exact .error (hbadName (Identifier.breaks_of_fault? hfault).not_matches)
  rw [if_neg hfault]
  dsimp only
  by_cases hmem : taken.contains d.name = true
  · rw [if_pos hmem]
    exact .error (htaken (by simpa using hmem))
  rw [if_neg hmem]
  split
  · rename_i f hf
    have hname : f.name = d.field := by simpa using List.find?_some hf
    refine .ok ⟨Identifier.fault?_eq_none_iff_matches.1 (by simpa using hfault), rfl, rfl, rfl, ?_⟩
    exact ⟨f, List.mem_of_find?_eq_some hf, hname, rfl⟩
  · rename_i hnone
    exact .error (hunknown (find?_eq_none_iff_not_mem.1 hnone))

/-- Joins are refused for what is wrong with one of them, or for a name that was taken before. -/
theorem justified_checkJoins {table : Identifier} {fields : List Field} {taken : List String}
    {ds : List JoinDecl} {refuses : SchemaFault → Prop}
    (hbadName : ∀ d ∈ ds, ¬ Identifier.Matches d.name → refuses (.badJoinName d.name table.text))
    (htaken : ∀ d ∈ ds, d.name ∈ taken → refuses (.joinCollides d.name table.text))
    (hduplicate : ∀ name, List.Duplicate name (ds.map JoinDecl.name) →
      refuses (.joinCollides name table.text))
    (hunknown : ∀ d ∈ ds, d.field ∉ fields.map Field.name →
      refuses (.joinFieldUnknown d.name d.field table.text)) :
    Justified (List.Forall₂ (fun d j ↦ Identifier.Matches d.name ∧ d.Declares fields j) ds)
      refuses (checkJoins table fields taken ds) := by
  induction ds generalizing taken with
  | nil => exact .ok .nil
  | cons d ds ih =>
    have hd : d ∈ d :: ds := List.mem_cons_self
    rw [checkJoins]
    apply (justified_checkJoin (hbadName d hd) (htaken d hd) (hunknown d hd)).bind
    intro j _ hj
    have hrest := @ih (j.name :: taken)
      (fun e he ↦ hbadName e (List.mem_cons_of_mem d he)) ?_
      (fun name hname ↦ hduplicate name (.cons_duplicate hname))
      (fun e he ↦ hunknown e (List.mem_cons_of_mem d he))
    · apply hrest.bind
      intro js _ hjs
      exact .ok (.cons hj hjs)
    · intro e he hmem
      rcases List.mem_cons.1 hmem with hsame | hmem
      · rw [hj.2.name_eq] at hsame
        exact hduplicate e.name (hsame ▸ .cons_mem (hsame ▸ List.mem_map_of_mem he))
      · exact htaken e (List.mem_cons_of_mem d he) hmem

theorem justified_checkConstraint {fields : List Field} {c : String × String}
    {refuses : SchemaFault → Prop}
    (hunknown : c.2 ∉ fields.map Field.name → refuses (.constraintFieldUnknown c.1 c.2)) :
    Justified (fun _ ↦ c.2 ∈ fields.map Field.name) refuses (checkConstraint fields c) := by
  unfold checkConstraint
  split
  · rename_i hany
    exact .ok (by simpa using hany)
  · rename_i hnone
    exact .error (hunknown (by simpa using hnone))

theorem justified_space (d : SchemaDecl) :
    Justified (fun space ↦ space.map Identifier.text = d.space ∧
        ∀ space, d.space = some space → Identifier.Matches space) d.Breaks
      (d.space.mapM FieldDecl.identifier) := by
  cases hdeclared : d.space with
  | none => exact .ok ⟨rfl, nofun⟩
  | some space =>
    apply (FieldDecl.justified_identifier fun _ ↦ Breaks.space hdeclared).bind
    rintro i - ⟨htext, hmatches⟩
    refine .ok ⟨congrArg some htext, ?_⟩
    intro other hother
    exact Option.some.inj hother ▸ hmatches

/-- Building gives the declared schema if the declaration is well-formed, and otherwise names
something that is wrong with it. -/
theorem justified_build (d : SchemaDecl) :
    Justified (fun s ↦ d.WellFormed ∧ d.Declares s) d.Breaks d.build := by
  apply (FieldDecl.justified_identifier fun _ ↦ Breaks.name).bind
  rintro name - ⟨hname, hnameMatches⟩
  apply d.justified_space.bind
  rintro space - ⟨hspace, hspaceMatches⟩
  apply (FieldDecl.justified_identifier fun _ ↦ Breaks.key).bind
  rintro key - ⟨hkey, hkeyMatches⟩
  apply (justified_checkFields (fun f hf _ ↦ Breaks.field hf) (by simp)
    (hname ▸ fun _ ↦ Breaks.duplicateField)).bind
  intro fields hfields hrel
  have hnames : fields.map Field.name = d.fieldNames :=
    map_eq_map_of_forall₂ (fun _ _ h ↦ h.2.name_eq) hrel
  apply (justified_checkJoins (hname ▸ fun _ ↦ Breaks.badJoinName)
    (hnames ▸ hname ▸ fun _ ↦ Breaks.joinNamedAsField) (hname ▸ fun _ ↦ Breaks.duplicateJoin)
    (hnames ▸ hname ▸ fun _ ↦ Breaks.joinFieldUnknown)).bind
  intro joins hjoins hjoinsRel
  apply (Justified.forM fun c hc ↦
    justified_checkConstraint (hnames ▸ Breaks.constraintFieldUnknown hc)).bind
  rintro - - hconstraints
  have hdeclares : d.Declares { space, name, key, fields, constraints := d.constraints, joins } :=
    ⟨hname, hspace, hkey, rfl, hrel.imp fun _ _ h ↦ h.2, hjoinsRel.imp fun _ _ h ↦ h.2⟩
  -- That names differ is not in the relation of the lists, but follows from how they were checked.
  obtain ⟨hjoinNodup, hjoinFresh, -⟩ := nodup_of_checkJoins hjoins
  have hjoinOf : ∀ j ∈ d.joins, Identifier.Matches j.name ∧ j.name ∉ d.fieldNames ∧
      j.field ∈ d.fieldNames := by
    intro j hj
    obtain ⟨joined, hjoined, hmatches, hjoin⟩ := exists_mem_of_forall₂ hjoinsRel hj
    obtain ⟨f, hf, hfield, _⟩ := hjoin.column_eq
    refine ⟨hmatches, ?_, ?_⟩
    · intro hmem
      rw [← hjoin.name_eq, ← hnames] at hmem
      exact hjoinFresh _ hmem (List.mem_map_of_mem hjoined)
    · rw [← hfield, ← hnames]
      exact List.mem_map_of_mem hf
  refine .ok ⟨?_, hdeclares⟩
  exact {
    name_matches := hnameMatches
    space_matches := hspaceMatches
    key_matches := hkeyMatches
    fields_wellFormed := fun f hf ↦ by
      obtain ⟨_, _, hwell, _⟩ := exists_mem_of_forall₂ hrel hf
      exact hwell
    field_names_nodup := hnames ▸ (nodup_of_checkFields hfields).1
    join_names_match := fun j hj ↦ (hjoinOf j hj).1
    join_names_nodup := hdeclares.join_names_eq ▸ hjoinNodup
    join_names_fresh := fun j hj ↦ (hjoinOf j hj).2.1
    join_fields_declared := fun j hj ↦ (hjoinOf j hj).2.2
    constraint_fields_declared := hnames ▸ hconstraints }

/-- A declaration builds a schema exactly if it is well-formed. Otherwise the error is one of the
schema, which names something that is wrong with the declaration. The schema that is built is the
declared one, in which fields and joins are found by their names. -/
theorem build_eq_ok_iff_wellFormed (d : SchemaDecl) :
    ((∃ s, d.build = .ok s) ↔ d.WellFormed) ∧
      (∀ e, d.build.mapError Error.schema = .error e →
        ∃ fault, e = .schema fault ∧ d.Breaks fault) ∧
      ∀ s, d.build = .ok s → d.Declares s ∧ d.Finds s := by
  refine ⟨⟨?_, ?_⟩, ?_, ?_⟩
  · rintro ⟨s, hs⟩
    exact (d.justified_build.of_eq_ok hs).1
  · intro hd
    cases hbuild : d.build with
    | ok s => exact ⟨s, rfl⟩
    | error fault => exact absurd hd (d.justified_build.of_eq_error hbuild).not_wellFormed
  · intro e he
    cases hbuild : d.build with
    | ok s =>
      rw [hbuild] at he
      cases he
    | error fault =>
      rw [hbuild] at he
      exact ⟨fault, (Except.error.inj he).symm, d.justified_build.of_eq_error hbuild⟩
  · intro s hs
    obtain ⟨hwell, hdeclares⟩ := d.justified_build.of_eq_ok hs
    exact ⟨hdeclares, hdeclares.finds hwell⟩

end SchemaDecl

end SchemaSql
