import Mathlib.Data.List.Nodup
import SchemaSql.Json.Basic

/-!
# Members of objects

An object is made by putting members into it one after another. What is found under a key is what
was put there last; so members whose keys differ are all kept, each once.
-/

namespace SchemaSql

/-- Of pairs that differ in their first parts, the one of a key is found under it. -/
theorem lookup_eq_some_of_mem {β : Type} {members : List (String × β)}
    (hnodup : (members.map Prod.fst).Nodup) {key : String} {b : β} (h : (key, b) ∈ members) :
    members.lookup key = some b := by
  induction members with
  | nil => cases h
  | cons first members ih =>
    obtain ⟨hfresh, hrest⟩ := List.nodup_cons.1 hnodup
    rcases List.mem_cons.1 h with hsame | hmem
    · subst hsame
      simp
    · have hne : key ≠ first.1 := fun heq ↦ hfresh (heq ▸ List.mem_map_of_mem hmem)
      rw [List.lookup_cons, beq_eq_false_iff_ne.2 hne]
      exact ih hrest hmem

theorem mem_of_lookup_eq_some {β : Type} {members : List (String × β)} {key : String} {b : β}
    (h : members.lookup key = some b) : (key, b) ∈ members := by
  obtain ⟨before, after, hsplit, _⟩ := List.lookup_eq_some_iff.1 h
  rw [hsplit]
  exact List.mem_append_right before List.mem_cons_self

/-- The value that a key has last. -/
theorem lookup_reverse_eq_some_iff {β : Type} {pairs : List (String × β)} {key : String} {b : β} :
    pairs.reverse.lookup key = some b ↔
      ∃ before after, pairs = before ++ (key, b) :: after ∧ ∀ p ∈ after, p.1 ≠ key := by
  rw [List.lookup_eq_some_iff]
  constructor
  · rintro ⟨after, before, hsplit, hlast⟩
    refine ⟨before.reverse, after.reverse, ?_, ?_⟩
    · rw [← List.reverse_reverse pairs, hsplit]
      simp
    · intro p hp
      exact (bne_iff_ne.1 (hlast p (List.mem_reverse.1 hp))).symm
  · rintro ⟨before, after, rfl, hlast⟩
    refine ⟨after.reverse, before.reverse, by simp, ?_⟩
    intro p hp
    exact bne_iff_ne.2 (hlast p (List.mem_reverse.1 hp)).symm

theorem lookup_reverse_eq_none_iff {β : Type} {pairs : List (String × β)} {key : String} :
    pairs.reverse.lookup key = none ↔ ∀ p ∈ pairs, p.1 ≠ key := by
  simp only [List.lookup_eq_none_iff, List.mem_reverse, bne_iff_ne, ne_comm]

/-- Where all keys differ, the first and the last value of a key are the same. -/
theorem lookup_reverse_of_nodup {β : Type} {pairs : List (String × β)}
    (h : (pairs.map Prod.fst).Nodup) (key : String) :
    pairs.reverse.lookup key = pairs.lookup key := by
  have hreverse : (pairs.reverse.map Prod.fst).Nodup := by
    rw [List.map_reverse]
    exact List.nodup_reverse.2 h
  apply Option.ext
  intro b
  constructor
  · intro hlast
    exact lookup_eq_some_of_mem h (List.mem_reverse.1 (mem_of_lookup_eq_some hlast))
  · intro hfirst
    exact lookup_eq_some_of_mem hreverse (List.mem_reverse.2 (mem_of_lookup_eq_some hfirst))

theorem isSome_lookup {β : Type} (pairs : List (String × β)) (key : String) :
    (pairs.lookup key).isSome = pairs.any fun p ↦ p.1 == key := by
  rw [Bool.eq_iff_iff, List.lookup_isSome_iff, List.any_eq_true]
  constructor
  · rintro ⟨p, hp, hkey⟩
    exact ⟨p, hp, BEq.symm hkey⟩
  · rintro ⟨p, hp, hkey⟩
    exact ⟨p, hp, BEq.symm hkey⟩

theorem lookup_map_snd {β γ : Type} (g : β → γ) (pairs : List (String × β)) (key : String) :
    (pairs.map fun p ↦ (p.1, g p.2)).lookup key = (pairs.lookup key).map g := by
  induction pairs with
  | nil => rfl
  | cons p pairs ih =>
    rw [List.map_cons, List.lookup_cons, List.lookup_cons]
    cases key == p.1 with
    | true => rfl
    | false => exact ih

namespace Json

/-- Putting a member changes what is found under its own key, and nothing else. -/
theorem lookup_insertMember (key : String) (value : Json) (members : List (String × Json))
    (wanted : String) :
    (insertMember key value members).lookup wanted =
      if wanted = key then some value else members.lookup wanted := by
  split
  · rename_i heq
    rw [heq, lookup_insertMember_self]
  · rename_i hne
    have hother : (wanted == key) = false := beq_eq_false_iff_ne.2 hne
    induction members with
    | nil => simp [insertMember, List.lookup_cons, hother]
    | cons m members ih =>
      obtain ⟨k, v⟩ := m
      unfold insertMember
      split
      · rw [List.lookup_cons, hother]
      · split
        · rename_i hsame
          rw [List.lookup_cons, List.lookup_cons, ← hsame, hother]
        · rw [List.lookup_cons, List.lookup_cons, ih]

/-- What is found under a key of an object is the member of this key that came last. -/
theorem get?_ofMembers (members : List (String × Json)) (key : String) :
    (ofMembers members).get? key = members.reverse.lookup key := by
  have hfold (members sorted : List (String × Json)) :
      (members.foldl (fun sorted m ↦ insertMember m.1 m.2 sorted) sorted).lookup key =
        (members.reverse ++ sorted).lookup key := by
    induction members generalizing sorted with
    | nil => rfl
    | cons m members ih =>
      rw [List.foldl_cons, ih, List.reverse_cons, List.append_assoc, List.lookup_append,
        List.lookup_append, lookup_insertMember, List.singleton_append, List.lookup_cons]
      by_cases hkey : key = m.1
      · simp [hkey]
      · rw [if_neg hkey, beq_eq_false_iff_ne.2 hkey]
  rw [ofMembers, get?, hfold, List.append_nil]

/-- A member of a new key is put among the others. -/
theorem insertMember_perm {key : String} {value : Json} {members : List (String × Json)}
    (h : key ∉ members.map Prod.fst) :
    (insertMember key value members).Perm ((key, value) :: members) := by
  induction members with
  | nil => exact .refl _
  | cons m members ih =>
    obtain ⟨k, v⟩ := m
    obtain ⟨hne, hfresh⟩ := List.ne_and_not_mem_of_not_mem_cons h
    by_cases hlt : key < k
    · rw [insertMember, if_pos hlt]
    · rw [insertMember, if_neg hlt, if_neg hne]
      exact ((ih hfresh).cons (k, v)).trans (.swap _ _ _)

/-- Members whose keys differ are all kept. -/
theorem exists_ofMembers_perm {members : List (String × Json)}
    (h : (members.map Prod.fst).Nodup) :
    ∃ sorted, ofMembers members = .object sorted ∧ sorted.Perm members := by
  have hfold (members sorted : List (String × Json))
      (h : ((members ++ sorted).map Prod.fst).Nodup) :
      (members.foldl (fun sorted m ↦ insertMember m.1 m.2 sorted) sorted).Perm
        (members ++ sorted) := by
    induction members generalizing sorted with
    | nil => exact .refl _
    | cons m members ih =>
      have hmoved : (members ++ m :: sorted).Perm (m :: members ++ sorted) := List.perm_middle
      have hnodup := ((hmoved.map Prod.fst).nodup_iff).2 h
      have hfresh : m.1 ∉ sorted.map Prod.fst := by
        rw [List.map_append, List.map_cons] at hnodup
        exact (List.nodup_cons.1 (List.nodup_append.1 hnodup).2.1).1
      have hput : (members ++ insertMember m.1 m.2 sorted).Perm (members ++ m :: sorted) :=
        (insertMember_perm hfresh).append_left members
      exact ((ih _ (((hput.map Prod.fst).nodup_iff).2 hnodup)).trans hput).trans hmoved
  refine ⟨_, rfl, ?_⟩
  simpa using hfold members [] (by simpa using h)

/-- Of members whose keys differ, each is found under its own. -/
theorem get?_ofMembers_of_mem {members : List (String × Json)}
    (h : (members.map Prod.fst).Nodup) {key : String} {value : Json}
    (hmem : (key, value) ∈ members) : (ofMembers members).get? key = some value := by
  rw [get?_ofMembers]
  apply lookup_eq_some_of_mem
  · rw [List.map_reverse]
    exact List.nodup_reverse.2 h
  · exact List.mem_reverse.2 hmem

end Json

end SchemaSql
