import Mathlib.Data.List.Forall2

/-!
# Outcomes of checked computations

A computation that may be refused gives a result exactly if each of its parts does. These facts
take a chain of checks apart, and a check of every element of a list.
-/

namespace SchemaSql.Outcome

variable {ε α β : Type}

theorem bind_eq_ok_iff {x : Except ε α} {f : α → Except ε β} {b : β} :
    (x >>= f) = .ok b ↔ ∃ a, x = .ok a ∧ f a = .ok b := by
  cases x with
  | error e => simp [bind, Except.bind]
  | ok a => simp [bind, Except.bind]

theorem bind_eq_error_iff {x : Except ε α} {f : α → Except ε β} {e : ε} :
    (x >>= f) = .error e ↔ x = .error e ∨ ∃ a, x = .ok a ∧ f a = .error e := by
  cases x with
  | error fault => simp [bind, Except.bind]
  | ok a => simp [bind, Except.bind]

theorem map_eq_ok_iff {x : Except ε α} {f : α → β} {b : β} :
    x.map f = .ok b ↔ ∃ a, x = .ok a ∧ f a = b := by
  cases x with
  | error e => simp [Except.map]
  | ok a => simp [Except.map]

/-- A check of all elements succeeds exactly if each succeeds, with the results in their order. -/
theorem mapM_eq_ok_iff {f : α → Except ε β} {as : List α} {bs : List β} :
    as.mapM f = .ok bs ↔ List.Forall₂ (fun a b ↦ f a = .ok b) as bs := by
  induction as generalizing bs with
  | nil =>
    rw [List.mapM_nil, List.forall₂_nil_left_iff]
    exact ⟨fun h ↦ (Except.ok.inj h).symm, fun h ↦ h ▸ rfl⟩
  | cons a as ih =>
    rw [List.mapM_cons, bind_eq_ok_iff, List.forall₂_cons_left_iff]
    constructor
    · rintro ⟨b, hb, h⟩
      obtain ⟨bs, hbs, h⟩ := bind_eq_ok_iff.1 h
      exact ⟨b, bs, hb, ih.1 hbs, (Except.ok.inj h).symm⟩
    · rintro ⟨b, bs, hb, hbs, rfl⟩
      refine ⟨b, hb, ?_⟩
      rw [ih.2 hbs]
      rfl

/-- Lists that are related element by element are related at each place. -/
theorem exists_getElem?_of_forall₂ {R : α → β → Prop} {as : List α} {bs : List β}
    (h : List.Forall₂ R as bs) {i : Nat} {a : α} (ha : as[i]? = some a) :
    ∃ b, bs[i]? = some b ∧ R a b := by
  induction h generalizing i with
  | nil => simp at ha
  | cons hab _ ih =>
    cases i with
    | zero =>
      obtain rfl := Option.some.inj ha
      exact ⟨_, rfl, hab⟩
    | succ i => exact ih ha

/-- Lists that are related element by element have a related element for each one. -/
theorem exists_mem_of_forall₂ {R : α → β → Prop} {as : List α} {bs : List β}
    (h : List.Forall₂ R as bs) {a : α} (ha : a ∈ as) : ∃ b ∈ bs, R a b := by
  obtain ⟨i, hi⟩ := List.getElem?_of_mem ha
  obtain ⟨b, hb, hab⟩ := exists_getElem?_of_forall₂ h hi
  exact ⟨b, List.mem_of_getElem? hb, hab⟩

/-- Lists that are related element by element have the same images where related elements have. -/
theorem map_eq_map_of_forall₂ {γ : Type} {R : α → β → Prop} {f : α → γ} {g : β → γ}
    (hsame : ∀ a b, R a b → g b = f a) {as : List α} {bs : List β} (h : List.Forall₂ R as bs) :
    bs.map g = as.map f := by
  induction h with
  | nil => rfl
  | cons hab _ ih => rw [List.map_cons, List.map_cons, hsame _ _ hab, ih]

/-- A check of all elements succeeds exactly if each of them passes it. -/
theorem exists_mapM_eq_ok_iff {f : α → Except ε β} {as : List α} :
    (∃ bs, as.mapM f = .ok bs) ↔ ∀ a ∈ as, ∃ b, f a = .ok b := by
  constructor
  · rintro ⟨bs, hbs⟩ a ha
    obtain ⟨b, _, hb⟩ := exists_mem_of_forall₂ (mapM_eq_ok_iff.1 hbs) ha
    exact ⟨b, hb⟩
  · intro h
    induction as with
    | nil => exact ⟨[], rfl⟩
    | cons a as ih =>
      obtain ⟨b, hb⟩ := h a List.mem_cons_self
      obtain ⟨bs, hbs⟩ := ih fun c hc ↦ h c (List.mem_cons_of_mem a hc)
      exact ⟨b :: bs, mapM_eq_ok_iff.2 (.cons hb (mapM_eq_ok_iff.1 hbs))⟩

/-- A check of all elements fails as one of them does. -/
theorem exists_of_mapM_eq_error {f : α → Except ε β} {as : List α} {e : ε}
    (h : as.mapM f = .error e) : ∃ a ∈ as, f a = .error e := by
  induction as with
  | nil =>
    rw [List.mapM_nil] at h
    cases h
  | cons a as ih =>
    rw [List.mapM_cons] at h
    rcases bind_eq_error_iff.1 h with ha | ⟨b, _, h⟩
    · exact ⟨a, List.mem_cons_self, ha⟩
    · rcases bind_eq_error_iff.1 h with hrest | ⟨bs, _, hdone⟩
      · obtain ⟨c, hc, hfail⟩ := ih hrest
        exact ⟨c, List.mem_cons_of_mem a hc, hfail⟩
      · cases hdone

/-- Computations that agree on each element agree on the list. -/
theorem mapM_congr {f g : α → Except ε β} {as : List α} (h : ∀ a ∈ as, f a = g a) :
    as.mapM f = as.mapM g := by
  induction as with
  | nil => rfl
  | cons a as ih =>
    obtain ⟨ha, has⟩ := List.forall_mem_cons.1 h
    rw [List.mapM_cons, List.mapM_cons, ha, ih has]

/-- Two lists that differ in one element are checked alike beside a third one if the elements are
checked alike at their place. -/
theorem mapM_zip_congr {γ : Type} {f : α × β → Except ε γ} {as : List α} {before : List β} {b c : β}
    (h : ∀ a, as[before.length]? = some a → f (a, b) = f (a, c)) (after : List β) :
    (as.zip (before ++ b :: after)).mapM f = (as.zip (before ++ c :: after)).mapM f := by
  induction as generalizing before with
  | nil => rfl
  | cons a as ih =>
    cases before with
    | nil =>
      rw [List.nil_append, List.nil_append, List.zip_cons_cons, List.zip_cons_cons,
        List.mapM_cons, List.mapM_cons, h a rfl]
    | cons d before =>
      rw [List.cons_append, List.cons_append, List.zip_cons_cons, List.zip_cons_cons,
        List.mapM_cons, List.mapM_cons, ih h]

/-! ## One element after another -/

/-- What comes of a computation on each element: the results of all of them in their order, or the
error of the first one that fails. -/
inductive InOrder (f : α → Except ε β) (as : List α) : Except ε (List β) → Prop where
  | ok {bs} (each : List.Forall₂ (fun a b ↦ f a = .ok b) as bs) : InOrder f as (.ok bs)
  | error {before a after e} (split : as = before ++ a :: after)
      (before_ok : ∀ b ∈ before, ∃ c, f b = .ok c) (fails : f a = .error e) :
      InOrder f as (.error e)

theorem inOrder_mapM (f : α → Except ε β) (as : List α) : InOrder f as (as.mapM f) := by
  induction as with
  | nil => exact .ok .nil
  | cons a as ih =>
    rw [List.mapM_cons]
    cases ha : f a with
    | error e => exact .error (List.nil_append _).symm (by simp) ha
    | ok b =>
      cases has : as.mapM f with
      | ok bs => exact .ok (.cons ha (mapM_eq_ok_iff.1 has))
      | error e =>
        rw [has] at ih
        cases ih with
        | @error before c after _ split before_ok fails =>
          have hsplit : a :: as = (a :: before) ++ c :: after := by rw [split, List.cons_append]
          exact .error hsplit (List.forall_mem_cons.2 ⟨⟨b, ha⟩, before_ok⟩) fails

/-! ## Justified outcomes -/

/-- An outcome that is justified either way: a result is as results should be, and an error is
raised for a reason. -/
inductive Justified (accepts : α → Prop) (refuses : ε → Prop) : Except ε α → Prop where
  | ok {a : α} (h : accepts a) : Justified accepts refuses (.ok a)
  | error {e : ε} (h : refuses e) : Justified accepts refuses (.error e)

namespace Justified

variable {accepts : α → Prop} {refuses : ε → Prop} {x : Except ε α}

theorem of_eq_ok (h : Justified accepts refuses x) {a : α} (hx : x = .ok a) : accepts a := by
  subst hx
  cases h
  assumption

theorem of_eq_error (h : Justified accepts refuses x) {e : ε} (hx : x = .error e) :
    refuses e := by
  subst hx
  cases h
  assumption

theorem imp {accepts' : α → Prop} {refuses' : ε → Prop} (h : Justified accepts refuses x)
    (haccepts : ∀ a, accepts a → accepts' a) (hrefuses : ∀ e, refuses e → refuses' e) :
    Justified accepts' refuses' x := by
  cases h with
  | ok h => exact .ok (haccepts _ h)
  | error h => exact .error (hrefuses _ h)

/-- A computation in two parts is justified if its first part is, and its second part is after every
result of the first. -/
theorem bind {accepts' : β → Prop} {f : α → Except ε β} (h : Justified accepts refuses x)
    (hf : ∀ a, x = .ok a → accepts a → Justified accepts' refuses (f a)) :
    Justified accepts' refuses (x >>= f) := by
  cases h with
  | ok h => exact hf _ rfl h
  | error h => exact .error h

theorem forM {accepts : α → Prop} {f : α → Except ε PUnit} {as : List α}
    (h : ∀ a ∈ as, Justified (fun _ ↦ accepts a) refuses (f a)) :
    Justified (fun _ ↦ ∀ a ∈ as, accepts a) refuses (as.forM f) := by
  induction as with
  | nil => exact .ok (by simp)
  | cons a as ih =>
    obtain ⟨ha, has⟩ := List.forall_mem_cons.1 h
    apply ha.bind
    intro _ _ hfirst
    exact (ih has).imp (fun _ hrest ↦ List.forall_mem_cons.2 ⟨hfirst, hrest⟩) fun _ he ↦ he

end Justified

end SchemaSql.Outcome
