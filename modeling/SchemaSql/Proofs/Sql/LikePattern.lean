import Mathlib.Data.List.Infix

/-!
# Patterns of texts

How a database holds a text against a pattern: a percent sign fits any sequence of characters, an
underscore any one of them, a backslash takes the character after it as it is, and whatever else
fits itself. Between percent signs, a text without such signs finds exactly the texts in which it
occurs. With one it also finds a text in which it does not.
-/

namespace SchemaSql.LikePattern

/-! ## Fitting -/

/-- Whether a character of a pattern means something other than itself. -/
def isSign (c : Char) : Bool :=
  c == '%' || c == '_' || c == '\\'

/-- A text without signs. -/
def Plain (v : List Char) : Prop :=
  ∀ c ∈ v, isSign c = false

instance (v : List Char) : Decidable (Plain v) :=
  List.decidableBAll (fun c ↦ isSign c = false) v

/-- Whether a text begins with a character that passes a test, and goes on as `rest` has it. -/
def headed (test : Char → Bool) (rest : List Char → Bool) : List Char → Bool
  | [] => false
  | c :: cs => test c && rest cs

/-- Whether a text fits a pattern; characters are the same if `fold` makes them so. A backslash at
the end of a pattern fits nothing. -/
def fits (fold : Char → Char) : List Char → List Char → Bool
  | [] => List.isEmpty
  | '%' :: p => fun cs ↦ cs.tails.any (fits fold p)
  | '_' :: p => headed (fun _ ↦ true) (fits fold p)
  | '\\' :: a :: p => headed (fun c ↦ fold a == fold c) (fits fold p)
  | ['\\'] => fun _ ↦ false
  | a :: p => headed (fun c ↦ fold a == fold c) (fits fold p)

def Occurs (fold : Char → Char) (v cs : List Char) : Prop :=
  v.map fold <:+: cs.map fold

instance (fold : Char → Char) (v cs : List Char) : Decidable (Occurs fold v cs) :=
  inferInstanceAs (Decidable (v.map fold <:+: cs.map fold))

variable {fold : Char → Char} {p v cs : List Char}

theorem fits_percent : fits fold ('%' :: p) cs = true ↔ ∃ ds, ds <:+ cs ∧ fits fold p ds = true := by
  simp [fits]

theorem fits_percent_end (cs : List Char) : fits fold ['%'] cs = true :=
  fits_percent.2 ⟨[], List.nil_suffix, rfl⟩

theorem fits_character {a : Char} (h : isSign a = false) :
    fits fold (a :: p) cs = headed (fun c ↦ fold a == fold c) (fits fold p) cs := by
  simp only [isSign, Bool.or_eq_false_iff, beq_eq_false_iff_ne] at h
  obtain ⟨⟨hpercent, hunderscore⟩, hbackslash⟩ := h
  rw [fits.eq_6 fold a p hpercent hunderscore (fun _ _ ha _ ↦ hbackslash ha)
    (fun ha _ ↦ hbackslash ha)]

/-! ## Plain texts -/

/-- A plain text at the front of a pattern fits itself. -/
theorem fits_plain (h : Plain v) :
    fits fold (v ++ p) cs = true ↔
      ∃ a b, cs = a ++ b ∧ a.map fold = v.map fold ∧ fits fold p b = true := by
  induction v generalizing cs with
  | nil => simp
  | cons c v ih =>
    obtain ⟨hc, hv⟩ := List.forall_mem_cons.1 h
    rw [List.cons_append, fits_character hc]
    cases cs with
    | nil => simp [headed]
    | cons d cs =>
      rw [headed, Bool.and_eq_true, beq_iff_eq, ih hv]
      constructor
      · rintro ⟨hsame, a, b, rfl, ha, hb⟩
        exact ⟨d :: a, b, rfl, by rw [List.map_cons, List.map_cons, hsame, ha], hb⟩
      · rintro ⟨a, b, hsplit, ha, hb⟩
        cases a with
        | nil => cases ha
        | cons e a =>
          obtain ⟨rfl, rfl⟩ := List.cons.inj hsplit
          obtain ⟨hsame, ha⟩ := List.cons.inj ha
          exact ⟨hsame.symm, a, b, rfl, ha, hb⟩

theorem occurs_iff :
    Occurs fold v cs ↔ ∃ s a b, cs = s ++ (a ++ b) ∧ a.map fold = v.map fold := by
  constructor
  · rintro ⟨s, t, h⟩
    obtain ⟨front, b, rfl, hfront, rfl⟩ := List.map_eq_append_iff.1 h.symm
    obtain ⟨s, a, rfl, rfl, ha⟩ := List.map_eq_append_iff.1 hfront
    exact ⟨s, a, b, List.append_assoc s a b, ha⟩
  · rintro ⟨s, a, b, rfl, ha⟩
    exact ⟨s.map fold, b.map fold, by simp [ha]⟩

/-- Between percent signs, a plain text finds the texts that it occurs in. -/
theorem fits_containing (h : Plain v) :
    fits fold ('%' :: (v ++ ['%'])) cs = true ↔ Occurs fold v cs := by
  rw [fits_percent, occurs_iff]
  constructor
  · rintro ⟨ds, ⟨s, rfl⟩, hfits⟩
    obtain ⟨a, b, rfl, ha, _⟩ := (fits_plain h).1 hfits
    exact ⟨s, a, b, rfl, ha⟩
  · rintro ⟨s, a, b, rfl, ha⟩
    exact ⟨a ++ b, ⟨s, rfl⟩, (fits_plain h).2 ⟨a, b, rfl, ha, fits_percent_end b⟩⟩

/-! ## Texts with signs -/

/-- A text that a search finds for the signs in the text that it searches: percent signs are left
out, an underscore is met by a percent sign, and a backslash gives way to the character after it,
which is the closing percent sign behind the last one. -/
def decoy : List Char → List Char
  | [] => []
  | '%' :: v => decoy v
  | '_' :: v => '%' :: decoy v
  | '\\' :: a :: v => a :: decoy v
  | ['\\'] => ['%']
  | a :: v => a :: decoy v

/-- A character is no sign if it is none of those that are read apart. -/
theorem isSign_eq_false {a : Char} (hpercent : a ≠ '%') (hunderscore : a ≠ '_')
    (hescape : ∀ b w, a = '\\' → v = b :: w → False) (hlast : a = '\\' → v = [] → False) :
    isSign a = false := by
  have hbackslash : a ≠ '\\' := by
    intro ha
    cases v with
    | nil => exact hlast ha rfl
    | cons b v => exact hescape b v ha rfl
  simp [isSign, hpercent, hunderscore, hbackslash]

theorem fits_decoy (v : List Char) : fits fold (v ++ ['%']) (decoy v) = true := by
  fun_induction decoy v with
  | case1 => exact fits_percent_end []
  | case2 v ih => exact fits_percent.2 ⟨decoy v, List.suffix_refl _, ih⟩
  | case3 v ih => simp [fits, headed, ih]
  | case4 a v ih => simp [fits, headed, ih]
  | case5 => simp [fits, headed]
  | case6 a v hpercent hunderscore hescape hlast ih =>
    rw [List.cons_append, fits_character (isSign_eq_false hpercent hunderscore hescape hlast)]
    simp [headed, ih]

theorem length_decoy_le (v : List Char) : (decoy v).length ≤ v.length := by
  fun_induction decoy v with
  | case1 => exact Nat.le_refl _
  | case2 v ih => exact Nat.le_succ_of_le ih
  | case3 v ih => exact Nat.succ_le_succ ih
  | case4 a v ih => exact Nat.le_succ_of_le (Nat.succ_le_succ ih)
  | case5 => exact Nat.le_refl _
  | case6 a v _ _ _ _ ih => exact Nat.succ_le_succ ih

/-- Signs that are met by a percent sign are told apart from it. -/
structure SignsApart (fold : Char → Char) : Prop where
  underscore : fold '_' ≠ fold '%'
  backslash : fold '\\' ≠ fold '%'

example : SignsApart Char.toLower :=
  ⟨by decide, by decide⟩

/-- Only a plain text is its own decoy. -/
theorem plain_of_map_decoy (hfold : SignsApart fold) (h : v.map fold = (decoy v).map fold) :
    Plain v := by
  have hshort {a : Char} {u w : List Char} (hlength : w.length ≤ u.length) :
      (a :: u).map fold ≠ w.map fold := by
    intro hsame
    have := congrArg List.length hsame
    simp only [List.length_map, List.length_cons] at this
    omega
  fun_induction decoy v with
  | case1 => exact List.forall_mem_nil _
  | case2 v => exact absurd h (hshort (length_decoy_le v))
  | case3 v => exact absurd (List.cons.inj h).1 hfold.underscore
  | case4 a v => exact absurd h (hshort (Nat.succ_le_succ (length_decoy_le v)))
  | case5 => exact absurd (List.cons.inj h).1 hfold.backslash
  | case6 a v hpercent hunderscore hescape hlast ih =>
    exact List.forall_mem_cons.2
      ⟨isSign_eq_false hpercent hunderscore hescape hlast, ih (List.cons.inj h).2⟩

/-- Between percent signs, only a plain text finds nothing but the texts that it occurs in. -/
theorem plain_of_fits_containing (hfold : SignsApart fold)
    (h : ∀ cs, fits fold ('%' :: (v ++ ['%'])) cs = true → Occurs fold v cs) : Plain v := by
  have hfits : fits fold ('%' :: (v ++ ['%'])) (decoy v) = true :=
    fits_percent.2 ⟨decoy v, List.suffix_refl _, fits_decoy v⟩
  have hoccurs : v.map fold <:+: (decoy v).map fold := h (decoy v) hfits
  apply plain_of_map_decoy hfold
  exact hoccurs.eq_of_length_le (by simpa using length_decoy_le v)

/-- A percent sign of the text that is searched for counts as one of the pattern. -/
example : fits Char.toLower "%50%%".toList "1500".toList = true ∧
    ¬Occurs Char.toLower "50%".toList "1500".toList := by
  decide

end SchemaSql.LikePattern
