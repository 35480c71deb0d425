import Mathlib.Data.List.TakeWhile
import SchemaSql.Text.Blank

/-!
# Runs of characters

A reader takes a run of characters of one class from the front of a text. Where what follows the
run begins with a character of another class, or the text ends, the reader takes the run and leaves
what follows. Trimming takes blanks from the two ends of a text, so that it leaves a text alone
whose first and last character are no blanks.
-/

namespace SchemaSql.Text

/-! ## Runs -/

section

variable {p : Char → Bool} {run rest : List Char}

theorem takeWhile_run (hrun : ∀ c ∈ run, p c = true) (hrest : ∀ c ∈ rest.head?, p c = false) :
    (run ++ rest).takeWhile p = run := by
  rw [List.takeWhile_append_of_pos hrun]
  cases rest with
  | nil => simp
  | cons c rest => rw [List.takeWhile_cons_of_neg (by simp [hrest c rfl]), List.append_nil]

theorem dropWhile_run (hrun : ∀ c ∈ run, p c = true) (hrest : ∀ c ∈ rest.head?, p c = false) :
    (run ++ rest).dropWhile p = rest := by
  rw [List.dropWhile_append_of_pos hrun]
  cases rest with
  | nil => rfl
  | cons c rest => rw [List.dropWhile_cons_of_neg (by simp [hrest c rfl])]

/-- A text that begins with another character is left as it is. -/
theorem takeWhile_eq_nil (h : ∀ c ∈ rest.head?, p c = false) : rest.takeWhile p = [] :=
  takeWhile_run (List.forall_mem_nil _) h

theorem dropWhile_eq_self (h : ∀ c ∈ rest.head?, p c = false) : rest.dropWhile p = rest :=
  dropWhile_run (List.forall_mem_nil _) h

end

/-! ## Trimming -/

theorem trimStart_eq_self {cs : List Char} (h : ∀ c ∈ cs.head?, isBlank c = false) :
    trimStart cs = cs :=
  dropWhile_eq_self h

theorem trimStart_cons {c : Char} (h : isBlank c = false) (cs : List Char) :
    trimStart (c :: cs) = c :: cs :=
  trimStart_eq_self (by simpa using h)

theorem trimEnd_eq_self {cs : List Char} (h : ∀ c ∈ cs.getLast?, isBlank c = false) :
    trimEnd cs = cs := by
  have hreverse : trimStart cs.reverse = cs.reverse :=
    trimStart_eq_self fun c hc ↦ h c (by rwa [List.head?_reverse] at hc)
  calc
    trimEnd cs = (trimStart cs.reverse).reverse := rfl
    _ = cs := by rw [hreverse, List.reverse_reverse]

theorem trimBoth_eq_self {cs : List Char} (hhead : ∀ c ∈ cs.head?, isBlank c = false)
    (hlast : ∀ c ∈ cs.getLast?, isBlank c = false) : trimBoth cs = cs := by
  rw [trimBoth, trimStart_eq_self hhead, trimEnd_eq_self hlast]

/-- A text without blanks needs no trimming. -/
theorem trimBoth_of_forall {cs : List Char} (h : ∀ c ∈ cs, isBlank c = false) :
    trimBoth cs = cs :=
  trimBoth_eq_self (fun c hc ↦ h c (List.mem_of_mem_head? hc))
    fun c hc ↦ h c (List.mem_of_mem_getLast? hc)

/-- Nor does a text between two characters that are no blanks. -/
theorem trimBoth_enclosed {a z : Char} (cs : List Char) (ha : isBlank a = false)
    (hz : isBlank z = false) : trimBoth (a :: (cs ++ [z])) = a :: (cs ++ [z]) := by
  apply trimBoth_eq_self
  · simpa using ha
  · rw [← List.cons_append, List.getLast?_concat]
    simpa using hz

/-- Something is left of a text that does not begin with a blank. -/
theorem trimBoth_ne_nil {c : Char} {cs : List Char} (h : isBlank c = false) :
    trimBoth (c :: cs) ≠ [] := by
  intro hnil
  rw [trimBoth, trimStart_cons h, trimEnd, List.reverse_eq_nil_iff,
    List.dropWhile_eq_nil_iff] at hnil
  have hblank := hnil c (by simp)
  rw [h] at hblank
  cases hblank

/-! ## Blanks around a text -/

def AllBlank (cs : List Char) : Prop :=
  ∀ c ∈ cs, isBlank c = true

instance (cs : List Char) : Decidable (AllBlank cs) :=
  List.decidableBAll (fun c ↦ isBlank c = true) cs

section

variable {cs before run after rest : List Char}

theorem trimStart_append (hbefore : AllBlank before) (hrest : ∀ c ∈ rest.head?, isBlank c = false) :
    trimStart (before ++ rest) = rest :=
  dropWhile_run hbefore hrest

theorem trimEnd_append (hlast : ∀ c ∈ run.getLast?, isBlank c = false) (hafter : AllBlank after) :
    trimEnd (run ++ after) = run := by
  have hreverse : trimStart (after.reverse ++ run.reverse) = run.reverse := by
    apply trimStart_append
    · intro c hc
      exact hafter c (List.mem_reverse.1 hc)
    · intro c hc
      exact hlast c (by rwa [List.head?_reverse] at hc)
  calc
    trimEnd (run ++ after) = (trimStart (after.reverse ++ run.reverse)).reverse := by
      rw [← List.reverse_append]
      rfl
    _ = run := by rw [hreverse, List.reverse_reverse]

theorem trimBoth_append (hbefore : AllBlank before) (hrun : run ≠ [])
    (hhead : ∀ c ∈ run.head?, isBlank c = false) (hlast : ∀ c ∈ run.getLast?, isBlank c = false)
    (hafter : AllBlank after) : trimBoth (before ++ (run ++ after)) = run := by
  obtain ⟨c, cs, rfl⟩ := List.exists_cons_of_ne_nil hrun
  rw [trimBoth, trimStart_append hbefore (by simpa using hhead), trimEnd_append hlast hafter]

/-- What is trimmed from the start of a text is blank, and what is left begins with no blank. -/
theorem exists_trimStart (cs : List Char) :
    ∃ before, AllBlank before ∧ cs = before ++ trimStart cs ∧
      ∀ c ∈ (trimStart cs).head?, isBlank c = false := by
  refine ⟨cs.takeWhile isBlank, fun c hc ↦ List.mem_takeWhile_imp hc,
    List.takeWhile_append_dropWhile.symm, ?_⟩
  intro c hc
  have hnot := List.head?_dropWhile_not isBlank cs
  rw [← trimStart, Option.mem_def.1 hc] at hnot
  exact hnot

theorem exists_trimEnd (cs : List Char) :
    ∃ after, AllBlank after ∧ cs = trimEnd cs ++ after ∧
      ∀ c ∈ (trimEnd cs).getLast?, isBlank c = false := by
  obtain ⟨before, hbefore, hsplit, hhead⟩ := exists_trimStart cs.reverse
  refine ⟨before.reverse, fun c hc ↦ hbefore c (List.mem_reverse.1 hc), ?_, ?_⟩
  · calc
      cs = cs.reverse.reverse := (List.reverse_reverse cs).symm
      _ = trimEnd cs ++ before.reverse := by
        rw [hsplit, List.reverse_append]
        rfl
  · intro c hc
    exact hhead c (by rwa [trimEnd, List.getLast?_reverse] at hc)

/-- Trimming leaves nothing but of blanks. -/
theorem trimBoth_eq_nil_iff : trimBoth cs = [] ↔ AllBlank cs := by
  obtain ⟨before, hbefore, hstart, hhead⟩ := exists_trimStart cs
  constructor
  · intro hnil
    have hleft : trimStart cs = [] := by
      cases hcs : trimStart cs with
      | nil => rfl
      | cons c rest =>
        rw [hcs] at hhead
        have hkept : trimBoth (c :: rest) ≠ [] := trimBoth_ne_nil (hhead c rfl)
        rw [← hcs, trimBoth, trimStart_eq_self (by rwa [hcs])] at hkept
        exact absurd hnil hkept
    rw [hleft, List.append_nil] at hstart
    exact hstart ▸ hbefore
  · intro hblank
    have hnil : trimStart cs = [] := List.dropWhile_eq_nil_iff.2 hblank
    rw [trimBoth, hnil]
    rfl

end

theorem isBlank_of_isDigit {c : Char} (h : c.isDigit = true) : isBlank c = false := by
  simp only [Char.isDigit, Bool.and_eq_true, decide_eq_true_eq, UInt32.le_iff_toNat_le] at h
  have hlow : 48 ≤ c.toNat := h.1
  have hhigh : c.toNat ≤ 57 := h.2
  simp only [isBlank, Bool.or_eq_false_iff, Bool.and_eq_false_iff, beq_eq_false_iff_ne,
    decide_eq_false_iff_not]
  omega

end SchemaSql.Text
