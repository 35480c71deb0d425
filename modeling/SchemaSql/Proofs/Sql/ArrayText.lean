import SchemaSql.Proofs.Text.Runs
import SchemaSql.Sql.ArrayLiteral

/-!
# Reading array literals back

The literal of some elements is read as these elements, whatever texts they are: an element that
could be taken for a separator, for blanks or for the word of absence stands in quotes, and all
others are free of the characters that would end them early.
-/

namespace SchemaSql.ArrayLiteral

/-- What may stand behind an element: nothing, or the comma before the next one. -/
def Ends (rest : List Char) : Prop :=
  ∀ c ∈ rest.head?, isComma c = true

theorem ends_nil : Ends [] := by simp [Ends]

theorem ends_comma (rest : List Char) : Ends (',' :: rest) := by simp [Ends, isComma]

theorem fromComma_of_ends {rest : List Char} (h : Ends rest) : fromComma rest = rest :=
  Text.dropWhile_eq_self fun c hc ↦ by simp [h c hc]

section

variable {run rest : List Char}

theorem beforeComma_append (hrun : ∀ c ∈ run, isComma c = false) (hrest : Ends rest) :
    beforeComma (run ++ rest) = run :=
  Text.takeWhile_run (fun c hc ↦ by simp [hrun c hc]) fun c hc ↦ by simp [hrest c hc]

theorem fromComma_append (hrun : ∀ c ∈ run, isComma c = false) (hrest : Ends rest) :
    fromComma (run ++ rest) = rest :=
  Text.dropWhile_run (fun c hc ↦ by simp [hrun c hc]) fun c hc ↦ by simp [hrest c hc]

end

/-! ## One element -/

/-- A run of plain characters is read up to its end. -/
theorem readElement_run {run rest : List Char} (hsome : run ≠ [])
    (hplain : ∀ c ∈ run, needsQuoting c = false) (hrest : Ends rest) :
    readElement (run ++ rest) = some (bareElement run, rest) := by
  have hcomma : ∀ c ∈ run, isComma c = false := by
    intro c hc
    have h := hplain c hc
    simp only [needsQuoting, Bool.or_eq_false_iff] at h
    exact h.1.1.1.1.1
  have hblank : ∀ c ∈ run, Text.isBlank c = false := by
    intro c hc
    have h := hplain c hc
    simp only [needsQuoting, Bool.or_eq_false_iff] at h
    exact h.2
  obtain ⟨c, cs, rfl⟩ := List.exists_cons_of_ne_nil hsome
  have hstart : Text.trimStart (c :: cs ++ rest) = c :: cs ++ rest :=
    Text.trimStart_eq_self (by simpa using hblank c List.mem_cons_self)
  have hend : Text.trimEnd (c :: cs) = c :: cs :=
    Text.trimEnd_eq_self fun d hd ↦ hblank d (List.mem_of_mem_getLast? hd)
  have hquote : c ≠ '"' := by
    rintro rfl
    have h := hplain '"' List.mem_cons_self
    revert h
    decide
  rw [readElement, hstart]
  split
  · rename_i body heq
    exact absurd (List.cons.inj heq).1 hquote
  · rw [beforeComma_append hcomma hrest, fromComma_append hcomma hrest, hend]

/-- An element is read up to its end, whatever its text. -/
theorem readElement_writeElement (e : Option String) {rest : List Char} (hrest : Ends rest) :
    readElement (writeElement e ++ rest) = some (e, rest) := by
  cases e with
  | none =>
    have hplain : ∀ c ∈ absentWord, needsQuoting c = false := by
      have hword : absentWord = ['N', 'U', 'L', 'L'] := rfl
      simp only [hword, List.forall_mem_cons]
      exact ⟨by decide, by decide, by decide, by decide, List.forall_mem_nil _⟩
    have hrun : readElement (absentWord ++ rest) = some (bareElement absentWord, rest) :=
      readElement_run (by decide) hplain hrest
    rwa [show bareElement absentWord = none by decide] at hrun
  | some s =>
    rw [writeElement]
    split
    · rw [List.cons_append, List.append_assoc, List.singleton_append, readElement,
        Text.trimStart_eq_self (by simp; decide)]
      simp only [readQuoted_flatMap_escape, Option.map_some, String.ofList_toList,
        fromComma_of_ends hrest]
    · rename_i hbare
      simp only [isQuoted, Bool.or_eq_true, not_or, Bool.not_eq_true, List.any_eq_false] at hbare
      obtain ⟨⟨hsome, hword⟩, hplain⟩ := hbare
      have hrun := readElement_run (by simpa using hsome) hplain hrest
      rw [hrun, bareElement, if_neg (by simp [hword]), String.ofList_toList]

/-- No element is written as blanks. -/
theorem exists_writeElement_eq_cons (e : Option String) :
    ∃ c cs, writeElement e = c :: cs ∧ Text.isBlank c = false := by
  cases e with
  | none => exact ⟨'N', _, rfl, by decide⟩
  | some s =>
    rw [writeElement]
    split
    · exact ⟨'"', _, rfl, by decide⟩
    · rename_i hbare
      simp only [isQuoted, Bool.or_eq_true, not_or, Bool.not_eq_true, List.any_eq_false,
        needsQuoting] at hbare
      obtain ⟨⟨hsome, _⟩, hplain⟩ := hbare
      obtain ⟨c, cs, hcs⟩ := List.exists_cons_of_ne_nil (l := s.toList) (by simpa using hsome)
      exact ⟨c, cs, hcs, (hplain c (by simp [hcs])).2⟩

/-! ## All elements -/

theorem readElements_writeElements {es : List (Option String)} (hsome : es ≠ []) :
    readElements (writeElements es) = some es := by
  fun_induction writeElements es with
  | case1 => exact absurd rfl hsome
  | case2 e =>
    have hread := readElement_writeElement e ends_nil
    rw [List.append_nil] at hread
    rw [readElements, hread]
  | case3 e f es ih =>
    rw [readElements, readElement_writeElement e (ends_comma _)]
    simp only [ih (by simp), Option.map_some]

theorem inner?_write (es : List (Option String)) :
    inner? (write es) = some (writeElements es) := by
  rw [inner?, write, String.toList_ofList, Text.trimBoth_enclosed _ (by decide) (by decide)]
  simp

theorem read?_write (es : List (Option String)) : read? (write es) = some es := by
  rw [read?, inner?_write, Option.bind_eq_bind, Option.bind_some]
  cases es with
  | nil => rfl
  | cons e es =>
    have hsome : Text.trimBoth (writeElements (e :: es)) ≠ [] := by
      obtain ⟨c, cs, hcs, hblank⟩ := exists_writeElement_eq_cons e
      cases es with
      | nil =>
        rw [writeElements, hcs]
        exact Text.trimBoth_ne_nil hblank
      | cons f es =>
        rw [writeElements, hcs]
        exact Text.trimBoth_ne_nil hblank
    rw [if_neg (by simpa using hsome), readElements_writeElements (by simp)]

end SchemaSql.ArrayLiteral
