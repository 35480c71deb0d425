import Mathlib.Data.String.Basic
import SchemaSql.Json.Printer
import SchemaSql.Json.Reader
import SchemaSql.Proofs.Number.Digits
import SchemaSql.Proofs.Text.Runs

/-!
# Reading JSON back

The compact text of a value is read as this value, whatever comes behind it, if the value could
have come from a text with integers only: its numbers are integers of 64 bits, with a sign or
without, the members of its objects stand in the order of their keys, and it does not nest too
deep. A reader is followed through the text character by character: what it takes is what was
written for a part, and what it leaves is what stands behind that part.
-/

namespace SchemaSql.Json

/-! ## Blanks -/

theorem skipBlanks_of_head {c : Char} {cs : List Char} (h : isBlank c = false) :
    skipBlanks (c :: cs) = c :: cs := by
  rw [skipBlanks, List.dropWhile_cons_of_neg (by simp [h])]

theorem comma_not_blank : isBlank ',' = false := by decide

theorem colon_not_blank : isBlank ':' = false := by decide

/-! ## Integers -/

/-- What may stand behind a number: no character that could continue it. -/
def EndsNumber (rest : List Char) : Prop :=
  ∀ c ∈ rest.head?, c.isDigit = false ∧ c ≠ '.' ∧ c ≠ 'e' ∧ c ≠ 'E'

theorem endsNumber_nil : EndsNumber [] := by simp [EndsNumber]

theorem endsNumber_cons {c : Char} (rest : List Char) (h : c ∈ [',', ']', '\x7d']) :
    EndsNumber (c :: rest) := by
  have hmarks : ∀ d ∈ [',', ']', '\x7d'],
      d.isDigit = false ∧ d ≠ '.' ∧ d ≠ 'e' ∧ d ≠ 'E' := by
    simp only [List.forall_mem_cons]
    exact ⟨by decide, by decide, by decide, List.forall_mem_nil _⟩
  intro d hd
  obtain rfl := Option.some.inj hd
  exact hmarks _ h

/-- Digits are collected to the last one if the number that they continue fits. -/
theorem collectDigits_append {n : Nat} {digits rest : List Char}
    (hdigits : ∀ c ∈ digits, c.isDigit = true) (hrest : ∀ c ∈ rest.head?, c.isDigit = false)
    (hfits : Nat.ofDigitChars 10 digits n ≤ greatestSignificand) :
    collectDigits n (digits ++ rest) = (Nat.ofDigitChars 10 digits n, rest) := by
  induction digits generalizing n with
  | nil =>
    cases rest with
    | nil => rfl
    | cons c rest => rw [List.nil_append, collectDigits, if_neg (by simp [hrest c rfl])]; rfl
  | cons c digits ih =>
    rw [Nat.ofDigitChars_cons, Nat.mul_comm] at hfits ⊢
    have hstep : n * 10 + IntegerRange.digitValue c ≤ greatestSignificand :=
      Nat.le_trans (Digits.le_ofDigitChars _ digits) hfits
    rw [List.cons_append, collectDigits, if_pos (hdigits c List.mem_cons_self)]
    dsimp only
    rw [if_neg (Nat.not_lt.2 hstep)]
    exact ih (fun d hd ↦ hdigits d (List.mem_cons_of_mem c hd)) hfits

/-- The digits of a number of 64 bits are read as this number, with a sign or without. -/
theorem readMagnitude_toDigits {negative : Bool} {n : Nat} (hfits : n ≤ greatestSignificand)
    {rest : List Char} (hrest : EndsNumber rest) :
    readMagnitude negative (Nat.toDigits 10 n ++ rest) =
      (wholeNumber negative n).map fun x ↦ (x, rest) := by
  have hdigit : ∀ c ∈ Nat.toDigits 10 n, c.isDigit = true := fun _ ↦ Digits.isDigit_of_mem
  have hstop : ∀ c ∈ rest.head?, c.isDigit = false := fun c hc ↦ (hrest c hc).1
  have hrun := Text.takeWhile_run hdigit hstop
  have hcollect := collectDigits_append (n := 0) hdigit hstop (by rwa [Digits.value])
  have hbeyond : rest.takeWhile Char.isDigit = [] :=
    Text.takeWhile_eq_nil hstop
  have hbehind : rest.dropWhile Char.isDigit = rest :=
    Text.dropWhile_eq_self hstop
  have hzero : ((Nat.toDigits 10 n).isEmpty ||
      ((Nat.toDigits 10 n).head? == some '0' && 1 < (Nat.toDigits 10 n).length)) = false := by
    rw [Bool.or_eq_false_iff, Bool.and_eq_false_imp]
    refine ⟨by simp, ?_⟩
    intro hhead
    rw [Digits.length_of_head? (by simpa using hhead)]
    rfl
  rw [readMagnitude, hrun, hcollect]
  dsimp only
  rw [hzero, hbeyond, hbehind, Digits.value, if_neg (by simp)]
  split
  · exact absurd rfl (hrest '.' rfl).2.1
  · rw [if_neg]
    intro hexponent
    cases rest with
    | nil => simp at hexponent
    | cons c rest =>
      have h := hrest c rfl
      simp [h.2.2.1, h.2.2.2] at hexponent

/-- Whether an integer has 64 bits, with a sign or without. -/
def FitsInteger (i : Int) : Prop :=
  -(twoPow 63 : Int) ≤ i ∧ i < (twoPow 64 : Int)

theorem readNumber_writeInteger {i : Int} (hfits : FitsInteger i) {rest : List Char}
    (hrest : EndsNumber rest) : readNumber (writeInteger i ++ rest) = some (.int i, rest) := by
  obtain ⟨hlow, hhigh⟩ := hfits
  have hhalf : twoPow 63 = 9223372036854775808 := rfl
  have hwhole : twoPow 64 = 18446744073709551616 := rfl
  have hleast : int64.least = -9223372036854775808 := by decide
  have hgreatest : greatestSignificand = 18446744073709551615 := by decide
  have habs : i.natAbs ≤ greatestSignificand := by omega
  rw [writeInteger]
  split
  · rename_i hneg
    have hwhole : wholeNumber true i.natAbs = some (.int i) := by
      have hvalue : -(i.natAbs : Int) = i := by omega
      have hcontains : int64.contains i = true := by
        rw [IntegerRange.contains, Bool.and_eq_true, decide_eq_true_eq, decide_eq_true_eq]
        have hgreat : int64.greatest = 9223372036854775807 := by decide
        omega
      rw [wholeNumber, hvalue, hcontains]
      simp
      omega
    rw [List.cons_append, readNumber, readMagnitude_toDigits habs hrest, hwhole]
    rfl
  · rename_i hpos
    have hwhole : wholeNumber false i.natAbs = some (.int i) := by
      have hvalue : (i.natAbs : Int) = i := by omega
      rw [wholeNumber, hvalue]
      rfl
    obtain ⟨c, cs, hcs, hdigit⟩ := Digits.exists_toDigits_eq_cons i.natAbs
    have hminus : c ≠ '-' := Digits.ne_of_isDigit hdigit (by decide)
    have hread : readNumber (c :: cs ++ rest) = readMagnitude false (c :: cs ++ rest) := by
      rw [List.cons_append, readNumber]
      rintro _ ⟨rfl, _⟩
      exact hminus rfl
    rw [hcs, hread, ← hcs, readMagnitude_toDigits habs hrest, hwhole]
    rfl

/-! ## Strings -/

/-- The four digits of a control character give its code point. -/
theorem hexUnit?_control {n : Nat} (h : n < 0x20) :
    hexUnit? '0' '0' (hexDigit (n / 16)) (hexDigit (n % 16)) = some n := by
  have hall : ∀ n < 0x20,
      hexUnit? '0' '0' (hexDigit (n / 16)) (hexDigit (n % 16)) = some n := by decide
  exact hall n h

/-- What is written for a character is read as this character. -/
theorem readString_escape (c : Char) (cs : List Char) :
    readString (escape c ++ cs) = before c (readString cs) := by
  by_cases hshort : c ∈ ['"', '\\', '\n', '\r', '\t', '\x08', '\x0c']
  · simp only [List.mem_cons, List.not_mem_nil, or_false] at hshort
    rcases hshort with rfl | rfl | rfl | rfl | rfl | rfl | rfl <;> rfl
  · simp only [List.mem_cons, List.not_mem_nil, or_false, not_or] at hshort
    obtain ⟨hquote, hback, hnewline, hreturn, htab, hbackspace, hfeed⟩ := hshort
    rw [escape, if_neg hquote, if_neg hback, if_neg hnewline, if_neg hreturn, if_neg htab,
      if_neg hbackspace, if_neg hfeed]
    split
    · rename_i hcontrol
      have hsurrogate : isSurrogate c.toNat = false := by
        simp only [isSurrogate, Bool.and_eq_false_iff, decide_eq_false_iff_not]
        omega
      simp only [List.cons_append, List.nil_append, readString, hexUnit?_control hcontrol,
        hsurrogate, Bool.false_eq_true, if_false, Char.ofNat_toNat]
    · rename_i hcontrol
      simp [readString, hback, hcontrol]

theorem readString_flatMap_escape (cs rest : List Char) :
    readString (cs.flatMap escape ++ '"' :: rest) = some (cs, rest) := by
  induction cs with
  | nil => rfl
  | cons c cs ih =>
    rw [List.flatMap_cons, List.append_assoc, readString_escape, ih]
    rfl

/-- The text of a string is read up to its closing quote. -/
theorem readString_writeString (s : String) (rest : List Char) :
    ∃ body, writeString s ++ rest = '"' :: body ∧ readString body = some (s.toList, rest) := by
  refine ⟨s.toList.flatMap escape ++ '"' :: rest, ?_, readString_flatMap_escape _ _⟩
  rw [writeString, List.cons_append, List.append_assoc, List.singleton_append]

/-! ## Values -/

/-- Values that can be written and read back without loss: they nest at most so deep, their numbers
are integers of 64 bits, and the members of objects stand in the order of their keys. -/
inductive Stored : Nat → Json → Prop where
  | null {depth : Nat} : Stored depth .null
  | bool {depth : Nat} (b : Bool) : Stored depth (.bool b)
  | int {depth : Nat} {i : Int} (fits : FitsInteger i) : Stored depth (.number (.int i))
  | string {depth : Nat} (s : String) : Stored depth (.string s)
  | array {depth : Nat} {vs : List Json} (each : ∀ v ∈ vs, Stored depth v) :
    Stored (depth + 1) (.array vs)
  | object {depth : Nat} {ms : List (String × Json)} (each : ∀ m ∈ ms, Stored depth m.2)
    (ordered : (ms.map Prod.fst).Pairwise (· < ·)) : Stored (depth + 1) (.object ms)

/-- The text of an integer begins with a digit or a minus. -/
theorem exists_writeInteger_eq_cons (i : Int) :
    ∃ c cs, writeInteger i = c :: cs ∧ isBlank c = false ∧
      ∀ d ∈ ['[', ']', '\x7b', '"', 'n', 't', 'f'], c ≠ d := by
  rw [writeInteger]
  split
  · exact ⟨'-', _, rfl, by decide, by simp⟩
  · obtain ⟨c, cs, hcs, hdigit⟩ := Digits.exists_toDigits_eq_cons i.natAbs
    have hne {d : Char} (hd : d.isDigit = false) : c ≠ d := Digits.ne_of_isDigit hdigit hd
    have hmarks : ∀ d ∈ ['[', ']', '\x7b', '"', 'n', 't', 'f'], d.isDigit = false := by
      simp only [List.forall_mem_cons]
      exact ⟨rfl, rfl, rfl, rfl, rfl, rfl, rfl, List.forall_mem_nil _⟩
    exact ⟨c, cs, hcs, by simp [isBlank, hne], fun d hd ↦ hne (hmarks d hd)⟩

/-- The text of a value begins with no blank and with no closing bracket. -/
theorem exists_write_eq_cons {depth : Nat} {v : Json} (h : Stored depth v) :
    ∃ c cs, v.write = c :: cs ∧ isBlank c = false ∧ c ≠ ']' := by
  cases h with
  | null => exact ⟨'n', _, rfl, by decide, by decide⟩
  | bool b => cases b <;> exact ⟨_, _, rfl, by decide, by decide⟩
  | @int _ i _ =>
    obtain ⟨c, cs, hcs, hblank, hmarks⟩ := exists_writeInteger_eq_cons i
    exact ⟨c, cs, hcs, hblank, hmarks ']' (by simp)⟩
  | string s => exact ⟨'"', _, by rw [write, writeString], by decide, by decide⟩
  | array _ => exact ⟨'[', _, by rw [write], by decide, by decide⟩
  | object _ _ => exact ⟨'\x7b', _, by rw [write], by decide, by decide⟩

/-- A scalar is read by its first character, at any depth. -/
theorem readValue_scalar (depth : Nat) {c : Char} {cs : List Char} (hblank : isBlank c = false)
    (hbracket : c ≠ '[') (hbrace : c ≠ '\x7b') :
    readValue depth (c :: cs) = readScalar (c :: cs) := by
  unfold readValue
  rw [skipBlanks_of_head hblank]
  split
  · rename_i h
    exact absurd (List.cons.inj h).1 hbracket
  · rename_i h
    exact absurd (List.cons.inj h).1 hbrace
  · rename_i h
    exact absurd (List.cons.inj h).1 hbracket
  · rename_i h
    exact absurd (List.cons.inj h).1 hbrace
  · rfl

theorem readScalar_number {c : Char} {cs : List Char} (h : ∀ d ∈ ['"', 'n', 't', 'f'], c ≠ d) :
    readScalar (c :: cs) = (readNumber (c :: cs)).map fun (n, r) ↦ (.number n, r) := by
  unfold readScalar
  split
  · rename_i heq
    exact absurd (List.cons.inj heq).1 (h 'n' (by simp))
  · rename_i heq
    exact absurd (List.cons.inj heq).1 (h 't' (by simp))
  · rename_i heq
    exact absurd (List.cons.inj heq).1 (h 'f' (by simp))
  · rename_i heq
    exact absurd (List.cons.inj heq).1 (h '"' (by simp))
  · rfl

/-- An array that does not end at once is read element by element. -/
theorem readValue_elements (depth : Nat) {c : Char} {cs : List Char} (hblank : isBlank c = false)
    (hclosing : c ≠ ']') :
    readValue (depth + 1) ('[' :: c :: cs) =
      (readElements (readValue depth) (c :: cs).length (c :: cs)).map
        fun (vs, r) ↦ (.array vs, r) := by
  have hopening : skipBlanks ('[' :: c :: cs) = '[' :: c :: cs := skipBlanks_of_head (by decide)
  rw [readValue.eq_def]
  simp only [hopening, skipBlanks_of_head hblank]
  split
  · rename_i heq
    exact absurd (List.cons.inj heq).1 hclosing
  · rfl

/-- An object that begins with a key is read member by member. -/
theorem readValue_members (depth : Nat) (cs : List Char) :
    readValue (depth + 1) ('\x7b' :: '"' :: cs) =
      (readMembers (readValue depth) ('"' :: cs).length ('"' :: cs)).map
        fun (ms, r) ↦ (ofMembers ms, r) := rfl

/-! ### Arrays -/

section

variable {reader : List Char → Option (Json × List Char)}

/-- The reader takes the text of a value and leaves what stands behind it. -/
def Takes (reader : List Char → Option (Json × List Char)) (v : Json) : Prop :=
  ∀ rest, EndsNumber rest → reader (v.write ++ rest) = some (v, rest)

theorem length_le_writeElements (vs : List Json) : vs.length ≤ (writeElements vs).length + 1 := by
  induction vs with
  | nil => simp
  | cons v vs ih =>
    cases vs with
    | nil => simp
    | cons w vs =>
      simp only [writeElements, List.length_append, List.length_cons] at ih ⊢
      omega

theorem readElements_writeElements {vs : List Json} (hsome : vs ≠ [])
    (heach : ∀ v ∈ vs, Takes reader v) {bound : Nat} (hbound : vs.length ≤ bound)
    (rest : List Char) :
    readElements reader bound (writeElements vs ++ ']' :: rest) = some (vs, rest) := by
  induction vs generalizing bound with
  | nil => exact absurd rfl hsome
  | cons v vs ih =>
    obtain ⟨bound, rfl⟩ : ∃ k, bound = k + 1 := ⟨bound - 1, by simp at hbound; omega⟩
    have hv := heach v List.mem_cons_self
    cases vs with
    | nil =>
      rw [readElements, writeElements, hv _ (endsNumber_cons rest (by simp))]
      rfl
    | cons w vs =>
      have hvs := ih (by simp) (fun x hx ↦ heach x (List.mem_cons_of_mem v hx))
        (Nat.le_of_succ_le_succ hbound)
      rw [readElements, writeElements, List.append_assoc, List.cons_append,
        hv _ (endsNumber_cons _ (by simp))]
      simp only [Option.bind_eq_bind, Option.bind_some, skipBlanks_of_head comma_not_blank, hvs]
      rfl

/-! ### Objects -/

theorem length_le_writeMembers (ms : List (String × Json)) :
    ms.length ≤ (writeMembers ms).length + 1 := by
  induction ms with
  | nil => simp
  | cons m ms ih =>
    cases ms with
    | nil => simp
    | cons n ms =>
      simp only [writeMembers, List.length_append, List.length_cons] at ih ⊢
      omega

theorem readMember_write {k : String} {v : Json} (hv : Takes reader v) {rest : List Char}
    (hrest : EndsNumber rest) :
    readMember reader (writeString k ++ ':' :: (v.write ++ rest)) = some ((k, v), rest) := by
  obtain ⟨body, hbody, hread⟩ := readString_writeString k (':' :: (v.write ++ rest))
  rw [readMember, hbody, skipBlanks_of_head (by decide)]
  simp only [hread, Option.bind_eq_bind, Option.bind_some, skipBlanks_of_head colon_not_blank,
    hv rest hrest, String.ofList_toList]
  rfl

theorem readMembers_writeMembers {ms : List (String × Json)} (hsome : ms ≠ [])
    (heach : ∀ m ∈ ms, Takes reader m.2) {bound : Nat} (hbound : ms.length ≤ bound)
    (rest : List Char) :
    readMembers reader bound (writeMembers ms ++ '\x7d' :: rest) = some (ms, rest) := by
  induction ms generalizing bound with
  | nil => exact absurd rfl hsome
  | cons m ms ih =>
    obtain ⟨bound, rfl⟩ : ∃ k, bound = k + 1 := ⟨bound - 1, by simp at hbound; omega⟩
    have hm := heach m List.mem_cons_self
    cases ms with
    | nil =>
      rw [readMembers, writeMembers, List.append_assoc, List.cons_append,
        readMember_write hm (endsNumber_cons rest (by simp))]
      rfl
    | cons n ms =>
      have hms := ih (by simp) (fun x hx ↦ heach x (List.mem_cons_of_mem m hx))
        (Nat.le_of_succ_le_succ hbound)
      rw [readMembers, writeMembers, List.append_assoc, List.cons_append, List.append_assoc,
        List.cons_append, readMember_write hm (endsNumber_cons _ (by simp))]
      simp only [Option.bind_eq_bind, Option.bind_some, skipBlanks_of_head comma_not_blank, hms]
      rfl

end

/-- A member whose key comes after all others is put at the end. -/
theorem insertMember_of_forall_lt {k : String} {v : Json} {ms : List (String × Json)}
    (h : ∀ m ∈ ms, m.1 < k) : insertMember k v ms = ms ++ [(k, v)] := by
  induction ms with
  | nil => rfl
  | cons m ms ih =>
    have hm : m.1 < k := h m List.mem_cons_self
    have hother : ¬k = m.1 := by
      rintro rfl
      exact String.lt_irrefl _ hm
    rw [insertMember, if_neg (String.lt_asymm hm), if_neg hother,
      ih fun n hn ↦ h n (List.mem_cons_of_mem m hn), List.cons_append]

/-- Members in the order of their keys stay as they are. -/
theorem ofMembers_of_pairwise {ms : List (String × Json)}
    (h : (ms.map Prod.fst).Pairwise (· < ·)) : ofMembers ms = .object ms := by
  have hfold (sorted ms : List (String × Json))
      (h : ((sorted ++ ms).map Prod.fst).Pairwise (· < ·)) :
      ms.foldl (fun sorted m ↦ insertMember m.1 m.2 sorted) sorted = sorted ++ ms := by
    induction ms generalizing sorted with
    | nil => simp
    | cons m ms ih =>
      have hlast : ∀ n ∈ sorted, n.1 < m.1 := by
        intro n hn
        rw [List.map_append, List.pairwise_append] at h
        exact h.2.2 n.1 (List.mem_map_of_mem hn) m.1 (by simp)
      rw [List.foldl_cons, insertMember_of_forall_lt hlast, ih, List.append_assoc]
      · rfl
      · rwa [List.append_assoc]
  rw [ofMembers, hfold [] ms h, List.nil_append]

/-! ### All values -/

/-- The text of a value is read as the value, and what stands behind it is left. -/
theorem takes_readValue {depth : Nat} {v : Json} (h : Stored depth v) :
    Takes (readValue depth) v := by
  induction h with
  | @null depth =>
    intro rest _
    cases depth <;> rfl
  | @bool depth b =>
    intro rest _
    cases b <;> cases depth <;> rfl
  | @int depth i fits =>
    intro rest hrest
    obtain ⟨c, cs, hcs, hblank, hmarks⟩ := exists_writeInteger_eq_cons i
    have hread := readNumber_writeInteger fits hrest
    rw [write, Number.write]
    rw [hcs, List.cons_append] at hread ⊢
    have hlater : ∀ d ∈ ['"', 'n', 't', 'f'], c ≠ d := fun d hd ↦ hmarks d (by simp at hd ⊢; tauto)
    rw [readValue_scalar depth hblank (hmarks '[' (by simp)) (hmarks '\x7b' (by simp)),
      readScalar_number hlater, hread]
    rfl
  | @string depth s =>
    intro rest _
    obtain ⟨body, hbody, hread⟩ := readString_writeString s rest
    rw [write, hbody, readValue_scalar depth (by decide) (by decide) (by decide), readScalar, hread]
    simp only [Option.map_some, String.ofList_toList]
  | @array depth vs each ih =>
    intro rest _
    rw [write, List.cons_append, List.append_assoc, List.singleton_append]
    cases vs with
    | nil => rfl
    | cons v vs =>
      obtain ⟨c, cs, hcs, hblank, hclosing⟩ := exists_write_eq_cons (each v List.mem_cons_self)
      have helements : ∃ tail, writeElements (v :: vs) = c :: tail := by
        cases vs with
        | nil => exact ⟨cs, hcs⟩
        | cons w vs => exact ⟨_, by rw [writeElements, hcs, List.cons_append]⟩
      obtain ⟨tail, htail⟩ := helements
      have hbound : (v :: vs).length ≤ (writeElements (v :: vs) ++ ']' :: rest).length := by
        have hlength := length_le_writeElements (v :: vs)
        simp only [List.length_append, List.length_cons] at hlength ⊢
        omega
      have hread := readElements_writeElements (by simp) ih hbound rest
      rw [htail, List.cons_append] at hread ⊢
      rw [readValue_elements depth hblank hclosing, hread]
      rfl
  | @object depth ms each ordered ih =>
    intro rest _
    rw [write, List.cons_append, List.append_assoc, List.singleton_append]
    cases ms with
    | nil => rfl
    | cons m ms =>
      obtain ⟨tail, htail⟩ : ∃ tail, writeMembers (m :: ms) = '"' :: tail := by
        cases ms with
        | nil => exact ⟨_, by rw [writeMembers, writeString, List.cons_append]⟩
        | cons n ms => exact ⟨_, by rw [writeMembers, writeString, List.cons_append]⟩
      have hbound : (m :: ms).length ≤ (writeMembers (m :: ms) ++ '\x7d' :: rest).length := by
        have hlength := length_le_writeMembers (m :: ms)
        simp only [List.length_append, List.length_cons] at hlength ⊢
        omega
      have hread := readMembers_writeMembers (by simp) ih hbound rest
      rw [htail, List.cons_append] at hread ⊢
      rw [readValue_members, hread, Option.map_some]
      simp only [ofMembers_of_pairwise ordered]

theorem read?_render {v : Json} (h : Stored greatestDepth v) : read? v.render = some v := by
  have hread := takes_readValue h [] endsNumber_nil
  rw [List.append_nil] at hread
  rw [read?, render, String.toList_ofList, hread]
  rfl

end SchemaSql.Json
