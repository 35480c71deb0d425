import SchemaSql.Proofs.Sql.BooleanText

/-!
# Scanning text piece by piece

The tokens of a text by those of its pieces. A piece may leave a word open, which the next one ends
unless it goes on with it; a piece that leaves nothing open can stand before any other.
-/

namespace SchemaSql.BooleanText

variable {a b : List Char} {ts us : List Token}

theorem advance_append (m : Mode) (a b : List Char) :
    advance m (a ++ b) =
      ((advance m a).1 ++ (advance (advance m a).2 b).1, (advance (advance m a).2 b).2) := by
  induction a generalizing m with
  | nil => rfl
  | cons c a ih =>
    rw [List.cons_append, advance, ih, advance]
    simp only [List.append_assoc]

/-- Characters of a word are added to the word that is open. -/
theorem advance_word {cs : List Char} (h : ∀ c ∈ cs, Identifier.continuesName c = true)
    (word : List Char) : advance (.outside word) cs = ([], .outside (word ++ cs)) := by
  induction cs generalizing word with
  | nil => rw [advance, List.append_nil]
  | cons c cs ih =>
    obtain ⟨hc, hcs⟩ := List.forall_mem_cons.1 h
    rw [advance, step, if_pos hc, ih hcs]
    simp

/-- A name between quotes, up to the quote that ends it. -/
theorem advance_quoted {name : List Char} (h : '"' ∉ name) :
    advance (.outside []) ('"' :: (name ++ ['"'])) = ([.quoted name], .outside []) := by
  have hinside (start : List Char) :
      advance (.inside start) (name ++ ['"']) = ([.quoted (start ++ name)], .outside []) := by
    induction name generalizing start with
    | nil => simp [advance, step]
    | cons c name ih =>
      rw [List.mem_cons, not_or] at h
      rw [List.cons_append, advance, step, if_neg (Ne.symm h.1), ih h.2]
      simp
  have hopen : step (.outside []) '"' = ([], .inside []) := by decide
  rw [advance, hopen, hinside]
  rfl

/-! ## Pieces -/

/-- The tokens of a text that leaves nothing open. -/
def Closed (cs : List Char) (ts : List Token) : Prop :=
  advance (.outside []) cs = (ts, .outside [])

instance (cs : List Char) (ts : List Token) : Decidable (Closed cs ts) :=
  inferInstanceAs (Decidable (advance (.outside []) cs = (ts, .outside [])))

/-- The tokens of a text that may leave a word open. -/
def Yields (cs : List Char) (ts : List Token) : Prop :=
  ∃ us word, advance (.outside []) cs = (us, .outside word) ∧ ts = us ++ ended word

/-- The text does not go on with a word that is open. -/
def Fresh (cs : List Char) : Prop :=
  cs.head?.map Identifier.continuesName = some false

instance (cs : List Char) : Decidable (Fresh cs) :=
  inferInstanceAs (Decidable (cs.head?.map Identifier.continuesName = some false))

theorem Closed.yields (h : Closed a ts) : Yields a ts :=
  ⟨ts, [], h, by simp [ended]⟩

theorem Closed.append (ha : Closed a ts) (hb : Closed b us) : Closed (a ++ b) (ts ++ us) := by
  rw [Closed, advance_append, ha, hb]

theorem Closed.append_yields (ha : Closed a ts) (hb : Yields b us) :
    Yields (a ++ b) (ts ++ us) := by
  obtain ⟨vs, word, hb, rfl⟩ := hb
  refine ⟨ts ++ vs, word, ?_, by rw [List.append_assoc]⟩
  rw [advance_append, ha, hb]

/-- A text that does not go on with an open word ends it first. -/
theorem advance_fresh (h : Fresh b) (word : List Char) :
    advance (.outside word) b =
      (ended word ++ (advance (.outside []) b).1, (advance (.outside []) b).2) := by
  cases b with
  | nil => cases h
  | cons c rest =>
    have hc : Identifier.continuesName c = false := Option.some.inj h
    rw [advance, advance, step, step, hc]
    by_cases hquote : c = '"'
    · simp [hquote, ended]
    · simp [hquote, ended]

theorem Yields.append_closed (ha : Yields a ts) (hfresh : Fresh b) (hb : Closed b us) :
    Closed (a ++ b) (ts ++ us) := by
  obtain ⟨vs, word, ha, rfl⟩ := ha
  rw [Closed, advance_append, ha, advance_fresh hfresh, hb, List.append_assoc]

theorem Yields.tokens_eq (h : Yields a ts) : tokens a = some ts := by
  obtain ⟨us, word, h, rfl⟩ := h
  rw [tokens, h]

/-- A word that is not empty. -/
theorem yields_word {cs : List Char} (hne : cs ≠ [])
    (h : ∀ c ∈ cs, Identifier.continuesName c = true) : Yields cs [ofWord cs] := by
  refine ⟨[], cs, advance_word h [], ?_⟩
  cases cs with
  | nil => exact absurd rfl hne
  | cons c cs => rfl

end SchemaSql.BooleanText
