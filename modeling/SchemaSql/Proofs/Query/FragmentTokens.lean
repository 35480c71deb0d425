import SchemaSql.Proofs.Query.FilterText
import SchemaSql.Proofs.Sql.BooleanScan

/-!
# The tokens of predicates

The tokens that a condition on a column is written in, its slots numbered from any number on.
Whatever it asks of its column, the text of a predicate is read as these tokens, and they are one
atom: there is no operator among them, and the parentheses, around the elements of a list or around
an array, match.
-/

namespace SchemaSql

open BooleanText (Token Atom Balanced Closed Yields)

namespace Condition

def slotTokens : Nat → List Param → List Token
  | _, [] => []
  | n, [_] => [.word (Template.numbered n)]
  | n, _ :: v :: vs => .word (Template.numbered n) :: .sign ',' :: slotTokens (n + 1) (v :: vs)

def tokensFrom (n : Nat) (column : List Token) : Condition → List Token
  | .element _ =>
    .word (Template.numbered n) :: .sign '=' :: .word "ANY".toList :: .opening ::
      (column ++ [.closing])
  | .isNull => column ++ [.word "IS".toList, .word "NULL".toList]
  | .like _ => column ++ [.word "ILIKE".toList, .word (Template.numbered n)]
  | .textLike _ =>
    column ++ [.sign ':', .sign ':', .word "text".toList, .word "ILIKE".toList,
      .word (Template.numbered n)]
  | .atLeast _ => column ++ [.sign '>', .sign '=', .word (Template.numbered n)]
  | .atMost _ => column ++ [.sign '<', .sign '=', .word (Template.numbered n)]
  | .oneOf values =>
    column ++ .word "IN".toList :: .opening :: (slotTokens n values ++ [.closing])
  | .never => [.word ['1'], .sign '=', .word ['0']]
  | .equals _ => column ++ [.sign '=', .word (Template.numbered n)]

end Condition

namespace Predicate

def textFrom (n : Nat) (p : Predicate) : List Char :=
  Template.number n (Template.cells p.template.toList)

/-! ## Columns and slots -/

theorem closed_quoted (i : Identifier) : Closed i.quoted.toList [.quoted i.text.toList] := by
  have hquote : '"' ∉ i.text.toList := Identifier.not_mem_text (by decide) (by decide) i
  have hscan := BooleanText.advance_quoted hquote
  rw [Closed, ← hscan, Identifier.quoted]
  simp

def columnTokens (a b : Identifier) : List Token :=
  [.quoted a.text.toList, .sign '.', .quoted b.text.toList]

theorem closed_dotted (a b : Identifier) :
    Closed (Identifier.dotted a b).toList (columnTokens a b) := by
  have hdot : Closed ".".toList [.sign '.'] := by decide
  have hscan := ((closed_quoted a).append hdot).append (closed_quoted b)
  simpa [Identifier.dotted, columnTokens] using hscan

theorem yields_numbered (n : Nat) : Yields (Template.numbered n) [.word (Template.numbered n)] := by
  have hword : BooleanText.ofWord (Template.numbered n) = .word (Template.numbered n) := by
    simp [BooleanText.ofWord, Text.sameLetters, Template.numbered]
  have hcharacters : ∀ c ∈ Template.numbered n, Identifier.continuesName c = true := by
    intro c hc
    rcases List.mem_cons.1 hc with rfl | hc
    · decide
    · have hdigit := Nat.isDigit_of_mem_toDigits (by decide) (by decide) hc
      simp [Identifier.continuesName, Char.isAlphanum, hdigit]
  have hscan := BooleanText.yields_word (by simp [Template.numbered]) hcharacters
  rwa [hword] at hscan

theorem yields_slots (n : Nat) (vs : List Param) :
    Yields (Segment.textFrom n ([Segment.text ", "].intercalate (vs.map fun v ↦ [.value v])))
      (Condition.slotTokens n vs) := by
  induction vs generalizing n with
  | nil => exact ⟨[], [], rfl, rfl⟩
  | cons v vs ih =>
    have hslot := yields_numbered n
    cases vs with
    | nil => simpa [Condition.slotTokens] using hslot
    | cons w vs =>
      have hcomma : Closed ", ".toList [.sign ','] := by decide
      have hscan := (hslot.append_closed (by decide) hcomma).append_yields (ih (n + 1))
      simpa [List.intercalate_cons_cons, Condition.slotTokens] using hscan

/-! ## Fragments -/

/-- A column that is compared with one slot, by a text between them. -/
theorem yields_comparison (a b : Identifier) {sign : String} {ts : List Token}
    (hsign : Closed sign.toList ts) (n : Nat) (value : Param) :
    Yields (Segment.textFrom n [.text (Identifier.dotted a b), .text sign, .value value])
      (columnTokens a b ++ (ts ++ [.word (Template.numbered n)])) := by
  have hscan := ((closed_dotted a b).append hsign).append_yields (yields_numbered n)
  simpa using hscan

theorem yields_element (a b : Identifier) (n : Nat) (value : Param) :
    Yields (Segment.textFrom n
      [.value value, .text " = ANY(", .text (Identifier.dotted a b), .text ")"])
      ((Condition.element value).tokensFrom n (columnTokens a b)) := by
  have hany : Closed " = ANY(".toList [.sign '=', .word "ANY".toList, .opening] := by decide
  have hclosing : Closed ")".toList [.closing] := by decide
  have hscan := (((yields_numbered n).append_closed (by decide) hany).append
    (closed_dotted a b)).append hclosing
  simpa [Condition.tokensFrom] using hscan.yields

theorem yields_oneOf (a b : Identifier) (n : Nat) (values : List Param) :
    Yields (Segment.textFrom n
      ([.text (Identifier.dotted a b), .text " IN ("] ++
        [Segment.text ", "].intercalate (values.map fun v ↦ [.value v]) ++ [.text ")"]))
      ((Condition.oneOf values).tokensFrom n (columnTokens a b)) := by
  have hin : Closed " IN (".toList [.word "IN".toList, .opening] := by decide
  have hclosing : Closed ")".toList [.closing] := by decide
  have hscan := (((closed_dotted a b).append hin).append_yields
    (yields_slots n values)).append_closed (by decide) hclosing
  have hyields := hscan.yields
  rw [Segment.textFrom_append]
  simpa [Condition.tokensFrom] using hyields

/-- The text of a predicate is read as the tokens of its condition. -/
theorem yields_textFrom (a b : Identifier) (c : Condition) (n : Nat) :
    Yields (textFrom n ⟨Identifier.dotted a b, c⟩) (c.tokensFrom n (columnTokens a b)) := by
  have htext : textFrom n ⟨Identifier.dotted a b, c⟩ =
      Segment.textFrom n (parts ⟨Identifier.dotted a b, c⟩) := by
    rw [textFrom, (cut_parts ⟨a, b, rfl⟩).cells_eq]
    rfl
  rw [htext]
  cases c with
  | element value => exact yields_element a b n value
  | isNull =>
    have hnull : Yields " IS NULL".toList [.word "IS".toList, .word "NULL".toList] :=
      ⟨[.word "IS".toList], "NULL".toList, by decide, by decide⟩
    simpa [parts, Condition.tokensFrom] using (closed_dotted a b).append_yields hnull
  | like pattern =>
    have hsign : Closed " ILIKE ".toList [.word "ILIKE".toList] := by decide
    exact yields_comparison a b hsign n _
  | textLike pattern =>
    have hsign : Closed "::text ILIKE ".toList
        [.sign ':', .sign ':', .word "text".toList, .word "ILIKE".toList] := by decide
    exact yields_comparison a b hsign n _
  | atLeast bound =>
    have hsign : Closed ">=".toList [.sign '>', .sign '='] := by decide
    exact yields_comparison a b hsign n _
  | atMost bound =>
    have hsign : Closed "<=".toList [.sign '<', .sign '='] := by decide
    exact yields_comparison a b hsign n _
  | oneOf values => exact yields_oneOf a b n values
  | never =>
    have hscan : Yields "1=0".toList [.word ['1'], .sign '=', .word ['0']] :=
      ⟨[.word ['1'], .sign '='], ['0'], by decide, by decide⟩
    simpa [parts, Condition.tokensFrom] using hscan
  | equals value =>
    have hsign : Closed "=".toList [.sign '='] := by decide
    exact yields_comparison a b hsign n _

/-! ## Atoms -/

/-- Tokens of which none is an operator or a parenthesis. -/
def Plain (ts : List Token) : Prop :=
  .opening ∉ ts ∧ .closing ∉ ts ∧ .and ∉ ts ∧ .or ∉ ts

instance (ts : List Token) : Decidable (Plain ts) :=
  inferInstanceAs (Decidable (_ ∧ _))

theorem balanced_of_plain {ts : List Token} (h : Plain ts) : Balanced ts :=
  .of_not_mem h.1 h.2.1

theorem plain_slotTokens (n : Nat) (vs : List Param) : Plain (Condition.slotTokens n vs) := by
  fun_induction Condition.slotTokens n vs with
  | case1 => decide
  | case2 => simp [Plain]
  | case3 n _ v vs ih => simpa [Plain] using ih

/-- What begins with a column is an atom if nothing in it needs to be told apart. -/
theorem atom_column (a b : Identifier) {ts : List Token} (h : Balanced ts) (hor : .or ∉ ts)
    (hand : .and ∉ ts) : Atom (columnTokens a b ++ ts) where
  balanced := .cons (by simp) (by simp) (.cons (by simp) (by simp) (.cons (by simp) (by simp) h))
  no_or := by simpa [columnTokens] using hor
  no_and := by simpa [columnTokens] using hand
  nonempty := by simp [columnTokens]
  head_ne := by simp [columnTokens]
  ne_truth := by simp [columnTokens, BooleanText.truth]

theorem atom_of_plain (a b : Identifier) {ts : List Token} (h : Plain ts) :
    Atom (columnTokens a b ++ ts) :=
  atom_column a b (balanced_of_plain h) h.2.2.2 h.2.2.1

/-- The tokens of a condition are one atom. -/
theorem atom_tokensFrom (a b : Identifier) (c : Condition) (n : Nat) :
    Atom (c.tokensFrom n (columnTokens a b)) := by
  cases c with
  | element value =>
    have hcolumn : Balanced (columnTokens a b) :=
      .of_not_mem (by simp [columnTokens]) (by simp [columnTokens])
    have hgroup : Balanced (.opening :: (columnTokens a b ++ [.closing])) := .group hcolumn .nil
    exact {
      balanced := .cons (by simp) (by simp) (.cons (by simp) (by simp)
        (.cons (by simp) (by simp) hgroup))
      no_or := by simp [Condition.tokensFrom, columnTokens]
      no_and := by simp [Condition.tokensFrom, columnTokens]
      nonempty := by simp [Condition.tokensFrom]
      head_ne := by simp [Condition.tokensFrom]
      ne_truth := by simp [Condition.tokensFrom, BooleanText.truth] }
  | oneOf values =>
    have hplain := plain_slotTokens n values
    have hgroup := Balanced.group (balanced_of_plain hplain) .nil
    apply atom_column a b (.cons (by simp) (by simp) hgroup)
    · simpa using hplain.2.2.2
    · simpa using hplain.2.2.1
  | never =>
    have hnever : Atom [.word ['1'], .sign '=', .word ['0']] :=
      ⟨.of_not_mem (by decide) (by decide), by decide, by decide, by decide, by decide,
        by decide⟩
    exact hnever
  | isNull | like | textLike | atLeast | atMost | equals =>
    exact atom_of_plain a b (by simp [Plain])

/-- The text of a predicate is read as one atom, whatever number its slots begin with. -/
theorem atom_textFrom {p : Predicate} (h : p.OnColumn) (n : Nat) :
    ∃ ts, Atom ts ∧ Yields (p.textFrom n) ts := by
  obtain ⟨column, condition⟩ := p
  obtain ⟨a, b, rfl⟩ := h
  exact ⟨_, atom_tokensFrom a b condition n, yields_textFrom a b condition n⟩

end Predicate

end SchemaSql
