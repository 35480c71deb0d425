import SchemaSql.Proofs.Number.Digits
import SchemaSql.Proofs.Query.FragmentTokens
import SchemaSql.Proofs.Schema.Declared
import SchemaSql.Proofs.Sql.LikePattern

/-!
# The rows that a clause selects

What a database makes of the text of a clause and its values: each slot stands for the value of its
number, a comparison with null is neither true nor false, and a row is selected only by a clause
that is true on it. A text that is not understood selects nothing, and conditions on the elements of
arrays are not taken up here. Read this way, the text of a predicate says what its condition asks of
the value in its column.
-/

namespace SchemaSql

open BooleanText (Token Expr)

/-! ## Truth -/

inductive Truth where
  | yes
  | no
  | unknown
deriving DecidableEq

namespace Truth

def ofBool (b : Bool) : Truth :=
  if b then yes else no

def and : Truth → Truth → Truth
  | no, _ => no
  | _, no => no
  | yes, yes => yes
  | _, _ => unknown

def or : Truth → Truth → Truth
  | yes, _ => yes
  | _, yes => yes
  | no, no => no
  | _, _ => unknown

def any (ts : List Truth) : Truth :=
  ts.foldr or no

@[simp] theorem ofBool_eq_yes_iff {b : Bool} : ofBool b = yes ↔ b = true := by
  cases b <;> decide

theorem or_eq_yes_iff {s t : Truth} : s.or t = yes ↔ s = yes ∨ t = yes := by
  cases s <;> cases t <;> decide

theorem any_eq_yes_iff {ts : List Truth} : any ts = yes ↔ yes ∈ ts := by
  induction ts with
  | nil => decide
  | cons t ts ih =>
    rw [any, List.foldr_cons, or_eq_yes_iff, List.mem_cons, eq_comm, ← any, ih]

end Truth

/-! ## Values and conditions -/

/-- A value of a column that is not null: its text, and how it compares with the value that a text
is written for. -/
structure Datum where
  text : String
  order : String → Ordering

/-- The values of a row, by the names of tables and columns; null is none. -/
abbrev Tuple := List Char → List Char → Option Datum

namespace Condition

/-- How a value relates to a parameter, if neither of them is null. -/
def relate (holds : Datum → String → Bool) : Option Datum → Param → Truth
  | some d, .text s => .ofBool (holds d s)
  | _, _ => .unknown

def isEqual (d : Datum) (s : String) : Bool :=
  d.order s == .eq

def isLike (fold : Char → Char) (d : Datum) (s : String) : Bool :=
  LikePattern.fits fold s.toList d.text.toList

/-- The truth of a condition on a single value. Membership is equality with some one of the elements,
so that it is unknown if none of them is equal but one of them is null. -/
def truth? (fold : Char → Char) (x : Option Datum) : Condition → Option Truth
  | .element _ => none
  | .isNull => some (.ofBool x.isNone)
  | .like pattern => some (relate (isLike fold) x (.text pattern))
  | .textLike pattern => some (relate (isLike fold) x (.text pattern))
  | .atLeast bound => some (relate (fun d s ↦ (d.order s).isGE) x bound)
  | .atMost bound => some (relate (fun d s ↦ (d.order s).isLE) x bound)
  | .oneOf values => some (.any (values.map (relate isEqual x)))
  | .never => some .no
  | .equals value => some (relate isEqual x value)

theorem relate_eq_yes_iff {holds : Datum → String → Bool} {x : Option Datum} {p : Param} :
    relate holds x p = .yes ↔ ∃ d s, x = some d ∧ p = .text s ∧ holds d s = true := by
  cases x with
  | none => simp [relate]
  | some d =>
    cases p with
    | null => simp [relate]
    | text s => simp [relate]

end Condition

/-! ## Reading the text -/

namespace AtomText

/-- The parameter of a slot: a dollar sign, then its number, counted from one. -/
def slot? (params : List Param) : List Char → Option Param
  | '$' :: digits =>
    if digits.all Char.isDigit then
      match Nat.ofDigitChars 10 digits 0 with
      | 0 => none
      | n + 1 => params[n]?
    else none
  | _ => none

def slots? (params : List Param) : List Token → Option (List Param)
  | [.word w, .closing] => (slot? params w).map ([·])
  | .word w :: .sign ',' :: ts => do
    let p ← slot? params w
    let ps ← slots? params ts
    return p :: ps
  | _ => none

def pattern? (params : List Param) (w : List Char) : Option String :=
  (slot? params w).bind Param.toOption

def condition? (params : List Param) : List Token → Option Condition
  | [.sign '=', .word w] => (slot? params w).map .equals
  | [.sign '>', .sign '=', .word w] => (slot? params w).map .atLeast
  | [.sign '<', .sign '=', .word w] => (slot? params w).map .atMost
  | [.sign ':', .sign ':', .word type, .word sign, .word w] =>
    if type = "text".toList ∧ sign = "ILIKE".toList then (pattern? params w).map .textLike
    else none
  | [.word sign, .word w] =>
    if sign = "IS".toList ∧ w = "NULL".toList then some .isNull
    else if sign = "ILIKE".toList then (pattern? params w).map .like
    else none
  | .word sign :: .opening :: ts =>
    if sign = "IN".toList then (slots? params ts).map .oneOf else none
  | _ => none

def truth? (fold : Char → Char) (params : List Param) (row : Tuple) :
    List Token → Option Truth
  | .quoted table :: .sign '.' :: .quoted column :: ts =>
    (condition? params ts).bind (Condition.truth? fold (row table column))
  | [.word ['1'], .sign '=', .word ['0']] => some .no
  | _ => none

end AtomText

def BooleanText.Expr.truth? (fold : Char → Char) (params : List Param) (row : Tuple) :
    Expr → Option Truth
  | .truth => some .yes
  | .atom ts => AtomText.truth? fold params row ts
  | .and l r => do
    let s ← l.truth? fold params row
    let t ← r.truth? fold params row
    return s.and t
  | .or l r => do
    let s ← l.truth? fold params row
    let t ← r.truth? fold params row
    return s.or t

/-- Whether the text of a clause with its values is true on a row. -/
def Clause.Selects (c : Clause) (fold : Char → Char) (row : Tuple) : Prop :=
  (BooleanText.read (c.render none)).bind (Expr.truth? fold c.values row) = some .yes

/-! ## What the text of a predicate says -/

namespace AtomText

variable {params before after : List Param}

theorem slot?_numbered (n : Nat) (params : List Param) :
    slot? params (Template.numbered (n + 1)) = params[n]? := by
  have hdigits : (Nat.toDigits 10 (n + 1)).all Char.isDigit = true :=
    List.all_eq_true.2 fun c hc ↦ Digits.isDigit_of_mem hc
  rw [Template.numbered, slot?, if_pos hdigits, Digits.value]

/-- The slot whose number comes after those of some values stands for the value behind them. -/
theorem slot?_eq {p : Param} (h : params = before ++ p :: after) :
    slot? params (Template.numbered (before.length + 1)) = some p := by
  rw [slot?_numbered, h]
  simp

/-- Slots that are numbered on from those of some values stand for the values behind them. -/
theorem slots?_slotTokens {ps : List Param} (hne : ps ≠ []) (h : params = before ++ (ps ++ after)) :
    slots? params (Condition.slotTokens (before.length + 1) ps ++ [.closing]) = some ps := by
  -- With each slot that is read, one more value is behind.
  induction ps generalizing before with
  | nil => exact absurd rfl hne
  | cons p ps ih =>
    have hslot := slot?_eq h
    cases ps with
    | nil => simp [Condition.slotTokens, slots?, hslot]
    | cons q ps =>
      have hrest : slots? params
          (Condition.slotTokens ((before ++ [p]).length + 1) (q :: ps) ++ [.closing]) =
            some (q :: ps) :=
        ih (by simp) (by simpa using h)
      rw [List.length_append, List.length_singleton] at hrest
      simp [Condition.slotTokens, slots?, hslot, hrest]

/-- What stands behind a column says what is asked of its value. -/
theorem truth?_column (fold : Char → Char) (row : Tuple) (a b : Identifier) (ts : List Token) :
    truth? fold params row (Predicate.columnTokens a b ++ ts) =
      (condition? params ts).bind (Condition.truth? fold (row a.text.toList b.text.toList)) :=
  rfl

/-- The tokens of a condition say what the condition asks of the column; only a list of no elements
would not be understood. -/
theorem truth?_tokensFrom (fold : Char → Char) (row : Tuple) (a b : Identifier) {c : Condition}
    (hne : c ≠ .oneOf []) {column : String}
    (h : params = before ++ (Predicate.values ⟨column, c⟩ ++ after)) :
    truth? fold params row (c.tokensFrom (before.length + 1) (Predicate.columnTokens a b)) =
      c.truth? fold (row a.text.toList b.text.toList) := by
  cases c with
  | element value => rfl
  | isNull => rfl
  | never => rfl
  | like pattern =>
    have hslot : slot? params _ = some (.text pattern) := slot?_eq h
    simp [Condition.tokensFrom, truth?_column, condition?, pattern?, hslot,
      Param.toOption]
  | textLike pattern =>
    have hslot : slot? params _ = some (.text pattern) := slot?_eq h
    simp [Condition.tokensFrom, truth?_column, condition?, pattern?, hslot,
      Param.toOption]
  | atLeast bound =>
    have hslot : slot? params _ = some bound := slot?_eq h
    simp [Condition.tokensFrom, truth?_column, condition?, hslot]
  | atMost bound =>
    have hslot : slot? params _ = some bound := slot?_eq h
    simp [Condition.tokensFrom, truth?_column, condition?, hslot]
  | equals value =>
    have hslot : slot? params _ = some value := slot?_eq h
    simp [Condition.tokensFrom, truth?_column, condition?, hslot]
  | oneOf values =>
    have hslots := slots?_slotTokens (fun hnil ↦ hne (hnil ▸ rfl)) h
    simp [Condition.tokensFrom, truth?_column, condition?, hslots]

end AtomText

namespace Clause

/-- A clause of one predicate selects the rows whose value in its column meets the condition. -/
theorem selects_singleton (fold : Char → Char) (row : Tuple) (combinator : Combinator)
    (a b : Identifier) {c : Condition} (hne : c ≠ .oneOf []) :
    (Predicate.clause combinator [⟨Identifier.dotted a b, c⟩]).Selects fold row ↔
      c.truth? fold (row a.text.toList b.text.toList) = some .yes := by
  let p : Predicate := ⟨Identifier.dotted a b, c⟩
  have htemplate : (Predicate.clause combinator [p]).template.toList = p.template.toList := by
    rw [toList_template rfl (by simp [Predicate.clause])]
    simp [Predicate.clause]
  have htext : ((Predicate.clause combinator [p]).render none).toList = p.textFrom 1 := by
    rw [render, renderFrom, Template.numberFrom_text, String.toList_ofList, Predicate.textFrom,
      ← htemplate]
    rfl
  have hread : BooleanText.read ((Predicate.clause combinator [p]).render none) =
      some (.atom (c.tokensFrom 1 (Predicate.columnTokens a b))) := by
    rw [BooleanText.read, htext, (Predicate.yields_textFrom a b c 1).tokens_eq, Option.bind_some,
      BooleanText.parse_atom (Predicate.atom_tokensFrom a b c 1)]
  have hvalues : (Predicate.clause combinator [p]).values = [] ++ (p.values ++ []) := by
    simp [Predicate.clause]
  have htruth := AtomText.truth?_tokensFrom fold row a b hne hvalues
  rw [List.length_nil, Nat.zero_add] at htruth
  rw [Selects, hread, Option.bind_some, Expr.truth?, htruth]

end Clause

/-! ## Payloads with one field -/

namespace Table

def datum? (t : Table) (f : Field) (row : Tuple) : Option Datum :=
  row t.name.text.toList f.column.text.toList

variable {t : Table}

/-- A payload asks nothing of a field under whose name it has no value. -/
theorem fieldPredicates_of_ne {f : Field} {name : String} (h : f.name ≠ name) (v : Json) :
    t.fieldPredicates (.object [(name, v)]) f = .ok [] := by
  simp [fieldPredicates, Json.get?, List.lookup_cons, beq_eq_false_iff_ne.2 h]

theorem mapM_fieldPredicates_of_not_mem {fs : List Field} {name : String}
    (h : name ∉ fs.map Field.name) (v : Json) :
    fs.mapM (t.fieldPredicates (.object [(name, v)])) = .ok (fs.map fun _ ↦ []) := by
  apply Outcome.mapM_eq_ok_iff.2
  rw [List.forall₂_map_right_iff, List.forall₂_same]
  intro f hf
  apply fieldPredicates_of_ne
  rintro rfl
  exact h (List.mem_map_of_mem hf)

theorem fieldPredicates_self (f : Field) (v : Json) :
    t.fieldPredicates (.object [(f.name, v)]) f =
      (f.conditions v).map fun cs ↦ cs.map fun c ↦ ⟨t.columnOf f, c⟩ := by
  have hvalue : (Json.object [(f.name, v)]).get? f.name = some v := by simp [Json.get?]
  simp only [fieldPredicates, hvalue]
  cases f.conditions v <;> rfl

/-- The clause of a payload that has a value for one field only is made of the conditions that the
field puts on its column. -/
theorem whereClause_singleton (ht : t.Declared) {f : Field} (hf : f ∈ t.fields) (v : Json)
    (combinator : Combinator) :
    t.whereClause (.object [(f.name, v)]) combinator =
      match f.conditions v with
      | .ok cs => .ok (Predicate.clause combinator (cs.map fun c ↦ ⟨t.columnOf f, c⟩))
      | .error e => .error (.value e) := by
  obtain ⟨before, after, hfields⟩ := List.append_of_mem hf
  have hnodup := ht.names_nodup
  rw [hfields, List.map_append, List.map_cons, List.nodup_middle, List.nodup_cons,
    List.mem_append, not_or] at hnodup
  have hbefore := mapM_fieldPredicates_of_not_mem (t := t) hnodup.1.1 v
  have hafter := mapM_fieldPredicates_of_not_mem (t := t) hnodup.1.2 v
  rw [whereClause, predicates, hfields, List.mapM_append, List.mapM_cons, hbefore, hafter,
    fieldPredicates_self]
  cases f.conditions v with
  | error e => rfl
  | ok cs => simp [bind, Except.bind, pure, Except.pure, Except.map]

/-- If a field puts one condition on its column, the clause of the payload selects the rows whose
value meets it. -/
theorem exists_selects_of_conditions (ht : t.Declared) {f : Field} (hf : f ∈ t.fields) {v : Json}
    {c : Condition} (hc : f.conditions v = .ok [c]) (hne : c ≠ .oneOf []) (combinator : Combinator) :
    ∃ d, t.whereClause (.object [(f.name, v)]) combinator = .ok d ∧
      d.values = Predicate.values ⟨t.columnOf f, c⟩ ∧
      ∀ fold row, d.Selects fold row ↔ c.truth? fold (t.datum? f row) = some .yes := by
  have hclause := whereClause_singleton ht hf v combinator
  rw [hc] at hclause
  refine ⟨_, hclause, by simp [Predicate.clause], ?_⟩
  intro fold row
  exact Clause.selects_singleton fold row combinator t.name f.column hne

end Table

end SchemaSql
