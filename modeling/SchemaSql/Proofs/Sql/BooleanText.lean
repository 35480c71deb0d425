import Mathlib.Data.List.Basic
import SchemaSql.Sql.Identifier
import SchemaSql.Text.Blank
import SchemaSql.Text.Case

/-!
# Reading conditions as boolean expressions

The text of a condition as a database reads it, as far as its boolean structure goes. It is cut
into words, quoted names, parentheses and other signs; `AND` binds tighter than `OR`, parentheses
bind tightest, `1=1` is true, and what is left between these is an atom. A text in which the
parentheses do not match, or in which `AND` or `OR` stands anywhere but between two conditions,
cannot be read.
-/

namespace SchemaSql.BooleanText

/-! ## Tokens -/

inductive Token where
  | opening
  | closing
  | and
  | or
  | word (cs : List Char)
  | quoted (cs : List Char)
  | sign (c : Char)
deriving DecidableEq

def Token.isOperator : Token → Bool
  | and | or => true
  | opening | closing | word _ | quoted _ | sign _ => false

/-- The token of a word; the operators are words too, in letters of any case. -/
def ofWord (cs : List Char) : Token :=
  if Text.sameLetters cs "and".toList then .and
  else if Text.sameLetters cs "or".toList then .or
  else .word cs

def ended : List Char → List Token
  | [] => []
  | c :: cs => [ofWord (c :: cs)]

/-- The token of a character that is part of no word and no quoted name. -/
def ofMark (c : Char) : List Token :=
  if Text.isBlank c then []
  else if c = '(' then [.opening]
  else if c = ')' then [.closing]
  else [.sign c]

/-- Where a scan stands: outside of quotes, after some characters of a word, or between quotes. -/
inductive Mode where
  | outside (word : List Char)
  | inside (name : List Char)
deriving DecidableEq

/-- The tokens that a character ends, and where the scan stands after it. -/
def step : Mode → Char → List Token × Mode
  | .outside word, c =>
    if Identifier.continuesName c then ([], .outside (word ++ [c]))
    else if c = '"' then (ended word, .inside [])
    else (ended word ++ ofMark c, .outside [])
  | .inside name, c =>
    if c = '"' then ([.quoted name], .outside []) else ([], .inside (name ++ [c]))

def advance : Mode → List Char → List Token × Mode
  | m, [] => ([], m)
  | m, c :: cs => ((step m c).1 ++ (advance (step m c).2 cs).1, (advance (step m c).2 cs).2)

/-- The tokens of a text, unless a quote is left open. -/
def tokens (cs : List Char) : Option (List Token) :=
  match advance (.outside []) cs with
  | (ts, .outside word) => some (ts ++ ended word)
  | (_, .inside _) => none

/-! ## Expressions -/

inductive Expr where
  | truth
  | atom (ts : List Token)
  | and (l r : Expr)
  | or (l r : Expr)
deriving DecidableEq

namespace Expr

/-- The atoms from left to right, each as often as it occurs. -/
def atoms : Expr → List (List Token)
  | truth => []
  | atom ts => [ts]
  | and l r => l.atoms ++ r.atoms
  | or l r => l.atoms ++ r.atoms

def operators : Expr → List Token
  | truth => []
  | atom _ => []
  | and l r => l.operators ++ .and :: r.operators
  | or l r => l.operators ++ .or :: r.operators

/-- Whether the expression holds if the occurrences of atoms hold that `σ` says, counted from `n`
on from left to right. -/
def Holds (σ : Nat → Prop) : Nat → Expr → Prop
  | _, truth => True
  | n, atom _ => σ n
  | n, and l r => l.Holds σ n ∧ r.Holds σ (n + l.atoms.length)
  | n, or l r => l.Holds σ n ∨ r.Holds σ (n + l.atoms.length)

end Expr

/-! ## Parsing -/

def depthAfter : Nat → Token → Nat
  | d, .opening => d + 1
  | d, .closing => d - 1
  | d, _ => d

/-- What stands before and after the first occurrence of a mark outside of parentheses, of which
`d` are open. -/
def splitAt? (mark : Token) : Nat → List Token → Option (List Token × List Token)
  | _, [] => none
  | d, t :: ts =>
    if d = 0 ∧ t = mark then some ([], ts)
    else (splitAt? mark (depthAfter d t) ts).map fun p ↦ (t :: p.1, p.2)

def closes : Nat → List Token → Bool
  | d, [] => d == 0
  | d, .opening :: ts => closes (d + 1) ts
  | 0, .closing :: _ => false
  | d + 1, .closing :: ts => closes d ts
  | d, _ :: ts => closes d ts

def inner? : List Token → Option (List Token)
  | .opening :: ts =>
    if ts.getLast? = some .closing ∧ closes 0 ts.dropLast then some ts.dropLast else none
  | _ => none

/-- The tokens of `1=1`. -/
def truth : List Token :=
  [.word ['1'], .sign '=', .word ['1']]

/-- An atom has tokens, does not begin with a parenthesis, matches the parentheses that it has, and
has no operators. -/
def isAtom (ts : List Token) : Bool :=
  !ts.isEmpty && ts.head? != some .opening && closes 0 ts && !ts.contains .and &&
    !ts.contains .or

theorem length_of_splitAt? {mark : Token} {d : Nat} {ts l r : List Token}
    (h : splitAt? mark d ts = some (l, r)) : l.length + r.length < ts.length := by
  induction ts generalizing d l r with
  | nil => cases h
  | cons t ts ih =>
    unfold splitAt? at h
    split at h
    · obtain ⟨rfl, rfl⟩ := Prod.mk.inj (Option.some.inj h)
      simp
    · obtain ⟨⟨l, r⟩, hrest, h⟩ := Option.map_eq_some_iff.1 h
      obtain ⟨rfl, rfl⟩ := Prod.mk.inj h
      have := ih hrest
      simp only [List.length_cons]
      omega

theorem length_of_inner? {ts inner : List Token} (h : inner? ts = some inner) :
    inner.length < ts.length := by
  unfold inner? at h
  split at h
  · split at h
    · obtain rfl := Option.some.inj h
      simp only [List.length_dropLast, List.length_cons]
      omega
    · cases h
  · cases h

/-- The expression that tokens are read as: a disjunction before a conjunction, before anything in
parentheses. -/
def parse (ts : List Token) : Option Expr :=
  match _hor : splitAt? .or 0 ts with
  | some (l, r) => (parse l).bind fun e ↦ (parse r).map (.or e)
  | none =>
    match _hand : splitAt? .and 0 ts with
    | some (l, r) => (parse l).bind fun e ↦ (parse r).map (.and e)
    | none =>
      match _hinner : inner? ts with
      | some inner => parse inner
      | none =>
        if ts = truth then some .truth
        else if isAtom ts then some (.atom ts)
        else none
termination_by ts.length
decreasing_by
  · have := length_of_splitAt? _hor
    omega
  · have := length_of_splitAt? _hor
    omega
  · have := length_of_splitAt? _hand
    omega
  · have := length_of_splitAt? _hand
    omega
  · exact length_of_inner? _hinner

def read (text : String) : Option Expr :=
  (tokens text.toList).bind parse

/-! ## Nothing is passed over -/

theorem eq_of_splitAt? {mark : Token} {d : Nat} {ts l r : List Token}
    (h : splitAt? mark d ts = some (l, r)) : ts = l ++ mark :: r := by
  induction ts generalizing d l r with
  | nil => cases h
  | cons t ts ih =>
    unfold splitAt? at h
    split at h
    · rename_i hmark
      obtain ⟨rfl, rfl⟩ := Prod.mk.inj (Option.some.inj h)
      rw [hmark.2, List.nil_append]
    · obtain ⟨⟨l, r⟩, hrest, h⟩ := Option.map_eq_some_iff.1 h
      obtain ⟨rfl, rfl⟩ := Prod.mk.inj h
      rw [ih hrest, List.cons_append]

theorem eq_of_inner? {ts inner : List Token} (h : inner? ts = some inner) :
    ts = .opening :: (inner ++ [.closing]) := by
  unfold inner? at h
  split at h
  · split at h
    · rename_i hends
      obtain rfl := Option.some.inj h
      rw [List.dropLast_append_getLast? _ hends.1]
    · cases h
  · cases h

/-- The operators of a text that is read are those of its expression: none of them stands within an
atom. -/
theorem filter_isOperator_of_parse {ts : List Token} {e : Expr} (h : parse ts = some e) :
    ts.filter Token.isOperator = e.operators := by
  fun_induction parse ts generalizing e with
  | case1 ts l r hor ihl ihr =>
    obtain ⟨f, hf, h⟩ := Option.bind_eq_some_iff.1 h
    obtain ⟨g, hg, rfl⟩ := Option.map_eq_some_iff.1 h
    calc
      ts.filter Token.isOperator = (l ++ .or :: r).filter Token.isOperator := by
        rw [eq_of_splitAt? hor]
      _ = l.filter Token.isOperator ++ .or :: r.filter Token.isOperator := by
        rw [List.filter_append, List.filter_cons_of_pos rfl]
      _ = f.operators ++ .or :: g.operators := by rw [ihl hf, ihr hg]
  | case2 ts hor l r hand ihl ihr =>
    obtain ⟨f, hf, h⟩ := Option.bind_eq_some_iff.1 h
    obtain ⟨g, hg, rfl⟩ := Option.map_eq_some_iff.1 h
    calc
      ts.filter Token.isOperator = (l ++ .and :: r).filter Token.isOperator := by
        rw [eq_of_splitAt? hand]
      _ = l.filter Token.isOperator ++ .and :: r.filter Token.isOperator := by
        rw [List.filter_append, List.filter_cons_of_pos rfl]
      _ = f.operators ++ .and :: g.operators := by rw [ihl hf, ihr hg]
  | case3 ts hor hand inner hinner ih =>
    rw [eq_of_inner? hinner, List.filter_cons_of_neg (by decide), List.filter_append, ih h]
    exact List.append_nil _
  | case4 hor hand hinner =>
    obtain rfl := Option.some.inj h
    rfl
  | case5 ts hor hand hinner htruth hatom =>
    obtain rfl := Option.some.inj h
    rw [Expr.operators, List.filter_eq_nil_iff]
    intro t ht
    simp only [isAtom, Bool.and_eq_true, Bool.not_eq_true', List.contains_eq_mem,
      decide_eq_false_iff_not] at hatom
    cases t with
    | and => exact absurd ht hatom.1.2
    | or => exact absurd ht hatom.2
    | opening | closing | word | quoted | sign => exact Bool.false_ne_true
  | case6 => cases h

/-! ## Matching parentheses -/

/-- Every parenthesis is matched by another one. -/
inductive Balanced : List Token → Prop where
  | nil : Balanced []
  | cons {t ts} (hopening : t ≠ .opening) (hclosing : t ≠ .closing) (rest : Balanced ts) :
      Balanced (t :: ts)
  | group {ts us} (inside : Balanced ts) (rest : Balanced us) :
      Balanced (.opening :: (ts ++ .closing :: us))

namespace Balanced

variable {ts us : List Token}

theorem append (ht : Balanced ts) (hu : Balanced us) : Balanced (ts ++ us) := by
  induction ht with
  | nil => exact hu
  | cons hopening hclosing _ ih => exact .cons hopening hclosing ih
  | group inside _ _ ih =>
    rw [List.cons_append, List.append_assoc]
    exact .group inside ih

/-- Tokens that match all their parentheses leave the depth as it is. -/
theorem closes_append (h : Balanced ts) (d : Nat) (rest : List Token) :
    closes d (ts ++ rest) = closes d rest := by
  induction h generalizing d rest with
  | nil => rfl
  | @cons t ts hopening hclosing _ ih =>
    cases t with
    | opening => exact absurd rfl hopening
    | closing => exact absurd rfl hclosing
    | and | or | word | quoted | sign => cases d <;> exact ih _ rest
  | @group ts us _ _ ihinside ihrest =>
    calc
      closes d (.opening :: (ts ++ .closing :: us) ++ rest) =
          closes (d + 1) (ts ++ .closing :: (us ++ rest)) := by
        rw [List.cons_append, List.append_assoc, List.cons_append, closes]
      _ = closes (d + 1) (.closing :: (us ++ rest)) := ihinside (d + 1) _
      _ = closes d (us ++ rest) := rfl
      _ = closes d rest := ihrest d rest

theorem closes_eq_true (h : Balanced ts) : closes 0 ts = true := by
  have hnil := h.closes_append 0 []
  rwa [List.append_nil] at hnil

/-- Only parentheses change the depth. -/
theorem depthAfter_eq_self {t : Token} (hopening : t ≠ .opening) (hclosing : t ≠ .closing)
    (d : Nat) : depthAfter d t = d := by
  cases t with
  | opening => exact absurd rfl hopening
  | closing => exact absurd rfl hclosing
  | and | or | word | quoted | sign => rfl

/-- Within parentheses, matching tokens hold no mark that they could be split at. -/
theorem splitAt?_append (h : Balanced ts) (mark : Token) (d : Nat) (rest : List Token) :
    splitAt? mark (d + 1) (ts ++ rest) =
      (splitAt? mark (d + 1) rest).map fun p ↦ (ts ++ p.1, p.2) := by
  induction h generalizing d rest with
  | nil => simp
  | @cons t ts hopening hclosing _ ih =>
    rw [List.cons_append, splitAt?, depthAfter_eq_self hopening hclosing, ih]
    simp [Function.comp_def]
  | @group ts us _ _ ihinside ihrest =>
    rw [List.cons_append, List.append_assoc, List.cons_append, splitAt?, depthAfter, ihinside,
      splitAt?, depthAfter, Nat.add_sub_cancel, ihrest]
    simp [Function.comp_def]

/-- Matching tokens without a mark outside of parentheses come before whatever is split off. -/
theorem splitAt?_append_of_eq_none (h : Balanced ts) {mark : Token}
    (hfree : splitAt? mark 0 ts = none) (rest : List Token) :
    splitAt? mark 0 (ts ++ rest) = (splitAt? mark 0 rest).map fun p ↦ (ts ++ p.1, p.2) := by
  induction h with
  | nil => simp
  | @cons t ts hopening hclosing _ ih =>
    have hdepth := depthAfter_eq_self hopening hclosing 0
    rw [splitAt?, hdepth] at hfree
    split at hfree
    · cases hfree
    · rename_i hmark
      rw [List.cons_append, splitAt?, if_neg hmark, hdepth, ih (Option.map_eq_none_iff.1 hfree)]
      simp [Function.comp_def]
  | @group ts us inside _ _ ih =>
    rw [splitAt?, depthAfter, inside.splitAt?_append, splitAt?, depthAfter] at hfree
    split at hfree
    · cases hfree
    · rename_i hmark
      rw [if_neg (by simp)] at hfree
      have hrest : splitAt? mark 0 us = none := by simpa using hfree
      rw [List.cons_append, List.append_assoc, List.cons_append, splitAt?, if_neg hmark,
        depthAfter, inside.splitAt?_append, splitAt?, if_neg (by simp), depthAfter,
        Nat.add_sub_cancel, ih hrest]
      simp [Function.comp_def]

theorem of_not_mem (hopening : .opening ∉ ts) (hclosing : .closing ∉ ts) : Balanced ts := by
  induction ts with
  | nil => exact .nil
  | cons t ts ih =>
    rw [List.mem_cons, not_or] at hopening hclosing
    exact .cons (Ne.symm hopening.1) (Ne.symm hclosing.1) (ih hopening.2 hclosing.2)

end Balanced

theorem splitAt?_eq_none {mark : Token} {ts : List Token} (h : mark ∉ ts) (d : Nat) :
    splitAt? mark d ts = none := by
  induction ts generalizing d with
  | nil => rfl
  | cons t ts ih =>
    rw [List.mem_cons, not_or] at h
    have hmark : ¬(d = 0 ∧ t = mark) := fun ht ↦ h.1 ht.2.symm
    rw [splitAt?, if_neg hmark, ih h.2, Option.map_none]

/-- Tokens that close one parenthesis more than they open match up to this one and after it. -/
theorem exists_closing {ts : List Token} {d : Nat} (h : closes (d + 1) ts = true) :
    ∃ us vs, ts = us ++ .closing :: vs ∧ Balanced us ∧ closes d vs = true := by
  -- What follows an inner pair of parentheses is shorter, but no tail of the tokens at hand.
  induction hlength : ts.length using Nat.strongRecOn generalizing ts d with
  | ind n ih =>
    cases ts with
    | nil => cases h
    | cons t ts =>
      obtain rfl : ts.length + 1 = n := hlength
      cases t with
      | closing => exact ⟨[], ts, rfl, .nil, h⟩
      | opening =>
        have hinner : closes (d + 1 + 1) ts = true := h
        obtain ⟨us, vs, rfl, hus, hvs⟩ := ih ts.length (by omega) hinner rfl
        have hshorter : vs.length < (us ++ .closing :: vs).length + 1 := by
          simp only [List.length_append, List.length_cons]
          omega
        obtain ⟨us', vs', rfl, hus', hvs'⟩ := ih vs.length hshorter hvs rfl
        exact ⟨.opening :: (us ++ .closing :: us'), vs', by simp, .group hus hus', hvs'⟩
      | and | or | word | quoted | sign =>
        have hrest : closes (d + 1) ts = true := h
        obtain ⟨us, vs, rfl, hus, hvs⟩ := ih ts.length (by omega) hrest rfl
        exact ⟨_ :: us, vs, rfl, .cons (by simp) (by simp) hus, hvs⟩

/-- The check of parentheses finds out whether they match. -/
theorem closes_iff_balanced {ts : List Token} : closes 0 ts = true ↔ Balanced ts := by
  refine ⟨?_, Balanced.closes_eq_true⟩
  intro h
  induction hlength : ts.length using Nat.strongRecOn generalizing ts with
  | ind n ih =>
    cases ts with
    | nil => exact .nil
    | cons t ts =>
      obtain rfl : ts.length + 1 = n := hlength
      cases t with
      | closing => cases h
      | opening =>
        have hinner : closes (0 + 1) ts = true := h
        obtain ⟨us, vs, rfl, hus, hvs⟩ := exists_closing hinner
        have hshorter : vs.length < (us ++ .closing :: vs).length + 1 := by
          simp only [List.length_append, List.length_cons]
          omega
        exact .group hus (ih vs.length hshorter hvs rfl)
      | and | or | word | quoted | sign =>
        have hrest : closes 0 ts = true := h
        exact .cons (by simp) (by simp) (ih ts.length (by omega) hrest rfl)

/-- The parentheses of a text that is read match. -/
theorem balanced_of_parse {ts : List Token} {e : Expr} (h : parse ts = some e) : Balanced ts := by
  fun_induction parse ts generalizing e with
  | case1 ts l r hor ihl ihr =>
    obtain ⟨f, hf, h⟩ := Option.bind_eq_some_iff.1 h
    obtain ⟨g, hg, _⟩ := Option.map_eq_some_iff.1 h
    rw [eq_of_splitAt? hor]
    exact (ihl hf).append (.cons (by simp) (by simp) (ihr hg))
  | case2 ts hor l r hand ihl ihr =>
    obtain ⟨f, hf, h⟩ := Option.bind_eq_some_iff.1 h
    obtain ⟨g, hg, _⟩ := Option.map_eq_some_iff.1 h
    rw [eq_of_splitAt? hand]
    exact (ihl hf).append (.cons (by simp) (by simp) (ihr hg))
  | case3 ts hor hand inner hinner ih =>
    rw [eq_of_inner? hinner]
    exact .group (ih h) .nil
  | case4 hor hand hinner => exact closes_iff_balanced.1 (by decide)
  | case5 ts hor hand hinner htruth hatom =>
    simp only [isAtom, Bool.and_eq_true] at hatom
    exact closes_iff_balanced.1 hatom.1.1.2
  | case6 => cases h

/-! ## Factors -/

/-- Tokens that parentheses are not needed around: no operator stands outside of parentheses. -/
structure Factor (ts : List Token) : Prop where
  balanced : Balanced ts
  no_or : splitAt? .or 0 ts = none
  no_and : splitAt? .and 0 ts = none

structure Atom (ts : List Token) : Prop where
  balanced : Balanced ts
  no_or : .or ∉ ts
  no_and : .and ∉ ts
  nonempty : ts ≠ []
  head_ne : ts.head? ≠ some .opening
  ne_truth : ts ≠ truth

variable {l r ts : List Token}

theorem Atom.factor (h : Atom ts) : Factor ts :=
  ⟨h.balanced, splitAt?_eq_none h.no_or 0, splitAt?_eq_none h.no_and 0⟩

theorem factor_group (h : Balanced ts) : Factor (.opening :: (ts ++ [.closing])) := by
  have hfree (mark : Token) (hmark : mark ≠ .opening) :
      splitAt? mark 0 (.opening :: (ts ++ [.closing])) = none := by
    rw [splitAt?, if_neg fun h ↦ hmark h.2.symm, depthAfter, h.splitAt?_append]
    simp [splitAt?]
  exact ⟨.group h .nil, hfree .or (by simp), hfree .and (by simp)⟩

theorem factor_truth : Factor truth :=
  ⟨.of_not_mem (by simp [truth]) (by simp [truth]), rfl, rfl⟩

/-! ## What is parsed -/

theorem parse_or (hl : Factor l) (r : List Token) :
    parse (l ++ .or :: r) = (parse l).bind fun e ↦ (parse r).map (.or e) := by
  have hsplit : splitAt? .or 0 (l ++ .or :: r) = some (l, r) := by
    rw [hl.balanced.splitAt?_append_of_eq_none hl.no_or]
    simp [splitAt?]
  rw [parse]
  split
  · rename_i hor
    rw [hsplit] at hor
    obtain ⟨rfl, rfl⟩ := Prod.mk.inj (Option.some.inj hor)
    rfl
  · rename_i hor
    rw [hsplit] at hor
    cases hor

theorem splitAt?_or_and (hl : Factor l) (hr : splitAt? .or 0 r = none) :
    splitAt? .or 0 (l ++ .and :: r) = none := by
  rw [hl.balanced.splitAt?_append_of_eq_none hl.no_or, splitAt?, if_neg (by simp), depthAfter, hr]
  · rfl
  all_goals simp

theorem parse_and (hl : Factor l) (hr : splitAt? .or 0 r = none) :
    parse (l ++ .and :: r) = (parse l).bind fun e ↦ (parse r).map (.and e) := by
  have hnone := splitAt?_or_and hl hr
  have hsplit : splitAt? .and 0 (l ++ .and :: r) = some (l, r) := by
    rw [hl.balanced.splitAt?_append_of_eq_none hl.no_and]
    simp [splitAt?]
  rw [parse]
  split
  · rename_i hor
    rw [hnone] at hor
    cases hor
  · split
    · rename_i hand
      rw [hsplit] at hand
      obtain ⟨rfl, rfl⟩ := Prod.mk.inj (Option.some.inj hand)
      rfl
    · rename_i hand
      rw [hsplit] at hand
      cases hand

/-- Without operators outside of parentheses, tokens are read by what the parentheses hold. -/
theorem parse_factor (h : Factor ts) :
    parse ts =
      match inner? ts with
      | some inner => parse inner
      | none =>
        if ts = truth then some .truth else if isAtom ts then some (.atom ts) else none := by
  rw [parse]
  split
  · rename_i hor
    rw [h.no_or] at hor
    cases hor
  · split
    · rename_i hand
      rw [h.no_and] at hand
      cases hand
    · split <;> rename_i hinner <;> rw [hinner]

theorem parse_group (h : Balanced ts) : parse (.opening :: (ts ++ [.closing])) = parse ts := by
  have hinner : inner? (.opening :: (ts ++ [.closing])) = some ts := by
    simp [inner?, h.closes_eq_true]
  rw [parse_factor (factor_group h), hinner]

theorem parse_truth : parse truth = some .truth := by
  rw [parse_factor factor_truth]
  rfl

theorem parse_atom (h : Atom ts) : parse ts = some (.atom ts) := by
  have hinner : inner? ts = none := by
    unfold inner?
    split
    · exact absurd rfl h.head_ne
    · rfl
  have hatom : isAtom ts = true := by
    simp [isAtom, h.nonempty, h.head_ne, h.balanced.closes_eq_true, h.no_and, h.no_or]
  rw [parse_factor h.factor, hinner]
  simp [h.ne_truth, hatom]

end SchemaSql.BooleanText
