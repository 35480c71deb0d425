import SchemaSql.Proofs.Query.FragmentTokens
import SchemaSql.Proofs.Schema.Declared

/-!
# The boolean structure of filters

The clause of a search and a filter, read back as a boolean expression: some predicate of the
search holds, unless there is none, and every predicate of the filter does. Parentheses that are
left out for a single group make no difference, as operators of one kind only stand between
predicates that need none.
-/

namespace SchemaSql

open BooleanText (Token Expr Atom Balanced Factor Closed Yields parse splitAt? tokens)

/-! ## Combinations -/

namespace Combinator

def token : Combinator → Token
  | .and => .and
  | .or => .or

def join : Combinator → Expr → Expr → Expr
  | .and => .and
  | .or => .or

def Connects : Combinator → Prop → Prop → Prop
  | .and => And
  | .or => Or

/-- Every one of `k` occurrences from `n` on holds, or some one of them. -/
def Holds (σ : Nat → Prop) (n k : Nat) : Combinator → Prop
  | .and => ∀ i < k, σ (n + i)
  | .or => ∃ i < k, σ (n + i)

theorem holds_one (c : Combinator) (σ : Nat → Prop) (n : Nat) : c.Holds σ n 1 ↔ σ n := by
  cases c <;> simp [Holds]

theorem holds_add (c : Combinator) (σ : Nat → Prop) (n k l : Nat) :
    c.Holds σ n (k + l) ↔ c.Connects (c.Holds σ n k) (c.Holds σ (n + k) l) := by
  cases c with
  | and =>
    constructor
    · intro h
      constructor
      · intro i hi
        exact h i (by omega)
      · intro i hi
        rw [Nat.add_assoc]
        exact h (k + i) (by omega)
    · rintro ⟨hfirst, hrest⟩ i hi
      by_cases hik : i < k
      · exact hfirst i hik
      · have hlast := hrest (i - k) (by omega)
        rwa [Nat.add_assoc, Nat.add_sub_cancel' (Nat.le_of_not_lt hik)] at hlast
  | or =>
    constructor
    · rintro ⟨i, hi, hσ⟩
      by_cases hik : i < k
      · exact .inl ⟨i, hik, hσ⟩
      · refine .inr ⟨i - k, by omega, ?_⟩
        rwa [Nat.add_assoc, Nat.add_sub_cancel' (Nat.le_of_not_lt hik)]
    · rintro (⟨i, hi, hσ⟩ | ⟨i, hi, hσ⟩)
      · exact ⟨i, by omega, hσ⟩
      · exact ⟨k + i, by omega, by rwa [← Nat.add_assoc]⟩

theorem closed_separator (c : Combinator) : Closed c.separator.toList [c.token] := by
  cases c <;> decide

theorem fresh_separator (c : Combinator) : BooleanText.Fresh c.separator.toList := by
  cases c <;> decide

end Combinator

structure Combines (c : Combinator) (ts : List Token) (atoms : List (List Token)) : Prop where
  balanced : Balanced ts
  parses : ∃ e, parse ts = some e ∧ e.atoms = atoms ∧
    ∀ σ n, e.Holds σ n ↔ c.Holds σ n atoms.length

namespace Combines

variable {c : Combinator} {ts us : List Token} {as bs : List (List Token)}

theorem of_atom (h : Atom ts) : Combines c ts [ts] :=
  ⟨h.balanced, .atom ts, BooleanText.parse_atom h, rfl, fun σ n ↦ (c.holds_one σ n).symm⟩

theorem group (h : Combines c ts as) : Combines c (.opening :: (ts ++ [.closing])) as := by
  refine ⟨.group h.balanced .nil, ?_⟩
  rw [BooleanText.parse_group h.balanced]
  exact h.parses

/-- The operator between two combinations binds them if the first needs no parentheses, and the
second none but for the operator itself. -/
theorem join (hfactor : Factor ts) (ht : Combines c ts as) (hu : Combines c us bs)
    (hfree : c = .and → splitAt? .or 0 us = none) :
    Combines c (ts ++ c.token :: us) (as ++ bs) := by
  obtain ⟨e, he, rfl, hle⟩ := ht.parses
  obtain ⟨f, hf, rfl, hlf⟩ := hu.parses
  have hparse : parse (ts ++ c.token :: us) = some (c.join e f) := by
    cases c with
    | and =>
      rw [Combinator.token, BooleanText.parse_and hfactor (hfree rfl), he, hf]
      rfl
    | or =>
      rw [Combinator.token, BooleanText.parse_or hfactor, he, hf]
      rfl
  refine ⟨ht.balanced.append (.cons ?_ ?_ hu.balanced), c.join e f, hparse, ?_, ?_⟩
  · cases c <;> simp [Combinator.token]
  · cases c <;> simp [Combinator.token]
  · cases c <;> rfl
  · intro σ n
    rw [List.length_append, Combinator.holds_add, ← hle, ← hlf]
    cases c <;> rfl

end Combines

/-! ## Fragments -/

namespace Predicate

def textsFrom : Nat → List Predicate → List (List Char)
  | _, [] => []
  | n, p :: ps => p.textFrom n :: textsFrom (n + p.values.length) ps

theorem textsFrom_append (n : Nat) (ps qs : List Predicate) :
    textsFrom n (ps ++ qs) =
      textsFrom n ps ++ textsFrom (n + (ps.flatMap values).length) qs := by
  induction ps generalizing n with
  | nil => rfl
  | cons p ps ih =>
    calc
      textsFrom n (p :: ps ++ qs) =
          p.textFrom n :: textsFrom (n + p.values.length) (ps ++ qs) := rfl
      _ = textsFrom n (p :: ps) ++
            textsFrom (n + p.values.length + (ps.flatMap values).length) qs := by
        rw [ih, textsFrom, List.cons_append]
      _ = textsFrom n (p :: ps) ++ textsFrom (n + ((p :: ps).flatMap values).length) qs := by
        rw [Nat.add_assoc, List.flatMap_cons, List.length_append]

/-- The atoms are the tokens of the texts of predicates, in their order. -/
def AreAtoms (n : Nat) (ps : List Predicate) (atoms : List (List Token)) : Prop :=
  List.Forall₂ (fun text atom ↦ tokens text = some atom) (textsFrom n ps) atoms

theorem length_textsFrom (n : Nat) (ps : List Predicate) :
    (textsFrom n ps).length = ps.length := by
  induction ps generalizing n with
  | nil => rfl
  | cons p ps ih => rw [textsFrom, List.length_cons, ih, List.length_cons]

theorem AreAtoms.length_eq {n : Nat} {ps : List Predicate} {atoms : List (List Token)}
    (h : AreAtoms n ps atoms) : atoms.length = ps.length := by
  rw [← List.Forall₂.length_eq h, length_textsFrom]

theorem AreAtoms.append {n : Nat} {ps qs : List Predicate} {as bs : List (List Token)}
    (hp : AreAtoms n ps as) (hq : AreAtoms (n + (ps.flatMap values).length) qs bs) :
    AreAtoms n (ps ++ qs) (as ++ bs) := by
  rw [AreAtoms, textsFrom_append]
  exact List.rel_append hp hq

/-! ## Combined predicates -/

/-- How some segments are read wherever numbering reaches them: as a combination of predicates. -/
def ReadsAs (c : Combinator) (n : Nat) (gs : List Segment) (ps : List Predicate)
    (ts : List Token) : Prop :=
  Yields (Segment.textFrom n gs) ts ∧ ∃ atoms, Combines c ts atoms ∧ AreAtoms n ps atoms

/-- Operands that need no parentheses are combined by a separator between two of them. -/
theorem readsAs_intercalate {α : Type} (c : Combinator) (segments : α → List Segment)
    (predicates : α → List Predicate) {xs : List α} (hne : xs ≠ [])
    (hcount : ∀ x ∈ xs,
      (Segment.cellsOf (segments x)).count none = ((predicates x).flatMap values).length)
    (hreads : ∀ x ∈ xs, ∀ n, ∃ ts, Factor ts ∧ ReadsAs c n (segments x) (predicates x) ts)
    (n : Nat) :
    ∃ ts, (c = .and → splitAt? .or 0 ts = none) ∧
      ReadsAs c n ([Segment.text c.separator].intercalate (xs.map segments))
        (xs.flatMap predicates) ts := by
  induction xs generalizing n with
  | nil => exact absurd rfl hne
  | cons x xs ih =>
    obtain ⟨ts, hfactor, hyields, as, hcombines, hatoms⟩ := hreads x List.mem_cons_self n
    cases xs with
    | nil =>
      refine ⟨ts, fun _ ↦ hfactor.no_or, ?_, as, hcombines, ?_⟩
      · simpa using hyields
      · simpa using hatoms
    | cons y xs =>
      obtain ⟨us, hfree, hrest, bs, hcombined, hothers⟩ :=
        ih (by simp) (fun z hz ↦ hcount z (List.mem_cons_of_mem x hz))
          (fun z hz ↦ hreads z (List.mem_cons_of_mem x hz))
          (n + ((predicates x).flatMap values).length)
      have hscan := (hyields.append_closed c.fresh_separator c.closed_separator).append_yields hrest
      refine ⟨ts ++ c.token :: us, ?_, ?_, as ++ bs, .join hfactor hcombines hcombined hfree, ?_⟩
      · intro hand
        subst hand
        exact BooleanText.splitAt?_or_and hfactor (hfree rfl)
      · rw [List.map_cons, List.map_cons, List.intercalate_cons_cons, List.append_assoc,
          Segment.textFrom_append, hcount x List.mem_cons_self, List.singleton_append,
          Segment.textFrom_text, ← List.append_assoc]
        simpa using hscan
      · rw [List.flatMap_cons]
        exact hatoms.append hothers

theorem count_cellsOf_segment {p : Predicate} (h : p.OnColumn) :
    (Segment.cellsOf [p.segment]).count none = p.values.length := by
  rw [← (cut_segment h).cells_eq, (cut_segment h).cells_eq,
    Segment.count_none_cellsOf (cut_segment h).fits, ← (cut_segment h).values_eq]

/-- Predicates of one group. -/
theorem readsAs_segments (c : Combinator) {ps : List Predicate} (hne : ps ≠ [])
    (h : ∀ p ∈ ps, p.OnColumn) (n : Nat) :
    ∃ ts, (c = .and → splitAt? .or 0 ts = none) ∧ ReadsAs c n (segments c ps) ps ts := by
  have hcount : ∀ p ∈ ps,
      (Segment.cellsOf [p.segment]).count none = ([p].flatMap values).length := by
    intro p hp
    rw [count_cellsOf_segment (h p hp), List.flatMap_singleton]
  have hreads : ∀ p ∈ ps, ∀ n, ∃ ts, Factor ts ∧ ReadsAs c n [p.segment] [p] ts := by
    intro p hp n
    obtain ⟨ts, hatom, hyields⟩ := atom_textFrom (h p hp) n
    refine ⟨ts, hatom.factor, ?_, [ts], .of_atom hatom, .cons hyields.tokens_eq .nil⟩
    simpa [Segment.textFrom, Segment.cellsOf, segment, Segment.ofTemplate, textFrom] using hyields
  have hread := readsAs_intercalate c (fun p ↦ [p.segment]) (fun p ↦ [p]) hne hcount hreads n
  simpa [segments] using hread

/-! ### Groups -/

theorem closed_parenthesized {n : Nat} {gs : List Segment} {ts : List Token}
    (h : Yields (Segment.textFrom n gs) ts) :
    Closed (Segment.textFrom n (parenthesized gs)) (.opening :: (ts ++ [.closing])) := by
  have hopening : Closed "(".toList [.opening] := by decide
  have hclosing : Closed ")".toList [.closing] := by decide
  have hscan := (hopening.append_yields h).append_closed (by decide) hclosing
  rw [parenthesized, Segment.textFrom_append]
  simpa using hscan

theorem count_cellsOf_parenthesized (gs : List Segment) :
    (Segment.cellsOf (parenthesized gs)).count none = (Segment.cellsOf gs).count none := by
  simp [parenthesized, Segment.cellsOf, Segment.text]

theorem count_cellsOf_segments (c : Combinator) {ps : List Predicate}
    (h : ∀ p ∈ ps, p.OnColumn) :
    (Segment.cellsOf (segments c ps)).count none = (ps.flatMap values).length := by
  by_cases hne : ps = []
  · subst hne
    rfl
  · have hcut := cut_clause c hne h
    rw [Segment.count_none_cellsOf hcut.fits, valuesOf_segments]

theorem readsAs_parenthesized {c : Combinator} {n : Nat} {gs : List Segment}
    {ps : List Predicate} {ts : List Token} (h : ReadsAs c n gs ps ts) :
    ReadsAs c n (parenthesized gs) ps (.opening :: (ts ++ [.closing])) := by
  obtain ⟨hyields, atoms, hcombines, hatoms⟩ := h
  exact ⟨(closed_parenthesized hyields).yields, atoms, hcombines.group, hatoms⟩

theorem readsAs_parenthesizedGroups (c : Combinator) {groups : List (List Predicate)}
    (hne : groups ≠ []) (h : ∀ g ∈ groups, g ≠ [] ∧ ∀ p ∈ g, p.OnColumn) (n : Nat) :
    ∃ ts, ReadsAs c n ([Segment.text c.separator].intercalate
      (groups.map fun g ↦ parenthesized (segments c g))) groups.flatten ts := by
  have hcount : ∀ g ∈ groups, (Segment.cellsOf (parenthesized (segments c g))).count none =
      ((id g).flatMap values).length := by
    intro g hg
    rw [count_cellsOf_parenthesized, count_cellsOf_segments c (h g hg).2]
    rfl
  have hoperands : ∀ g ∈ groups, ∀ n, ∃ ts, Factor ts ∧
      ReadsAs c n (parenthesized (segments c g)) (id g) ts := by
    intro g hg n
    obtain ⟨ts, _, hreads⟩ := readsAs_segments c (h g hg).1 (h g hg).2 n
    have ⟨_, _, hcombines, _⟩ := hreads
    exact ⟨_, BooleanText.factor_group hcombines.balanced, readsAs_parenthesized hreads⟩
  obtain ⟨ts, _, hreads⟩ := readsAs_intercalate c _ id hne hcount hoperands n
  rw [List.flatMap_id] at hreads
  exact ⟨ts, hreads⟩

/-- Groups are read like one group of all their predicates, however many there are. -/
theorem readsAs_groupSegments (c : Combinator) {groups : List (List Predicate)}
    (hsome : groups.flatten ≠ []) (h : ∀ g ∈ groups, ∀ p ∈ g, p.OnColumn) (n : Nat) :
    ∃ ts, ReadsAs c n (groupSegments c groups) groups.flatten ts := by
  have hflatten : groups.flatten = (groups.filter fun g ↦ !g.isEmpty).flatten :=
    (List.flatten_filter_not_isEmpty).symm
  have hpresent := onColumn_of_present h
  rw [hflatten] at hsome ⊢
  unfold groupSegments
  generalize groups.filter (fun g ↦ !g.isEmpty) = present at hsome hpresent ⊢
  have hne : present ≠ [] := by
    rintro rfl
    exact hsome rfl
  simp only [hne, if_false]
  cases present with
  | nil => exact absurd rfl hne
  | cons g present =>
    cases present with
    | nil =>
      obtain ⟨hg, hcolumns⟩ := hpresent g List.mem_cons_self
      obtain ⟨ts, _, hreads⟩ := readsAs_segments c hg hcolumns n
      exact ⟨ts, by simpa using hreads⟩
    | cons g' present =>
      have hmany : 1 < (g :: g' :: present).length := by simp
      simp only [hmany, if_true]
      exact readsAs_parenthesizedGroups c hne hpresent n

theorem count_cellsOf_groupSegments (c : Combinator) {groups : List (List Predicate)}
    (h : ∀ g ∈ groups, ∀ p ∈ g, p.OnColumn) :
    (Segment.cellsOf (groupSegments c groups)).count none =
      (groups.flatten.flatMap values).length := by
  rw [Segment.count_none_cellsOf (cut_groupClause c h).fits, valuesOf_groupSegments]

/-- The text of a filter is numbered on from the values of the search before it. -/
theorem textFrom_filterSegments {search : List (List Predicate)}
    (h : ∀ g ∈ search, ∀ p ∈ g, p.OnColumn) (filter : List (List Predicate)) (n : Nat) :
    Segment.textFrom n (filterSegments search filter) =
      Segment.textFrom n (parenthesized (groupSegments .or search)) ++
        (Combinator.separator .and).toList ++
        Segment.textFrom (n + (search.flatten.flatMap values).length)
          (parenthesized (groupSegments .and filter)) := by
  have hsearch : (Segment.cellsOf (parenthesized (groupSegments .or search))).count none =
      (search.flatten.flatMap values).length := by
    rw [count_cellsOf_parenthesized, count_cellsOf_groupSegments .or h]
  rw [filterSegments, List.append_assoc, Segment.textFrom_append, hsearch,
    List.singleton_append, Segment.textFrom_text, List.append_assoc]

/-- Groups are read as their combination, or as the truth if they are all empty. -/
theorem parses_groupSegments (c : Combinator) {groups : List (List Predicate)}
    (h : ∀ g ∈ groups, ∀ p ∈ g, p.OnColumn) (n : Nat) :
    ∃ ts e, Yields (Segment.textFrom n (groupSegments c groups)) ts ∧ Balanced ts ∧
      parse ts = some e ∧ AreAtoms n groups.flatten e.atoms ∧
      ∀ σ k, e.Holds σ k ↔ (groups.flatten = [] ∨ c.Holds σ k groups.flatten.length) := by
  by_cases hnone : groups.flatten = []
  · have hfilter : groups.filter (fun g ↦ !g.isEmpty) = [] := by
      rw [List.flatten_eq_nil_iff] at hnone
      rw [List.filter_eq_nil_iff]
      intro g hg
      simp [hnone g hg]
    have hyields : Yields (Segment.textFrom n (groupSegments c groups)) BooleanText.truth := by
      have htruth : Yields "1=1".toList BooleanText.truth :=
        ⟨[.word ['1'], .sign '='], ['1'], by decide, by decide⟩
      simpa [groupSegments, hfilter, Combinator.empty] using htruth
    refine ⟨_, .truth, hyields, BooleanText.factor_truth.balanced, BooleanText.parse_truth, ?_, ?_⟩
    · rw [hnone]
      exact .nil
    · intro σ k
      simp [hnone, Expr.Holds]
  · obtain ⟨ts, hyields, _, ⟨hbalanced, e, he, rfl, hholds⟩, hatoms⟩ :=
      readsAs_groupSegments c hnone h n
    refine ⟨ts, e, hyields, hbalanced, he, hatoms, ?_⟩
    intro σ k
    rw [hholds, hatoms.length_eq]
    simp [hnone]

/-- In parentheses they are read alike. -/
theorem parses_group (c : Combinator) {groups : List (List Predicate)}
    (h : ∀ g ∈ groups, ∀ p ∈ g, p.OnColumn) (n : Nat) :
    ∃ ts e, Closed (Segment.textFrom n (parenthesized (groupSegments c groups))) ts ∧ Factor ts ∧
      parse ts = some e ∧ AreAtoms n groups.flatten e.atoms ∧
      ∀ σ k, e.Holds σ k ↔ (groups.flatten = [] ∨ c.Holds σ k groups.flatten.length) := by
  obtain ⟨ts, e, hyields, hbalanced, he, hatoms, hholds⟩ := parses_groupSegments c h n
  refine ⟨_, e, closed_parenthesized hyields, BooleanText.factor_group hbalanced, ?_, hatoms, hholds⟩
  rw [BooleanText.parse_group hbalanced, he]

end Predicate

namespace JoinPlan

/-- The clause of a search and a filter, its slots numbered from any number on, is read as a boolean
expression. Its parentheses match, and its operators stand outside of atoms; its atoms are the
predicates of the search and then those of the filter; and whichever of these hold, it holds exactly
if some predicate of the search does, or there is none, and every predicate of the filter does. -/
theorem filter_holds_iff {p : JoinPlan} {filter search : Option Json} {c : Clause}
    (h : p.filter filter search = .ok c) (start : Nat) :
    ∃ sought required ts e,
      p.predicateGroups search = .ok sought ∧ p.predicateGroups filter = .ok required ∧
      tokens (c.renderFrom none start).1.toList = some ts ∧ Balanced ts ∧
      parse ts = some e ∧ ts.filter Token.isOperator = e.operators ∧
      List.Forall₂ (fun text atom ↦ tokens text = some atom)
        (Predicate.textsFrom start (sought.flatten ++ required.flatten)) e.atoms ∧
      ∀ σ : Nat → Prop, e.Holds σ 0 ↔
        (sought.flatten = [] ∨ ∃ i < sought.flatten.length, σ i) ∧
          ∀ i < required.flatten.length, σ (sought.flatten.length + i) := by
  obtain ⟨sought, required, hsought, hrequired, hcut⟩ := cut_filter h
  have hsearch := onColumn_of_asks (asks_of_predicateGroups hsought)
  have hfilter := onColumn_of_asks (asks_of_predicateGroups hrequired)
  let next := start + (sought.flatten.flatMap Predicate.values).length
  obtain ⟨ts, e, hts, htfactor, he, heatoms, heholds⟩ :=
    Predicate.parses_group .or hsearch start
  obtain ⟨us, f, hus, hufactor, hf, hfatoms, hfholds⟩ :=
    Predicate.parses_group .and hfilter next
  have htext : (c.renderFrom none start).1.toList =
      Segment.textFrom start (Predicate.filterSegments sought required) := by
    rw [Clause.renderFrom, Template.numberFrom_text, String.toList_ofList, Segment.textFrom,
      ← hcut.cells_eq]
    rfl
  have hclosed : Closed (c.renderFrom none start).1.toList (ts ++ .and :: us) := by
    have hscan := (hts.append (Combinator.closed_separator .and)).append hus
    rwa [← Predicate.textFrom_filterSegments hsearch, ← htext, Combinator.token,
      List.append_assoc, List.singleton_append] at hscan
  have hparse : parse (ts ++ .and :: us) = some (.and e f) := by
    rw [BooleanText.parse_and htfactor hufactor.no_or, he, hf]
    rfl
  refine ⟨sought, required, ts ++ .and :: us, .and e f, hsought, hrequired,
    hclosed.yields.tokens_eq, BooleanText.balanced_of_parse hparse, hparse,
    BooleanText.filter_isOperator_of_parse hparse, heatoms.append hfatoms, ?_⟩
  intro σ
  rw [Expr.Holds, heholds, hfholds, heatoms.length_eq]
  simp only [Combinator.Holds, Nat.zero_add]
  refine and_congr_right fun _ ↦ ⟨?_, .inr⟩
  rintro (hnone | hall)
  · simp [hnone]
  · exact hall

/-- Members with a key or a team of some title, and with one of two teams. -/
theorem filter_holds_iff_members :
    ∃ c ts e,
      (ofSchema .members none).filter
        (some (.object [("team_id", .array [.int 1, .int 2])]))
        (some (.object [("id", .int 7), ("team", .object [("title", .string "red")])])) = .ok c ∧
      c.render none = "((\"members\".\"id\"=$1) OR (\"teams\".\"title\" ILIKE $2)) AND " ++
        "(\"members\".\"team_id\" IN ($3, $4))" ∧
      tokens (c.render none).toList = some ts ∧ parse ts = some e ∧
      ∀ σ : Nat → Prop, e.Holds σ 0 ↔ (σ 0 ∨ σ 1) ∧ σ 2 := by
  have h : (ofSchema .members none).filter
      (some (.object [("team_id", .array [.int 1, .int 2])]))
      (some (.object [("id", .int 7), ("team", .object [("title", .string "red")])])) =
    .ok _ := rfl
  obtain ⟨sought, required, ts, e, hsought, hrequired, htokens, _, hparse, _, _, hholds⟩ :=
    filter_holds_iff h 1
  have hsoughtlength : sought.flatten.length = 2 := by
    rw [← Except.ok.inj hsought]
    rfl
  have hrequiredlength : required.flatten.length = 1 := by
    rw [← Except.ok.inj hrequired]
    rfl
  refine ⟨_, ts, e, h, by decide +kernel, htokens, hparse, ?_⟩
  intro σ
  have hsome : (∃ i < 2, σ i) ↔ σ 0 ∨ σ 1 := by
    constructor
    · rintro ⟨i, hi, hσ⟩
      obtain rfl | rfl : i = 0 ∨ i = 1 := by omega
      · exact .inl hσ
      · exact .inr hσ
    · rintro (hσ | hσ)
      · exact ⟨0, by decide, hσ⟩
      · exact ⟨1, by decide, hσ⟩
  have hall : (∀ i < 1, σ (2 + i)) ↔ σ 2 := by
    constructor
    · intro h
      exact h 0 (by decide)
    · intro hσ i hi
      obtain rfl : i = 0 := by omega
      exact hσ
  have htwo : ¬2 = 0 := by decide
  rw [hholds, ← List.length_eq_zero_iff, hsoughtlength, hrequiredlength, hsome, hall,
    or_iff_right htwo]

end JoinPlan

end SchemaSql
