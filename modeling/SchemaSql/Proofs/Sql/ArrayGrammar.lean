import SchemaSql.Proofs.Sql.ArrayText

/-!
# The grammar of array literals

What a reader of array literals accepts, written as a grammar that says nothing of how it reads:
braces around items with a comma between two of them, each of which is a body in quotes or a run
without quotes. The reader passes over whatever stands between a closing quote and the next comma.
The grammar records these texts beside the elements, and a literal is a text in which they are all
blank.
-/

namespace SchemaSql.ArrayLiteral

open Text (AllBlank)

/-! ## The grammar -/

/-- The body of a quoted item, and the text that it stands for. -/
inductive Body : List Char → List Char → Prop where
  | nil : Body [] []
  | plain {c : Char} {cs s : List Char} (quote : c ≠ '"') (backslash : c ≠ '\\')
      (rest : Body cs s) : Body (c :: cs) (c :: s)
  | escaped {cs s : List Char} (c : Char) (rest : Body cs s) : Body ('\\' :: c :: cs) (c :: s)

/-- A run without quotes, from its first character that is no blank to its last one. -/
structure IsRun (run : List Char) : Prop where
  comma : ',' ∉ run
  quote : run.head? ≠ some '"'
  head : ∀ c ∈ run.head?, Text.isBlank c = false
  last : ∀ c ∈ run.getLast?, Text.isBlank c = false

/-- An item between commas, the element that it stands for, and what is left behind its closing
quote if it has one. -/
inductive Item : List Char → Option String → List (List Char) → Prop where
  | quoted {before body s tail : List Char} (blank : AllBlank before) (body_text : Body body s)
      (comma : ',' ∉ tail) :
      Item (before ++ '"' :: (body ++ '"' :: tail)) (some (.ofList s)) [tail]
  | absent {before run after : List Char} (blank : AllBlank before) (isRun : IsRun run)
      (blank_after : AllBlank after) (word : Text.sameLetters run "NULL".toList = true) :
      Item (before ++ (run ++ after)) none []
  | bare {before run after : List Char} (blank : AllBlank before) (isRun : IsRun run)
      (blank_after : AllBlank after) (word : Text.sameLetters run "NULL".toList = false) :
      Item (before ++ (run ++ after)) (some (.ofList run)) []

/-- Items with a comma between two of them, their elements, and what is left behind closing
quotes. -/
inductive Items : List Char → List (Option String) → List (List Char) → Prop where
  | one {item : List Char} {e : Option String} {ts : List (List Char)} (only : Item item e ts) :
      Items item [e] ts
  | cons {item cs : List Char} {e : Option String} {es : List (Option String)}
      {ts us : List (List Char)} (first : Item item e ts) (rest : Items cs es us) :
      Items (item ++ ',' :: cs) (e :: es) (ts ++ us)

/-- Braces around nothing but blanks, or around items. -/
inductive Inner : List Char → List (Option String) → List (List Char) → Prop where
  | empty {cs : List Char} (blank : AllBlank cs) : Inner cs [] []
  | items {cs : List Char} {es : List (Option String)} {ts : List (List Char)}
      (given : ¬AllBlank cs) (items : Items cs es ts) : Inner cs es ts

/-- A text that spells elements between braces, with other texts behind closing quotes. -/
def Spells (text : String) (es : List (Option String)) (ts : List (List Char)) : Prop :=
  ∃ before inner after, AllBlank before ∧ AllBlank after ∧
    text.toList = before ++ (opening :: (inner ++ [closing]) ++ after) ∧ Inner inner es ts

/-- A literal of elements: nothing but blanks is left behind closing quotes. -/
def IsLiteral (text : String) (es : List (Option String)) : Prop :=
  ∃ ts, Spells text es ts ∧ ∀ t ∈ ts, AllBlank t

/-! ## Items are read -/

theorem readQuoted_body {body s : List Char} (h : Body body s) (rest : List Char) :
    readQuoted (body ++ '"' :: rest) = some (s, rest) := by
  induction h with
  | nil => rfl
  | plain quote backslash _ ih => simp [readQuoted, backslash, ih]
  | escaped c _ ih => simp [readQuoted, ih]

theorem exists_body {cs s r : List Char} (h : readQuoted cs = some (s, r)) :
    ∃ body, cs = body ++ '"' :: r ∧ Body body s := by
  fun_induction readQuoted cs generalizing s with
  | case1 => cases h
  | case2 cs =>
    obtain ⟨rfl, rfl⟩ := Prod.mk.inj (Option.some.inj h)
    exact ⟨[], rfl, .nil⟩
  | case3 c cs ih =>
    obtain ⟨⟨t, u⟩, ht, heq⟩ := Option.map_eq_some_iff.1 h
    obtain ⟨rfl, rfl⟩ := Prod.mk.inj heq
    obtain ⟨body, rfl, hbody⟩ := ih ht
    exact ⟨'\\' :: c :: body, rfl, .escaped c hbody⟩
  | case4 => cases h
  | case5 c cs hquote hescape hback ih =>
    obtain ⟨⟨t, u⟩, ht, heq⟩ := Option.map_eq_some_iff.1 h
    obtain ⟨rfl, rfl⟩ := Prod.mk.inj heq
    obtain ⟨body, rfl, hbody⟩ := ih ht
    exact ⟨c :: body, rfl, .plain hquote hback hbody⟩

theorem isComma_of_isBlank {c : Char} (h : Text.isBlank c = true) : isComma c = false := by
  apply beq_eq_false_iff_ne.2
  rintro rfl
  exact absurd h (by decide)

theorem isComma_of_not_mem {cs : List Char} (h : ',' ∉ cs) : ∀ c ∈ cs, isComma c = false :=
  fun _ hc ↦ beq_eq_false_iff_ne.2 fun hcomma ↦ h (hcomma ▸ hc)

theorem Ends.not_blank {rest : List Char} (h : Ends rest) :
    ∀ c ∈ rest.head?, Text.isBlank c = false := by
  intro c hc
  obtain rfl : c = ',' := by simpa [isComma] using h c hc
  decide

theorem trimStart_quoted {before : List Char} (hbefore : AllBlank before)
    (body tail rest : List Char) :
    Text.trimStart (before ++ '"' :: (body ++ '"' :: tail) ++ rest) =
      '"' :: (body ++ '"' :: (tail ++ rest)) := by
  have hquote : ∀ c ∈ ('"' :: (body ++ '"' :: (tail ++ rest))).head?, Text.isBlank c = false := by
    rintro c ⟨⟩
    decide
  rw [← Text.trimStart_append hbefore hquote]
  simp

section

variable {before run after rest : List Char}

/-- The blanks before a run are passed over, and those behind an empty run as well; in no case is
what is left taken for a quoted item. -/
theorem trimStart_run (hbefore : AllBlank before) (hrun : IsRun run) (hafter : AllBlank after)
    (hrest : Ends rest) :
    ∃ blanks, AllBlank blanks ∧
      Text.trimStart (before ++ (run ++ after) ++ rest) = run ++ blanks ++ rest ∧
      (run ++ blanks ++ rest).head? ≠ some '"' := by
  cases run with
  | nil =>
    refine ⟨[], List.forall_mem_nil _, ?_, ?_⟩
    · have hblank : AllBlank (before ++ ([] ++ after)) := List.forall_mem_append.2 ⟨hbefore, hafter⟩
      exact Text.trimStart_append hblank hrest.not_blank
    · intro hquote
      exact absurd (hrest '"' hquote) (by decide)
  | cons c cs =>
    refine ⟨after, hafter, ?_, hrun.quote⟩
    rw [List.append_assoc]
    exact Text.trimStart_append hbefore hrun.head

/-- A run is read as the element that it stands for. -/
theorem readElement_isRun (hbefore : AllBlank before) (hrun : IsRun run) (hafter : AllBlank after)
    (hrest : Ends rest) :
    readElement (before ++ (run ++ after) ++ rest) = some (bareElement run, rest) := by
  obtain ⟨blanks, hblanks, hstart, hquote⟩ := trimStart_run hbefore hrun hafter hrest
  have hcomma : ∀ c ∈ run ++ blanks, isComma c = false := by
    intro c hc
    rcases List.mem_append.1 hc with hc | hc
    · exact isComma_of_not_mem hrun.comma c hc
    · exact isComma_of_isBlank (hblanks c hc)
  rw [readElement, hstart]
  split
  · rename_i body heq
    exact absurd (congrArg List.head? heq) hquote
  · rw [beforeComma_append hcomma hrest, fromComma_append hcomma hrest,
      Text.trimEnd_append hrun.last hblanks]

end

/-- An item is read up to its end, whatever is left behind a closing quote. -/
theorem readElement_item {item rest : List Char} {e : Option String} {ts : List (List Char)}
    (h : Item item e ts) (hrest : Ends rest) : readElement (item ++ rest) = some (e, rest) := by
  cases h with
  | quoted blank body_text comma =>
    rw [readElement, trimStart_quoted blank]
    simp only [readQuoted_body body_text, Option.map_some,
      fromComma_append (isComma_of_not_mem comma) hrest]
  | absent blank isRun blank_after word =>
    rw [readElement_isRun blank isRun blank_after hrest, bareElement, absentWord, if_pos word]
  | bare blank isRun blank_after word =>
    rw [readElement_isRun blank isRun blank_after hrest, bareElement, absentWord,
      if_neg (Bool.not_eq_true _ ▸ word)]

theorem readElements_items {cs : List Char} {es : List (Option String)} {ts : List (List Char)}
    (h : Items cs es ts) : readElements cs = some es := by
  induction h with
  | one only =>
    have hread := readElement_item only ends_nil
    rw [List.append_nil] at hread
    rw [readElements, hread]
  | cons first _ ih =>
    rw [readElements, readElement_item first (ends_comma _)]
    simp only [ih, Option.map_some]

/-! ## What is read consists of items -/

theorem ends_fromComma (cs : List Char) : Ends (fromComma cs) := by
  intro c hc
  have hnot := List.head?_dropWhile_not (fun c ↦ !isComma c) cs
  rw [← fromComma, Option.mem_def.1 hc] at hnot
  simpa using hnot

theorem comma_not_mem_beforeComma (cs : List Char) : ',' ∉ beforeComma cs := by
  intro hmem
  have hnot := List.mem_takeWhile_imp hmem
  exact absurd hnot (by decide)

theorem beforeComma_append_fromComma (cs : List Char) : beforeComma cs ++ fromComma cs = cs :=
  List.takeWhile_append_dropWhile

/-- What is read as an element is an item up to a comma or the end. -/
theorem exists_item {cs rest : List Char} {e : Option String}
    (h : readElement cs = some (e, rest)) :
    ∃ item ts, cs = item ++ rest ∧ Item item e ts ∧ Ends rest := by
  obtain ⟨before, hbefore, hcs, hhead⟩ := Text.exists_trimStart cs
  unfold readElement at h
  split at h
  · rename_i body heq
    obtain ⟨⟨s, r⟩, hr, hpair⟩ := Option.map_eq_some_iff.1 h
    obtain ⟨rfl, rfl⟩ := Prod.mk.inj hpair
    obtain ⟨text, rfl, htext⟩ := exists_body hr
    refine ⟨before ++ '"' :: (text ++ '"' :: beforeComma r), [beforeComma r], ?_,
      .quoted hbefore htext (comma_not_mem_beforeComma r), ends_fromComma r⟩
    rw [hcs, heq]
    simp [beforeComma_append_fromComma]
  · rename_i hquote
    generalize Text.trimStart cs = start at h hcs hhead hquote
    obtain ⟨rfl, rfl⟩ := Prod.mk.inj (Option.some.inj h)
    obtain ⟨after, hafter, hend, hlast⟩ := Text.exists_trimEnd (beforeComma start)
    generalize Text.trimEnd (beforeComma start) = run at hend hlast
    have hstart : start = run ++ (after ++ fromComma start) := by
      rw [← List.append_assoc, ← hend, beforeComma_append_fromComma]
    have hrun : IsRun run := by
      refine ⟨?_, ?_, ?_, hlast⟩
      · intro hmem
        exact comma_not_mem_beforeComma start (hend ▸ List.mem_append_left after hmem)
      · intro hfirst
        obtain ⟨tail, rfl⟩ := List.head?_eq_some_iff.1 hfirst
        exact hquote _ hstart
      · intro c hc
        obtain ⟨tail, rfl⟩ := List.head?_eq_some_iff.1 hc
        exact hhead c (by rw [hstart]; rfl)
    have hsplit : cs = before ++ (run ++ after) ++ fromComma start := by
      rw [hcs, List.append_assoc, List.append_assoc, ← hstart]
    unfold bareElement
    split
    · rename_i hword
      exact ⟨_, [], hsplit, .absent hbefore hrun hafter hword, ends_fromComma start⟩
    · rename_i hword
      rw [Bool.not_eq_true] at hword
      exact ⟨_, [], hsplit, .bare hbefore hrun hafter hword, ends_fromComma start⟩

theorem exists_items {cs : List Char} {es : List (Option String)}
    (h : readElements cs = some es) : ∃ ts, Items cs es ts := by
  fun_induction readElements cs generalizing es with
  | case1 => cases h
  | case2 cs e hread =>
    obtain ⟨item, ts, hcs, hitem, _⟩ := exists_item hread
    obtain rfl := Option.some.inj h
    rw [List.append_nil] at hcs
    exact ⟨ts, .one (hcs ▸ hitem)⟩
  | case3 cs e c rest hread ih =>
    obtain ⟨item, ts, rfl, hitem, hends⟩ := exists_item hread
    obtain rfl : c = ',' := by simpa [isComma] using hends c rfl
    obtain ⟨fs, hfs, rfl⟩ := Option.map_eq_some_iff.1 h
    obtain ⟨us, hitems⟩ := ih hfs
    exact ⟨ts ++ us, .cons hitem hitems⟩

/-! ## What is left behind quotes -/

/-- What stands between the closing quote of the first item and the comma behind it. -/
def behindQuote (cs : List Char) : List (List Char) :=
  match Text.trimStart cs with
  | '"' :: body => ((readQuoted body).map fun (_, r) ↦ beforeComma r).toList
  | _ => []

theorem behindQuote_isRun {before run after rest : List Char} (hbefore : AllBlank before)
    (hrun : IsRun run) (hafter : AllBlank after) (hrest : Ends rest) :
    behindQuote (before ++ (run ++ after) ++ rest) = [] := by
  obtain ⟨blanks, _, hstart, hquote⟩ := trimStart_run hbefore hrun hafter hrest
  rw [behindQuote, hstart]
  split
  · rename_i body heq
    exact absurd (congrArg List.head? heq) hquote
  · rfl

theorem Item.behindQuote_eq {item rest : List Char} {e : Option String} {ts : List (List Char)}
    (h : Item item e ts) (hrest : Ends rest) : behindQuote (item ++ rest) = ts := by
  cases h with
  | quoted blank body_text comma =>
    rw [behindQuote, trimStart_quoted blank]
    simp only [readQuoted_body body_text, Option.map_some, Option.toList_some,
      beforeComma_append (isComma_of_not_mem comma) hrest]
  | absent blank isRun blank_after _ => exact behindQuote_isRun blank isRun blank_after hrest
  | bare blank isRun blank_after _ => exact behindQuote_isRun blank isRun blank_after hrest

/-- A text is made of items in one way only. -/
theorem Items.unique {cs : List Char} {es es' : List (Option String)} {ts ts' : List (List Char)}
    (h : Items cs es ts) (h' : Items cs es' ts') : es = es' ∧ ts = ts' := by
  refine ⟨Option.some.inj ((readElements_items h).symm.trans (readElements_items h')), ?_⟩
  induction h generalizing es' ts' with
  | one only =>
    have hread := readElement_item only ends_nil
    have hbehind := only.behindQuote_eq ends_nil
    rw [List.append_nil] at hread hbehind
    cases h' with
    | one only' =>
      have hbehind' := only'.behindQuote_eq ends_nil
      rw [List.append_nil] at hbehind'
      exact hbehind.symm.trans hbehind'
    | cons first' _ => cases hread.symm.trans (readElement_item first' (ends_comma _))
  | @cons item cs _ _ _ _ first _ ih =>
    have hread := readElement_item first (ends_comma cs)
    have hbehind := first.behindQuote_eq (ends_comma cs)
    generalize item ++ ',' :: cs = text at h' hread hbehind
    cases h' with
    | one only' =>
      have hread' := readElement_item only' ends_nil
      rw [List.append_nil] at hread'
      cases hread.symm.trans hread'
    | cons first' rest' =>
      have hpair := hread.symm.trans (readElement_item first' (ends_comma _))
      obtain ⟨_, hrest⟩ := Prod.mk.inj (Option.some.inj hpair)
      obtain ⟨_, rfl⟩ := List.cons.inj hrest
      rw [← hbehind, first'.behindQuote_eq (ends_comma _), ih rest']

/-! ## Literals -/

/-- What stands between the braces of a text, blanks around them aside. -/
theorem inner?_eq_some_iff {text : String} {inner : List Char} :
    inner? text = some inner ↔
      ∃ before after, AllBlank before ∧ AllBlank after ∧
        text.toList = before ++ (opening :: (inner ++ [closing]) ++ after) := by
  constructor
  · intro h
    obtain ⟨before, hbefore, hstart, _⟩ := Text.exists_trimStart text.toList
    obtain ⟨after, hafter, hend, _⟩ := Text.exists_trimEnd (Text.trimStart text.toList)
    have hboth : Text.trimBoth text.toList = opening :: (inner ++ [closing]) := by
      unfold inner? at h
      split at h
      · cases h
      · rename_i c cs heq
        split at h
        · rename_i hbraces
          obtain ⟨rfl, hlast⟩ : c = opening ∧ cs.getLast? = some closing := by simpa using hbraces
          obtain rfl := Option.some.inj h
          obtain ⟨init, rfl⟩ := List.getLast?_eq_some_iff.1 hlast
          rw [heq, List.dropLast_concat]
        · cases h
    refine ⟨before, after, hbefore, hafter, ?_⟩
    rw [← hboth, Text.trimBoth, ← hend, ← hstart]
  · rintro ⟨before, after, hbefore, hafter, htext⟩
    have hlast : ∀ c ∈ (opening :: (inner ++ [closing])).getLast?, Text.isBlank c = false := by
      rw [← List.cons_append, List.getLast?_concat]
      rintro c ⟨⟩
      decide
    have hhead : ∀ c ∈ (opening :: (inner ++ [closing])).head?, Text.isBlank c = false := by
      rintro c ⟨⟩
      decide
    rw [inner?, htext, Text.trimBoth_append hbefore (by simp) hhead hlast hafter]
    simp

theorem read?_eq_some_iff_inner {text : String} {es : List (Option String)} :
    read? text = some es ↔ ∃ inner ts, inner? text = some inner ∧ Inner inner es ts := by
  have hread : read? text = some es ↔ ∃ inner, inner? text = some inner ∧
      (if (Text.trimBoth inner).isEmpty then some [] else readElements inner) = some es :=
    Option.bind_eq_some_iff
  rw [hread]
  refine exists_congr fun inner ↦ ?_
  rw [exists_and_left]
  refine and_congr_right fun _ ↦ ?_
  by_cases hblank : AllBlank inner
  · rw [if_pos (by simpa [Text.trimBoth_eq_nil_iff] using hblank)]
    constructor
    · rintro ⟨⟩
      exact ⟨[], .empty hblank⟩
    · rintro ⟨ts, h⟩
      cases h with
      | empty _ => rfl
      | items given _ => exact absurd hblank given
  · rw [if_neg (by simpa [Text.trimBoth_eq_nil_iff] using hblank)]
    constructor
    · intro h
      obtain ⟨ts, hitems⟩ := exists_items h
      exact ⟨ts, .items hblank hitems⟩
    · rintro ⟨ts, h⟩
      cases h with
      | empty blank => exact absurd blank hblank
      | items _ items => exact readElements_items items

theorem read?_eq_some_iff {text : String} {es : List (Option String)} :
    read? text = some es ↔ ∃ ts, Spells text es ts := by
  rw [read?_eq_some_iff_inner]
  constructor
  · rintro ⟨inner, ts, hinner, h⟩
    obtain ⟨before, after, hbefore, hafter, htext⟩ := inner?_eq_some_iff.1 hinner
    exact ⟨ts, before, inner, after, hbefore, hafter, htext, h⟩
  · rintro ⟨ts, before, inner, after, hbefore, hafter, htext, h⟩
    exact ⟨inner, ts, inner?_eq_some_iff.2 ⟨before, after, hbefore, hafter, htext⟩, h⟩

/-- A text spells one list of elements, with the same texts behind closing quotes. -/
theorem Spells.unique {text : String} {es es' : List (Option String)} {ts ts' : List (List Char)}
    (h : Spells text es ts) (h' : Spells text es' ts') : es = es' ∧ ts = ts' := by
  obtain ⟨before, inner, after, hbefore, hafter, htext, h⟩ := h
  obtain ⟨before', inner', after', hbefore', hafter', htext', h'⟩ := h'
  have hinner := inner?_eq_some_iff.2 ⟨before, after, hbefore, hafter, htext⟩
  rw [inner?_eq_some_iff.2 ⟨before', after', hbefore', hafter', htext'⟩] at hinner
  obtain rfl := Option.some.inj hinner
  cases h with
  | empty blank =>
    cases h' with
    | empty _ => exact ⟨rfl, rfl⟩
    | items given _ => exact absurd blank given
  | items given items =>
    cases h' with
    | empty blank => exact absurd blank given
    | items _ items' => exact items.unique items'

/-- A text is read as elements exactly if it spells them, whatever is left behind closing quotes. So
every literal is read as its elements; and it is the literals that are read, of a text, exactly if
nothing but blanks is left behind its closing quotes. -/
theorem reads_exactly_spelled (text : String) :
    (∀ es, read? text = some es ↔ ∃ ts, Spells text es ts) ∧
      (∀ es, IsLiteral text es → read? text = some es) ∧
      ((∀ es, read? text = some es ↔ IsLiteral text es) ↔
        ∀ es ts, Spells text es ts → ∀ t ∈ ts, AllBlank t) := by
  have hliteral : ∀ es, IsLiteral text es → read? text = some es := by
    rintro es ⟨ts, hspells, _⟩
    exact read?_eq_some_iff.2 ⟨ts, hspells⟩
  refine ⟨fun es ↦ read?_eq_some_iff, hliteral, ?_⟩
  constructor
  · intro hlaw es ts hspells
    obtain ⟨ts', hspells', hblank⟩ := (hlaw es).1 (read?_eq_some_iff.2 ⟨ts, hspells⟩)
    rw [(hspells.unique hspells').2]
    exact hblank
  · intro hblank es
    refine ⟨fun hread ↦ ?_, hliteral es⟩
    obtain ⟨ts, hspells⟩ := read?_eq_some_iff.1 hread
    exact ⟨ts, hspells, hblank es ts hspells⟩

/-- Elements with and without quotes and an absent one, blanks between them. -/
theorem reads_exactly_spelled_blanks :
    IsLiteral " \x7b\"a,b\" , null,x\x7d" [some "a,b", none, some "x"] ∧
      read? " \x7b\"a,b\" , null,x\x7d" = some [some "a,b", none, some "x"] := by
  have hquoted : Item "\"a,b\" ".toList (some "a,b") [[' ']] :=
    .quoted (List.forall_mem_nil _)
      (.plain (by decide) (by decide) (.plain (by decide) (by decide)
        (.plain (by decide) (by decide) .nil))) (by decide)
  have habsent : Item ([' '] ++ ("null".toList ++ [])) none [] :=
    .absent (by decide) ⟨by decide, by decide, by rintro c ⟨⟩; decide, by rintro c ⟨⟩; decide⟩
      (by decide) (by decide)
  have hbare : Item ([] ++ (['x'] ++ [])) (some "x") [] :=
    .bare (by decide) ⟨by decide, by decide, by rintro c ⟨⟩; decide, by rintro c ⟨⟩; decide⟩
      (by decide) (by decide)
  have hgiven : ¬AllBlank "\"a,b\" , null,x".toList :=
    fun h ↦ absurd (h 'a' (by decide)) (by decide)
  have hliteral : IsLiteral " \x7b\"a,b\" , null,x\x7d" [some "a,b", none, some "x"] :=
    ⟨[[' ']], ⟨[' '], _, [], by decide, by decide, rfl,
      .items hgiven (.cons hquoted (.cons habsent (.one hbare)))⟩,
      List.forall_mem_singleton.2 (by decide)⟩
  exact ⟨hliteral, (reads_exactly_spelled _).2.1 _ hliteral⟩

/-- A letter behind a closing quote is dropped. -/
theorem letter_behind_quote_dropped :
    read? "\x7b\"a\"b\x7d" = some [some "a"] ∧ ∀ es, ¬IsLiteral "\x7b\"a\"b\x7d" es := by
  have hitem : Item "\"a\"b".toList (some "a") [['b']] :=
    .quoted (List.forall_mem_nil _) (.plain (by decide) (by decide) .nil) (by decide)
  have hgiven : ¬AllBlank "\"a\"b".toList := fun h ↦ absurd (h 'a' (by decide)) (by decide)
  have hspells : Spells "\x7b\"a\"b\x7d" [some "a"] [['b']] :=
    ⟨[], _, [], List.forall_mem_nil _, List.forall_mem_nil _, rfl, .items hgiven (.one hitem)⟩
  refine ⟨read?_eq_some_iff.2 ⟨_, hspells⟩, ?_⟩
  rintro es ⟨ts, hspells', hblank⟩
  rw [← (hspells.unique hspells').2] at hblank
  exact absurd (hblank ['b'] (by simp) 'b' (by simp)) (by decide)

end SchemaSql.ArrayLiteral
