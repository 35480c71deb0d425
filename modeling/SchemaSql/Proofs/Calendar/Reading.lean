import SchemaSql.Proofs.Calendar.Days
import SchemaSql.Proofs.Calendar.WrittenParts

/-!
# Reading moments back

The text of a day is read as its midnight, and the text of a moment as the moment. Several layouts
are tried before the one that fits, and each of them stumbles: over a mark that is not there, over
an offset that was not written, or over the sign of a year where it wants four digits.
-/

namespace SchemaSql

namespace Layout

/-! ## Dates and times -/

section

variable (p : Parts) (items : List Item)

/-- A layout that begins with the year takes the day. -/
theorem readItems_yearFirst (d : Date) (rest : List Char) :
    readItems p (yearFirst '-' ++ items) (d.write ++ rest) =
      readItems { p with year := d.year, month := d.month, day := d.day } items rest := by
  have hyear := readYear_writeYear d.year (noDigit_cons (c := '-') rfl
    (Date.padded 2 d.month ++ '-' :: (Date.padded 2 d.day ++ rest)))
  simp only [yearFirst, Date.write, List.cons_append, List.nil_append, List.append_assoc,
    readItems, Item.read, hyear, readPair_padded d.month_lt, readPair_padded d.day_lt,
    Option.map_some, Option.bind_eq_bind, Option.bind_some, if_pos]

theorem readItems_toSecond (t : ClockTime) {rest : List Char} (h : EndsSeconds rest) :
    readItems p (toSecond ++ items) (t.write ++ rest) =
      readItems { p with hour := t.hour, minute := t.minute, second := t.second, nano := t.nano }
        items rest := by
  obtain ⟨⟨hhour, hminute⟩, hsecond, hnano⟩ := t.real
  simp only [toSecond, toMinute, ClockTime.write, List.cons_append, List.nil_append,
    List.append_assoc, readItems, Item.read, readPair_padded (Nat.lt_trans hhour (by decide)),
    readPair_padded (Nat.lt_trans hminute (by decide)),
    readPair_padded (Nat.lt_of_le_of_lt hsecond (by decide)), readFraction_writeFraction hnano h,
    Option.map_some, Option.bind_eq_bind, Option.bind_some, if_pos]

end

theorem endsSeconds_writeOffset (ahead : Int) : EndsSeconds (Moment.writeOffset ahead) := by
  intro c hc
  rw [Moment.writeOffset] at hc
  obtain rfl := Option.some.inj hc
  split <;> decide

theorem trimStart_writeOffset (ahead : Int) :
    Text.trimStart (Moment.writeOffset ahead) = Moment.writeOffset ahead := by
  rw [Moment.writeOffset]
  split
  · exact Text.trimStart_cons (by decide) _
  · exact Text.trimStart_cons (by decide) _

end Layout

namespace Moment

/-- The offset of a moment stands at its end, if there is one. -/
theorem write_eq (m : Moment) :
    m.write = m.date.write ++ ' ' :: (m.time.write ++ m.ahead.elim [] writeOffset) := by
  rw [write]
  cases m.ahead with
  | none => rfl
  | some ahead => rfl

/-! ## Moments that are read -/

/-- What reading a moment makes sure of: a clock whose offset is known is less than a day from
universal time, and shows a day that is dated there too. -/
def Placed (m : Moment) : Prop :=
  ∀ ahead ∈ m.ahead, ofClock? m.date m.time ahead = some m

theorem placed_of_none {m : Moment} (h : m.ahead = none) : m.Placed := by
  simp [Placed, h]

theorem eq_of_ofClock? {date : Date} {time : ClockTime} {ahead : Int} {m : Moment}
    (h : ofClock? date time ahead = some m) : m = ⟨date, time, some ahead⟩ := by
  unfold ofClock? at h
  split at h
  · exact (Option.some.inj h).symm
  · cases h

theorem Placed.ahead_lt {m : Moment} (h : m.Placed) {ahead : Int} (hahead : m.ahead = some ahead) :
    ahead.natAbs < 1440 := by
  have hclock := h ahead hahead
  unfold ofClock? at hclock
  split at hclock
  · rename_i hdated
    exact of_decide_eq_true (Bool.and_eq_true_iff.1 hdated).1
  · cases hclock

/-- The parts of a moment make this moment. -/
theorem moment?_parts {m : Moment} (h : m.Placed) :
    Layout.Parts.moment? ⟨m.date.year, m.date.month, m.date.day, m.time.hour, m.time.minute,
      m.time.second, m.time.nano, m.ahead⟩ = some m := by
  obtain ⟨date, time, ahead⟩ := m
  have hdate : Date.ofCivil? date.year date.month date.day = some date := dif_pos date.real
  have htime : ClockTime.ofClock? time.hour time.minute time.second time.nano = some time :=
    dif_pos time.real
  rw [Layout.Parts.moment?, hdate, htime]
  cases ahead with
  | none => rfl
  | some ahead => exact h ahead rfl

theorem placed_of_moment? {p : Layout.Parts} {m : Moment} (h : p.moment? = some m) :
    m.Placed := by
  obtain ⟨date, _, h⟩ := Option.bind_eq_some_iff.1 h
  obtain ⟨time, _, h⟩ := Option.bind_eq_some_iff.1 h
  intro ahead hahead
  split at h
  · obtain rfl := Option.some.inj h
    cases hahead
  · have hm := eq_of_ofClock? h
    subst hm
    obtain rfl := Option.some.inj hahead
    exact h

theorem placed_of_readStrict? {cs : List Char} {m : Moment} (h : Layout.readStrict? cs = some m) :
    m.Placed := by
  unfold Layout.readStrict? at h
  obtain ⟨⟨year, _⟩, _, h⟩ := Option.bind_eq_some_iff.1 h
  obtain ⟨⟨month, _⟩, _, h⟩ := Option.bind_eq_some_iff.1 h
  obtain ⟨⟨day, _⟩, _, h⟩ := Option.bind_eq_some_iff.1 h
  obtain ⟨⟨hour, _⟩, _, h⟩ := Option.bind_eq_some_iff.1 h
  obtain ⟨⟨minute, _⟩, _, h⟩ := Option.bind_eq_some_iff.1 h
  obtain ⟨⟨second, _⟩, _, h⟩ := Option.bind_eq_some_iff.1 h
  obtain ⟨⟨nano, _⟩, _, h⟩ := Option.bind_eq_some_iff.1 h
  obtain ⟨⟨ahead, _⟩, _, h⟩ := Option.bind_eq_some_iff.1 h
  dsimp only at h
  split at h
  · exact placed_of_moment? h
  · cases h

theorem placed_of_read? {text : String} {m : Moment} (h : Moment.read? text = some m) :
    m.Placed := by
  unfold Moment.read? at h
  dsimp only at h
  split at h
  · cases h
  · rcases Option.or_eq_some_iff.1 h with hstrict | ⟨_, hloose⟩
    · exact placed_of_readStrict? hstrict
    · obtain ⟨items, _, hitems⟩ := List.exists_of_findSome?_eq_some hloose
      unfold Layout.read? at hitems
      split at hitems
      · exact placed_of_moment? hitems
      · cases hitems

end Moment

namespace Layout

/-! ## Loose layouts -/

theorem trimStart_time (t : ClockTime) (rest : List Char) :
    Text.trimStart (' ' :: (t.write ++ rest)) = t.write ++ rest := by
  have hstart : Text.trimStart (t.write ++ rest) = t.write ++ rest := by
    rw [ClockTime.write, List.append_assoc, trimStart_padded]
  calc
    Text.trimStart (' ' :: (t.write ++ rest)) = Text.trimStart (t.write ++ rest) := rfl
    _ = t.write ++ rest := hstart

/-- A layout with a blank between the date and the time takes both. -/
theorem readItems_blank (items : List Item) (d : Date) (t : ClockTime) {rest : List Char}
    (h : EndsSeconds rest) :
    readItems {} (yearFirst '-' ++ .blanks :: (toSecond ++ items))
        (d.write ++ ' ' :: (t.write ++ rest)) =
      readItems ⟨d.year, d.month, d.day, t.hour, t.minute, t.second, t.nano, none⟩ items rest := by
  rw [readItems_yearFirst, readItems, Item.read, trimStart_time, Option.bind_eq_bind,
    Option.bind_some]
  exact readItems_toSecond _ items t h

/-- A layout that wants a `T` between them does not fit. -/
theorem readItems_mark (p : Parts) (items : List Item) (d : Date) (rest : List Char) :
    readItems p (yearFirst '-' ++ .mark 'T' :: items) (d.write ++ ' ' :: rest) = none := by
  rw [readItems_yearFirst]
  rfl

/-- A moment without an offset is the first that the third layout takes. -/
theorem loose_local (m : Moment) (h : m.ahead = none) :
    looseLayouts.findSome? (fun items ↦ read? items m.write) = some m := by
  have hwrite : m.write = m.date.write ++ ' ' :: (m.time.write ++ []) := by
    rw [Moment.write_eq, h]
    rfl
  have hparts := Moment.moment?_parts (Moment.placed_of_none h)
  rw [h] at hparts
  have hoffset : read? (yearFirst '-' ++ .blanks :: toSecond ++ [.offset]) m.write = none := by
    rw [hwrite, List.append_assoc, List.cons_append, read?, readItems_blank _ _ _ endsSeconds_nil]
    rfl
  have hmark : read? (yearFirst '-' ++ .mark 'T' :: toSecond ++ [.offset]) m.write = none := by
    rw [hwrite, List.append_assoc, List.cons_append, read?, readItems_mark]
  have hfits : read? (yearFirst '-' ++ .blanks :: toSecond) m.write = some m := by
    have hread := readItems_blank [] m.date m.time endsSeconds_nil
    rw [List.append_nil] at hread
    rw [hwrite, read?, hread]
    exact hparts
  rw [looseLayouts, List.findSome?_cons, hoffset, List.findSome?_cons, hmark, List.findSome?_cons,
    hfits]

/-- A moment with an offset is taken by the first layout. -/
theorem loose_offset {m : Moment} {ahead : Int} (h : m.ahead = some ahead) (hplaced : m.Placed) :
    looseLayouts.findSome? (fun items ↦ read? items m.write) = some m := by
  have hwrite : m.write = m.date.write ++ ' ' :: (m.time.write ++ Moment.writeOffset ahead) := by
    rw [Moment.write_eq, h]
    rfl
  have hparts := Moment.moment?_parts hplaced
  rw [h] at hparts
  have hahead := hplaced.ahead_lt h
  have hoffset : readOffset looseMinutes (Text.trimStart (Moment.writeOffset ahead)) =
      some (ahead, []) := by
    rw [trimStart_writeOffset]
    exact readOffset_writeOffset (fun _ ↦ looseMinutes_padded) (by omega)
  have hfits : read? (yearFirst '-' ++ .blanks :: toSecond ++ [.offset]) m.write = some m := by
    rw [hwrite, List.append_assoc, List.cons_append, read?,
      readItems_blank _ _ _ (endsSeconds_writeOffset ahead), readItems, Item.read, hoffset]
    exact hparts
  rw [looseLayouts, List.findSome?_cons, hfits]

theorem loose_write {m : Moment} (h : m.Placed) :
    looseLayouts.findSome? (fun items ↦ read? items m.write) = some m := by
  cases hahead : m.ahead with
  | none => exact loose_local m hahead
  | some ahead => exact loose_offset hahead h

/-! ### Days -/

theorem readItems_slash (p : Parts) (items : List Item) (d : Date) :
    readItems p (yearFirst '/' ++ items) d.write = none := by
  have hyear := readYear_writeYear d.year (noDigit_cons (c := '-') rfl
    (Date.padded 2 d.month ++ '-' :: Date.padded 2 d.day))
  rw [Date.write, yearFirst, List.cons_append, readItems, Item.read, hyear]
  rfl

/-- Where a number of two digits is taken from the front of a year, another digit stands behind
it. -/
theorem readPair_writeYear (year : Int) (rest : List Char) {n : Nat} {r : List Char}
    (hread : readPair (Date.writeYear year ++ rest) = some (n, r)) :
    ∃ c cs, r = c :: cs ∧ c.isDigit = true := by
  have hsign {c : Char} (hdigit : c.isDigit = false) (hblank : Text.isBlank c = false)
      (cs : List Char) : readPair (c :: cs) = none := by
    rw [readPair, Text.trimStart_cons hblank, readUpTo]
    simp [hdigit]
  rcases writeYear_cases year with ⟨_, hwrite⟩ | ⟨_, hwrite⟩ | ⟨hyear, hwrite⟩
  · rw [hwrite, List.cons_append, hsign (c := '-') rfl (by decide)] at hread
    cases hread
  · rw [hwrite, List.cons_append, hsign (c := '+') rfl (by decide)] at hread
    cases hread
  · have hlength : (Date.padded 4 year.natAbs).length = 4 :=
      Date.length_padded (by decide) (show year.natAbs < 10000 by omega)
    have hdigit := Date.isDigit_padded 4 year.natAbs
    obtain ⟨a, b, c, d, hfour⟩ : ∃ a b c d, Date.padded 4 year.natAbs = [a, b, c, d] :=
      List.length_eq_four.1 hlength
    rw [hfour] at hdigit
    have htwo : readUpTo 2 ([a, b] ++ c :: d :: rest) = some (_, c :: d :: rest) :=
      readUpTo_append (fun x hx ↦ hdigit x (List.mem_append_left [c, d] hx)) (by simp) (by simp)
        (.inl rfl)
    rw [hwrite, readPair, trimStart_padded, hfour] at hread
    have hrest := (Prod.mk.inj (Option.some.inj (htwo.symm.trans hread))).2
    exact ⟨c, d :: rest, hrest.symm, hdigit c (by simp)⟩

theorem readItems_dayFirst (p : Parts) (items : List Item) (d : Date) :
    readItems p (dayFirst ++ items) d.write = none := by
  rw [Date.write, dayFirst, List.cons_append, readItems, Item.read]
  cases hread : readPair (Date.writeYear d.year ++
      '-' :: (Date.padded 2 d.month ++ '-' :: Date.padded 2 d.day)) with
  | none => rfl
  | some taken =>
    obtain ⟨n, r⟩ := taken
    obtain ⟨c, cs, rfl, hdigit⟩ := readPair_writeYear _ _ hread
    have hpoint : '.' ≠ c := (Digits.ne_of_isDigit hdigit rfl).symm
    simp [readItems, Item.read, hpoint]

/-- A day is taken by the first layout that ends with it and has its marks. -/
theorem loose_day (d : Date) :
    looseLayouts.findSome? (fun items ↦ read? items d.write) =
      some ⟨d, ClockTime.midnight, none⟩ := by
  have hday (items : List Item) :
      readItems {} (yearFirst '-' ++ items) d.write =
        readItems { year := d.year, month := d.month, day := d.day } items [] := by
    have hread := readItems_yearFirst {} items d []
    rwa [List.append_nil] at hread
  have hblank (items : List Item) :
      read? (yearFirst '-' ++ .blanks :: .hour :: items) d.write = none := by
    rw [read?, hday]
    rfl
  have hmark (items : List Item) : read? (yearFirst '-' ++ .mark 'T' :: items) d.write = none := by
    rw [read?, hday]
    rfl
  have hslash (items : List Item) : read? (yearFirst '/' ++ items) d.write = none := by
    rw [read?, readItems_slash]
  have hpoint (items : List Item) : read? (dayFirst ++ items) d.write = none := by
    rw [read?, readItems_dayFirst]
  have hfits : read? (yearFirst '-') d.write = some ⟨d, ClockTime.midnight, none⟩ := by
    have hread := hday []
    rw [List.append_nil] at hread
    rw [read?, hread]
    exact Moment.moment?_parts (m := ⟨d, ClockTime.midnight, none⟩) (Moment.placed_of_none rfl)
  simp only [looseLayouts, toSecond, toMinute, List.append_assoc, List.cons_append,
    List.nil_append, List.findSome?_cons, hblank, hmark, hslash, hpoint, hfits]

/-! ## The strict layout -/

theorem readMarked_padded (width : Nat) {n : Nat} (isMark : Char → Bool) {c : Char}
    (hwidth : 0 < width) (h : n < tenPow width) (hmark : isMark c = true) (rest : List Char) :
    readMarked width isMark (Date.padded width n ++ c :: rest) = some (n, rest) := by
  rw [readMarked, readExactly_padded width hwidth h]
  exact if_pos hmark

/-- A year with a sign does not fit. -/
theorem readStrict?_of_sign {c : Char} (h : c.isDigit = false) (cs : List Char) :
    readStrict? (c :: cs) = none := by
  have hyear : readMarked 4 (· == '-') (c :: cs) = none := by
    rw [readMarked, readExactly]
    simp [h]
  rw [readStrict?, hyear]
  rfl

section

variable (d : Date)

/-- The year of a day is taken if it has four digits; a sign in its place is not. -/
theorem readMarked_year (rest : List Char) :
    (∃ c cs, d.write ++ rest = c :: cs ∧ c.isDigit = false) ∨
      readMarked 4 (· == '-') (d.write ++ rest) =
        some (d.year.natAbs, Date.padded 2 d.month ++ '-' :: (Date.padded 2 d.day ++ rest)) ∧
      (d.year.natAbs : Int) = d.year := by
  rcases writeYear_cases d.year with ⟨_, hwrite⟩ | ⟨_, hwrite⟩ | ⟨hyear, hwrite⟩
  · rw [Date.write, hwrite]
    exact .inl ⟨'-', _, rfl, rfl⟩
  · rw [Date.write, hwrite]
    exact .inl ⟨'+', _, rfl, rfl⟩
  · have hread := readMarked_padded 4 (· == '-') (c := '-') (by decide)
      (show d.year.natAbs < 10000 by omega) rfl (Date.padded 2 d.month ++ '-' :: (Date.padded 2 d.day ++ rest))
    refine .inr ⟨?_, by omega⟩
    rw [Date.write, hwrite, ← hread]
    simp

theorem readMarked_month (rest : List Char) :
    readMarked 2 (· == '-') (Date.padded 2 d.month ++ '-' :: rest) = some (d.month, rest) :=
  readMarked_padded 2 _ (by decide) d.month_lt rfl rest

/-- A day alone does not fit, for the time that is missing. -/
theorem readStrict?_day : readStrict? d.write = none := by
  have hyear := readMarked_year d []
  rw [List.append_nil, List.append_nil] at hyear
  rcases hyear with ⟨c, cs, hwrite, hsign⟩ | ⟨hyear, _⟩
  · rw [hwrite, readStrict?_of_sign hsign]
  · have hday : readMarked 2 isDateMark (Date.padded 2 d.day) = none := by
      have hread := readExactly_padded 2 (by decide) d.day_lt []
      rw [List.append_nil] at hread
      rw [readMarked, hread]
    simp only [readStrict?, hyear, readMarked_month, hday, Option.bind_eq_bind, Option.bind_some,
      Option.bind_none]

/-- A moment does not fit, for the sign of its year, or does as far as its offset. -/
theorem readStrict?_moment (t : ClockTime) {rest : List Char} (h : EndsSeconds rest) :
    readStrict? (d.write ++ ' ' :: (t.write ++ rest)) = none ∨
      readStrict? (d.write ++ ' ' :: (t.write ++ rest)) =
        (readOffset colonMinutes rest).bind fun (ahead, cs) ↦
          if cs.isEmpty then
            Parts.moment? ⟨d.year, d.month, d.day, t.hour, t.minute, t.second, t.nano, some ahead⟩
          else none := by
  rcases readMarked_year d (' ' :: (t.write ++ rest)) with
    ⟨c, cs, hwrite, hsign⟩ | ⟨hyear, hvalue⟩
  · rw [hwrite]
    exact .inl (readStrict?_of_sign hsign cs)
  · obtain ⟨⟨hhour, hminute⟩, hsecond, hnano⟩ := t.real
    have hday := readMarked_padded 2 isDateMark (c := ' ') (by decide) d.day_lt rfl
      (t.write ++ rest)
    have hhour' := readMarked_padded 2 (n := t.hour) (· == ':') (c := ':') (by decide)
      (Nat.lt_trans hhour (by decide)) rfl
    have hminute' := readMarked_padded 2 (n := t.minute) (· == ':') (c := ':') (by decide)
      (Nat.lt_trans hminute (by decide)) rfl
    have hsecond' := readExactly_padded 2 (n := t.second) (by decide)
      (Nat.lt_of_le_of_lt hsecond (by decide))
    right
    simp only [readStrict?, hyear, readMarked_month, hday, Option.bind_eq_bind, Option.bind_some,
      hvalue]
    simp only [ClockTime.write, List.append_assoc, List.cons_append, hhour', hminute', hsecond',
      readFraction_writeFraction hnano h, Option.bind_some]

end

/-- A moment that fits is read as it was written. -/
theorem readStrict?_write {m : Moment} (h : m.Placed) :
    readStrict? m.write = none ∨ readStrict? m.write = some m := by
  rw [Moment.write_eq]
  cases hahead : m.ahead with
  | none =>
    left
    rcases readStrict?_moment m.date m.time endsSeconds_nil with hnone | hread
    · exact hnone
    · exact hread
  | some ahead =>
    have hlt := h.ahead_lt hahead
    have hparts := Moment.moment?_parts h
    rw [hahead] at hparts
    rcases readStrict?_moment m.date m.time (endsSeconds_writeOffset ahead) with hnone | hread
    · exact .inl hnone
    · right
      rw [readOffset_writeOffset (fun _ ↦ colonMinutes_padded) (by omega)] at hread
      exact hread.trans hparts

end Layout

namespace Moment

/-! ## Texts -/

theorem isBlank_of_mem_padded (width n : Nat) :
    ∀ c ∈ Date.padded width n, Text.isBlank c = false :=
  fun c hc ↦ Text.isBlank_of_isDigit (Date.isDigit_padded width n c hc)

theorem isBlank_of_mem_day (d : Date) : ∀ c ∈ d.write, Text.isBlank c = false := by
  have hyear : ∀ c ∈ Date.writeYear d.year, Text.isBlank c = false := by
    rcases Layout.writeYear_cases d.year with ⟨_, hwrite⟩ | ⟨_, hwrite⟩ | ⟨_, hwrite⟩
    · rw [hwrite, List.forall_mem_cons]
      exact ⟨by decide, isBlank_of_mem_padded 4 _⟩
    · rw [hwrite, List.forall_mem_cons]
      exact ⟨by decide, isBlank_of_mem_padded 4 _⟩
    · rw [hwrite]
      exact isBlank_of_mem_padded 4 _
  simp only [Date.write, List.forall_mem_append, List.forall_mem_cons]
  exact ⟨hyear, by decide, isBlank_of_mem_padded 2 _, by decide, isBlank_of_mem_padded 2 _⟩

theorem isBlank_of_mem_time (t : ClockTime) : ∀ c ∈ t.write, Text.isBlank c = false := by
  have hfraction : ∀ c ∈ ClockTime.writeFraction t.nano, Text.isBlank c = false := by
    have hpoint (width n : Nat) : ∀ c ∈ '.' :: Date.padded width n, Text.isBlank c = false :=
      List.forall_mem_cons.2 ⟨by decide, isBlank_of_mem_padded width n⟩
    unfold ClockTime.writeFraction
    split
    · simp
    · split
      · exact hpoint 3 _
      · split
        · exact hpoint 6 _
        · exact hpoint 9 _
  simp only [ClockTime.write, List.forall_mem_append, List.forall_mem_cons]
  exact ⟨isBlank_of_mem_padded 2 _, by decide, isBlank_of_mem_padded 2 _, by decide,
    isBlank_of_mem_padded 2 _, hfraction⟩

theorem isBlank_of_mem_offset (ahead : Int) :
    ∀ c ∈ writeOffset ahead, Text.isBlank c = false := by
  simp only [writeOffset, List.forall_mem_append, List.forall_mem_cons]
  refine ⟨?_, isBlank_of_mem_padded 2 _, by decide, isBlank_of_mem_padded 2 _⟩
  split <;> decide

theorem exists_day_eq_cons (d : Date) : ∃ c cs, d.write = c :: cs := by
  apply List.exists_cons_of_ne_nil
  simp [Date.write]

/-- A moment has no blanks at its ends. -/
theorem trimBoth_write (m : Moment) : Text.trimBoth m.write = m.write := by
  have hzone : ∀ c ∈ m.ahead.elim [] writeOffset, Text.isBlank c = false := by
    cases m.ahead with
    | none => exact List.forall_mem_nil _
    | some ahead => exact isBlank_of_mem_offset ahead
  have htime := List.forall_mem_append.2 ⟨isBlank_of_mem_time m.time, hzone⟩
  have hsome : m.time.write ≠ [] := by simp [ClockTime.write]
  apply Text.trimBoth_eq_self
  · intro c hc
    obtain ⟨d, ds, hday⟩ := exists_day_eq_cons m.date
    rw [write_eq, hday] at hc
    obtain rfl := Option.some.inj hc
    exact isBlank_of_mem_day m.date d (by simp [hday])
  · intro c hc
    rw [write_eq, List.append_cons, List.getLast?_append_of_ne_nil _ (by simp [hsome])] at hc
    exact htime c (List.mem_of_mem_getLast? hc)

/-- The text of a day is read as its midnight. -/
theorem read?_day (d : Date) :
    Moment.read? (.ofList d.write) = some ⟨d, ClockTime.midnight, none⟩ := by
  have htrim : Text.trimBoth d.write = d.write :=
    Text.trimBoth_of_forall (isBlank_of_mem_day d)
  have hsome : ¬d.write.isEmpty = true := by simp [Date.write]
  rw [Moment.read?, String.toList_ofList, htrim, if_neg hsome, Layout.readStrict?_day,
    Layout.loose_day]
  rfl

/-- The text of a moment is read as the moment. -/
theorem read?_render {m : Moment} (h : m.Placed) : Moment.read? m.render = some m := by
  have hsome : ¬m.write.isEmpty = true := by simp [Moment.write]
  rw [Moment.read?, render, String.toList_ofList, trimBoth_write, if_neg hsome,
    Layout.loose_write h]
  rcases Layout.readStrict?_write h with hnone | hread
  · rw [hnone]
    rfl
  · rw [hread]
    rfl

end Moment

end SchemaSql
