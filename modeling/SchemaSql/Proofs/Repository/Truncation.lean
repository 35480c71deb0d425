import SchemaSql.Repository.Log

/-!
# Texts of statements in the log

A text that is too long for the log is cut, and the place of the cut is found by walking back over
its bytes. Whatever the widths of its characters and wherever the limit falls, what is kept is the
longest part from the front that consists of whole characters and does not exceed the limit.
-/

namespace SchemaSql.LogConfig

variable {sql : String} {bytes : Nat}

/-! ## Walking back over bytes -/

theorem offset_boundaryBefore_le (sql : String) (bytes : Nat) :
    (boundaryBefore sql bytes).offset.byteIdx ≤ bytes := by
  induction bytes with
  | zero => exact Nat.le_refl 0
  | succ bytes ih =>
    rw [boundaryBefore]
    split
    · exact Nat.le_refl (bytes + 1)
    · exact Nat.le_succ_of_le ih

/-- A place between two characters that is not beyond the limit is not passed over. -/
theorem le_offset_boundaryBefore {p : sql.Pos} (h : p.offset.byteIdx ≤ bytes) :
    p.offset.byteIdx ≤ (boundaryBefore sql bytes).offset.byteIdx := by
  induction bytes with
  | zero => exact Nat.le_trans h (Nat.zero_le _)
  | succ bytes ih =>
    rw [boundaryBefore]
    split
    · exact h
    · rename_i hinside
      -- the byte that is left has no such place before it, so that the place lies further back
      have hne : p.offset.byteIdx ≠ bytes + 1 := fun heq ↦ hinside (heq ▸ p.isValid)
      exact ih (by omega)

/-! ## Parts from the front -/

/-- Two parts from the front of a text: the shorter one begins the longer one. -/
theorem exists_append_of_size_le {kept rest other more : String}
    (hsplit : kept ++ rest = other ++ more) (hsize : other.utf8ByteSize ≤ kept.utf8ByteSize) :
    ∃ between, kept = other ++ between := by
  have hlists : kept.toList ++ rest.toList = other.toList ++ more.toList := by
    rw [← String.toList_append, hsplit, String.toList_append]
  rcases List.append_eq_append_iff.1 hlists with ⟨cs, hother, _⟩ | ⟨cs, hkept, _⟩
  · have hother : other = kept ++ .ofList cs := by
      rw [← String.toList_inj, hother, String.toList_append, String.toList_ofList]
    rw [hother, String.utf8ByteSize_append] at hsize
    have hempty : String.ofList cs = "" := String.utf8ByteSize_eq_zero_iff.1 (by omega)
    exact ⟨"", by rw [hother, hempty, String.append_empty, String.append_empty]⟩
  · refine ⟨.ofList cs, ?_⟩
    rw [← String.toList_inj, hkept, String.toList_append, String.toList_ofList]

/-- The longest part from the front of a text that has whole characters and no more than so many
bytes. -/
structure IsLongestWithin (sql : String) (bytes : Nat) (kept : String) : Prop where
  front : ∃ rest, sql = kept ++ rest
  within : kept.utf8ByteSize ≤ bytes
  longest : ∀ other more, sql = other ++ more → other.utf8ByteSize ≤ bytes →
    ∃ between, kept = other ++ between

theorem IsLongestWithin.unique {kept other : String} (h : IsLongestWithin sql bytes kept)
    (h' : IsLongestWithin sql bytes other) : kept = other := by
  obtain ⟨rest, hrest⟩ := h.front
  obtain ⟨more, hmore⟩ := h'.front
  obtain ⟨between, hkept⟩ := h.longest other more hmore h'.within
  obtain ⟨back, hother⟩ := h'.longest kept rest hrest h.within
  have hsizes := congrArg String.utf8ByteSize hkept
  have hsizes' := congrArg String.utf8ByteSize hother
  rw [String.utf8ByteSize_append] at hsizes hsizes'
  have hempty : between = "" := String.utf8ByteSize_eq_zero_iff.1 (by omega)
  rw [hkept, hempty, String.append_empty]

/-- What is cut off at the place that the walk finds leaves the longest part. -/
theorem isLongestWithin_sliceTo (sql : String) (bytes : Nat) :
    IsLongestWithin sql bytes (sql.sliceTo (boundaryBefore sql bytes)).copy := by
  have hsplits := (boundaryBefore sql bytes).splits
  have hsize : (sql.sliceTo (boundaryBefore sql bytes)).copy.utf8ByteSize =
      (boundaryBefore sql bytes).offset.byteIdx := by
    rw [hsplits.offset_eq_rawEndPos, String.byteIdx_rawEndPos]
  refine ⟨⟨_, hsplits.eq_append⟩, hsize ▸ offset_boundaryBefore_le sql bytes, ?_⟩
  intro other more hother hwithin
  have hvalid : other.rawEndPos.IsValid sql :=
    String.Pos.Raw.isValid_iff_exists_append.2 ⟨other, more, hother, rfl⟩
  apply exists_append_of_size_le (hsplits.eq_append.symm.trans hother)
  rw [hsize]
  exact le_offset_boundaryBefore (p := ⟨_, hvalid⟩) hwithin

/-- Where the limit falls before the end of a character, what stands before the character is the
longest part. -/
theorem isLongestWithin_push {kept rest : String} {c : Char} (hwithin : kept.utf8ByteSize ≤ bytes)
    (hinside : bytes < kept.utf8ByteSize + c.utf8Size) :
    IsLongestWithin (kept.push c ++ rest) bytes kept := by
  refine ⟨⟨String.singleton c ++ rest, ?_⟩, hwithin, ?_⟩
  · rw [← String.append_singleton, String.append_assoc]
  · intro other more hother hfits
    have hsize : (kept.push c).utf8ByteSize = kept.utf8ByteSize + c.utf8Size :=
      String.utf8ByteSize_push
    obtain ⟨between, hbetween⟩ := exists_append_of_size_le hother (by omega)
    induction between using String.push_induction with
    | empty =>
      rw [String.append_empty] at hbetween
      rw [hbetween] at hsize
      omega
    | push between d _ =>
      rw [← String.append_singleton (s := between), ← String.append_assoc,
        String.append_singleton] at hbetween
      exact ⟨between, (String.push_inj.1 hbetween).1⟩

/-! ## What is logged -/

/-- What a log with a limit shows of a text: all of it if it does not exceed the limit, and else its
longest part within the limit, with dots behind it. -/
inductive Shows (limit : Option Nat) (sql : String) : String → Prop where
  | whole (fits : ∀ bytes, limit = some bytes → sql.utf8ByteSize ≤ bytes) : Shows limit sql sql
  | cut {bytes : Nat} {kept : String} (limited : limit = some bytes)
      (exceeds : bytes < sql.utf8ByteSize) (longest : IsLongestWithin sql bytes kept) :
      Shows limit sql (kept ++ "...")

theorem Shows.unique {limit : Option Nat} {shown other : String} (h : Shows limit sql shown)
    (h' : Shows limit sql other) : shown = other := by
  cases h with
  | whole fits =>
    cases h' with
    | whole _ => rfl
    | cut limited exceeds _ => exact absurd (fits _ limited) (Nat.not_le.2 exceeds)
  | cut limited exceeds longest =>
    cases h' with
    | whole fits => exact absurd (fits _ limited) (Nat.not_le.2 exceeds)
    | cut limited' _ longest' =>
      obtain rfl := Option.some.inj (limited.symm.trans limited')
      rw [longest.unique longest']

theorem shows_truncate (c : LogConfig) (sql : String) :
    Shows c.greatestLength sql (c.truncate sql) := by
  rw [truncate]
  split
  · rename_i hunlimited
    exact .whole (by simp [hunlimited])
  · rename_i bytes hlimited
    split
    · rename_i hexceeds
      rw [cutBytes, if_neg (Nat.not_le.2 hexceeds)]
      exact .cut hlimited hexceeds (isLongestWithin_sliceTo sql bytes)
    · rename_i hfits
      refine .whole fun limit hlimit ↦ ?_
      obtain rfl := Option.some.inj (hlimited.symm.trans hlimit)
      exact Nat.not_lt.1 hfits

/-- A log shows exactly what its limit lets it: a text that does not exceed the limit as it is, and
of any other the longest part from the front that has whole characters and no more bytes than the
limit, with dots behind it. So where the limit falls before the end of a character, be it within
its bytes or right before them, the cut is before this character. -/
theorem truncate_keeps_longest (c : LogConfig) (sql : String) :
    (∀ shown, c.truncate sql = shown ↔ Shows c.greatestLength sql shown) ∧
      ∀ kept d rest bytes, sql = kept.push d ++ rest → c.greatestLength = some bytes →
        kept.utf8ByteSize ≤ bytes → bytes < kept.utf8ByteSize + d.utf8Size →
        c.truncate sql = kept ++ "..." := by
  constructor
  · intro shown
    constructor
    · rintro rfl
      exact shows_truncate c sql
    · exact (shows_truncate c sql).unique
  · rintro kept d rest bytes rfl hlimited hwithin hinside
    have hexceeds : bytes < (kept.push d ++ rest).utf8ByteSize := by
      rw [String.utf8ByteSize_append, String.utf8ByteSize_push]
      omega
    exact (shows_truncate c _).unique
      (.cut hlimited hexceeds (isLongestWithin_push hwithin hinside))

/-- Limits within characters of two, three and four bytes, and the limit zero. -/
theorem truncate_keeps_longest_quoted :
    ({ greatestLength := some 9 } : LogConfig).truncate "SELECT 'é'" = "SELECT '..." ∧
      ({ greatestLength := some 10 } : LogConfig).truncate "SELECT '€'" = "SELECT '..." ∧
      ({ greatestLength := some 11 } : LogConfig).truncate "SELECT '😀'" = "SELECT '..." ∧
      ({ greatestLength := some 0 } : LogConfig).truncate "é" = "..." :=
  ⟨(truncate_keeps_longest _ _).2 "SELECT '" 'é' "'" 9 rfl rfl (by decide) (by decide),
    (truncate_keeps_longest _ _).2 "SELECT '" '€' "'" 10 rfl rfl (by decide) (by decide),
    (truncate_keeps_longest _ _).2 "SELECT '" '😀' "'" 11 rfl rfl (by decide) (by decide),
    (truncate_keeps_longest _ _).2 "" 'é' "" 0 rfl rfl (by decide) (by decide)⟩

end SchemaSql.LogConfig
