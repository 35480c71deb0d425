import SchemaSql.Proofs.Row.Reading
import SchemaSql.Proofs.Sql.ArrayText

/-!
# Arrays in rows

A driver that knows the type of an array hands it over as a list, one that does not as the text of
its literal. For a row it makes no difference: the literal of some elements is hydrated as the list
of them, with null for those that are absent. The word of absence is never taken for a text that
spells it, nor the empty text for nothing.
-/

namespace SchemaSql

namespace ArrayLiteral

def toJson (es : List (Option String)) : Json :=
  .array (es.map fun e ↦ (e.map Json.string).getD .null)

theorem toJson_injective {es fs : List (Option String)} (h : toJson es = toJson fs) : es = fs := by
  apply List.map_injective_iff.2 ?_ (Json.array.inj h)
  intro e f hsame
  cases e with
  | none =>
    cases f with
    | none => rfl
    | some t => cases hsame
  | some s =>
    cases f with
    | none => cases hsame
    | some t => rw [Json.string.inj hsame]

theorem write_injective {es fs : List (Option String)} (h : write es = write fs) : es = fs :=
  Option.some.inj ((read?_write es).symm.trans (h ▸ read?_write fs))

/-- Only an absent element is written as the word of absence, in letters of any case: a text that
spells the word stands in quotes. -/
theorem sameLetters_writeElement_iff (e : Option String) :
    Text.sameLetters (writeElement e) absentWord = true ↔ e = none := by
  cases e with
  | none => exact iff_of_true (by decide) rfl
  | some s =>
    refine iff_of_false ?_ (by simp)
    rw [writeElement]
    split
    · simp [Text.sameLetters, absentWord]
    · rename_i hbare
      simp only [isQuoted, Bool.or_eq_true, not_or] at hbare
      exact hbare.1.2

end ArrayLiteral

namespace Field

theorem splitArray_write (f : Field) (es : List (Option String)) :
    f.splitArray (.string (ArrayLiteral.write es)) = .ok (ArrayLiteral.toJson es) := by
  rw [splitArray, ArrayLiteral.read?_write]
  rfl

/-- An array field makes the same of a literal as of the list of its elements. -/
theorem decode_write {f : Field} (harray : f.isArray = true) (es : List (Option String)) :
    f.decode (.string (ArrayLiteral.write es)) = f.decode (ArrayLiteral.toJson es) := by
  rw [decode, decode, if_pos harray, if_pos harray, splitArray_write,
    f.splitArray_self (by simp [ArrayLiteral.toJson])]

theorem decode_toJson {f : Field} (hdecoder : f.decoder = none) (es : List (Option String)) :
    f.decode (ArrayLiteral.toJson es) = .ok (ArrayLiteral.toJson es) :=
  decode_self hdecoder (by simp [ArrayLiteral.toJson])

end Field

namespace Table

variable {t : Table} {before after : List Json}

/-- A row is hydrated alike with either of two values if the field at their place makes the same of
them. -/
theorem hydrate_congr {v w : Json}
    (h : ∀ f, t.selected[before.length]? = some f → f.decode v = f.decode w) :
    t.hydrate (before ++ v :: after) = t.hydrate (before ++ w :: after) := by
  have hlength : (before ++ v :: after).length = (before ++ w :: after).length := by simp
  rw [hydrate, hydrate, hlength, Outcome.mapM_zip_congr (c := w) ?_ after]
  intro f hf
  simp only [h f hf]

/-- Elements of an array come back from their literal, whatever texts they are: a text that spells
the word of absence is kept apart from an absent element, and so is the empty text. Hence an array
field makes the same of the literal as of the list of its elements, and without a decoder this is the
list; a row with the literal is hydrated as the row with the list is, also where that fails, and its
record has the list under the name of the field. -/
theorem array_cells (es : List (Option String)) :
    ArrayLiteral.read? (ArrayLiteral.write es) = some es ∧
      (∀ fs, ArrayLiteral.write fs = ArrayLiteral.write es ∨
        ArrayLiteral.toJson fs = ArrayLiteral.toJson es → fs = es) ∧
      (∀ e, Text.sameLetters (ArrayLiteral.writeElement e) ArrayLiteral.absentWord = true ↔
        e = none) ∧
      ∀ f : Field, f.isArray = true →
        f.decode (.string (ArrayLiteral.write es)) = f.decode (ArrayLiteral.toJson es) ∧
        (f.decoder = none → f.decode (ArrayLiteral.toJson es) = .ok (ArrayLiteral.toJson es)) ∧
        ∀ (t : Table) (before after : List Json), t.selected[before.length]? = some f →
          t.hydrate (before ++ .string (ArrayLiteral.write es) :: after) =
            t.hydrate (before ++ ArrayLiteral.toJson es :: after) ∧
          ∀ record, t.Declared → f.decoder = none →
            t.hydrate (before ++ .string (ArrayLiteral.write es) :: after) = .ok record →
            record.get? f.name = some (ArrayLiteral.toJson es) := by
  refine ⟨ArrayLiteral.read?_write es, ?_, ArrayLiteral.sameLetters_writeElement_iff, ?_⟩
  · rintro fs (hwrite | hlist)
    · exact ArrayLiteral.write_injective hwrite
    · exact ArrayLiteral.toJson_injective hlist
  · intro f harray
    have hsame := Field.decode_write harray es
    refine ⟨hsame, fun hdecoder ↦ Field.decode_toJson hdecoder es, ?_⟩
    intro t before after hplace
    refine ⟨hydrate_congr fun g hg ↦ ?_, ?_⟩
    · rwa [← Option.some.inj (hplace.symm.trans hg)]
    · intro record hdeclared hdecoder hrecord
      have hcell : (before ++ .string (ArrayLiteral.write es) :: after)[before.length]? =
          some (.string (ArrayLiteral.write es)) := by simp
      obtain ⟨v, hv, _, hget⟩ := get?_of_hydrate hdeclared hrecord hplace hcell
      rw [hsame, Field.decode_toJson hdecoder] at hv
      rw [hget, Except.ok.inj hv]

/-- An album whose tags are the word of absence as a text, nothing, the word in other letters, and
the empty text. -/
theorem array_cells_albums :
    ArrayLiteral.write [some "NULL", none, some "null", some ""] =
        "\x7b\"NULL\",NULL,\"null\",\"\"\x7d" ∧
      ∃ record, Table.albums.hydrate [.int 1, .null,
          .string "\x7b\"NULL\",NULL,\"null\",\"\"\x7d"] = .ok record ∧
        record.get? "tags" =
          some (.array [.string "NULL", .null, .string "null", .string ""]) := by
  have htext : ArrayLiteral.write [some "NULL", none, some "null", some ""] =
      "\x7b\"NULL\",NULL,\"null\",\"\"\x7d" := by decide +kernel
  obtain ⟨_, _, _, hfields⟩ := array_cells [some "NULL", none, some "null", some ""]
  obtain ⟨_, hself, hrows⟩ :=
    hfields { Field.plain ⟨"tags", by decide⟩ .string with isArray := true } rfl
  obtain ⟨hrow, hrecord⟩ := hrows .albums [.int 1, .null] [] rfl
  have hlist : Table.albums.hydrate ([.int 1, .null] ++
      ArrayLiteral.toJson [some "NULL", none, some "null", some ""] :: []) = .ok _ := rfl
  refine ⟨htext, _, ?_, hrecord _ albums_declared rfl (hrow.trans hlist)⟩
  rw [← htext]
  exact hrow.trans hlist

end Table

end SchemaSql
