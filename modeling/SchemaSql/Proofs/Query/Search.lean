import SchemaSql.Proofs.Query.Selection

/-!
# Searching for texts

A text that a payload has for a field of free text is put between percent signs as it is. The rows
that are selected are those in whose column the text occurs, as long as it has none of the signs of
patterns; with one of them, it also finds columns in which it does not occur.
-/

namespace SchemaSql

namespace Field

theorem toList_containing (v : String) :
    (containing v).toList = '%' :: (v.toList ++ ['%']) := by
  simp [containing]

/-- Fields that are searched for a text: those of JSON, and those of strings that are bound as they
are, whatever they are. -/
def IsSearched (f : Field) : Prop :=
  f.isArray = false ∧
    (f.type = .json ∨ f.type = .string ∧ f.options = none ∧ f.encoder = none)

/-- A text asks of such a field that it fits the text between percent signs. -/
theorem conditions_of_isSearched {f : Field} (h : f.IsSearched) (v : String) :
    ∃ c, f.conditions (.string v) = .ok [c] ∧
      (c = .like (containing v) ∨ c = .textLike (containing v)) := by
  obtain ⟨hsingle, hjson | ⟨hstring, hoptions, hencoder⟩⟩ := h
  · refine ⟨.textLike (containing v), ?_, .inr rfl⟩
    simp [conditions, hsingle, hjson, Json.plainText]
  · refine ⟨.like (containing v), ?_, .inl rfl⟩
    have hparam : f.coerceScalar (.string v) = .ok (.text v) := by
      simp [coerceScalar, Json.isNull, cast, hstring, FieldType.cast, Json.plainText, admits,
        hoptions, encode, hencoder, bind, Except.bind, pure, Except.pure]
    simp [conditions, hsingle, hstring, likeness, hparam, hoptions, Param.display, bind,
      Except.bind, pure, Except.pure]

end Field

namespace Table

variable {t : Table} {f : Field}

theorem exists_selects_of_isSearched (ht : t.Declared) (hf : f ∈ t.fields)
    (hsearched : f.IsSearched) (v : String) (combinator : Combinator) :
    ∃ c, t.whereClause (.object [(f.name, .string v)]) combinator = .ok c ∧
      c.values = [.text (Field.containing v)] ∧
      ∀ fold row, c.Selects fold row ↔
        ∃ d, t.datum? f row = some d ∧
          LikePattern.fits fold (Field.containing v).toList d.text.toList = true := by
  obtain ⟨k, hconditions, hlike⟩ := Field.conditions_of_isSearched hsearched v
  have hlist : k ≠ .oneOf [] := by
    rcases hlike with rfl | rfl <;> simp
  have htruth (fold : Char → Char) (x : Option Datum) : k.truth? fold x =
      some (Condition.relate (Condition.isLike fold) x (.text (Field.containing v))) := by
    rcases hlike with rfl | rfl <;> rfl
  obtain ⟨c, hc, hvalues, hselects⟩ :=
    exists_selects_of_conditions ht hf hconditions hlist combinator
  refine ⟨c, hc, ?_, ?_⟩
  · rw [hvalues]
    rcases hlike with rfl | rfl <;> rfl
  · intro fold row
    rw [hselects, htruth, Option.some.injEq, Condition.relate_eq_yes_iff]
    simp [Condition.isLike]

/-- A text selects the rows whose column fits it between percent signs. If it has no sign of a
pattern, these are the rows in whose column it occurs, whatever counts as the same letter; and only
then, if signs do not count as the same. -/
theorem search_finds_iff (ht : t.Declared) (hf : f ∈ t.fields) (hsearched : f.IsSearched)
    (v : String) (combinator : Combinator) :
    ∃ c, t.whereClause (.object [(f.name, .string v)]) combinator = .ok c ∧
      c.values = [.text ("%" ++ v ++ "%")] ∧
      (∀ fold row, c.Selects fold row ↔ ∃ d, t.datum? f row = some d ∧
        LikePattern.fits fold ("%" ++ v ++ "%").toList d.text.toList = true) ∧
      (LikePattern.Plain v.toList → ∀ fold row, c.Selects fold row ↔
        ∃ d, t.datum? f row = some d ∧ LikePattern.Occurs fold v.toList d.text.toList) ∧
      ∀ fold, LikePattern.SignsApart fold →
        (∀ row, c.Selects fold row →
          ∃ d, t.datum? f row = some d ∧ LikePattern.Occurs fold v.toList d.text.toList) →
        LikePattern.Plain v.toList := by
  obtain ⟨c, hc, hvalues, hselects⟩ :=
    exists_selects_of_isSearched ht hf hsearched v combinator
  refine ⟨c, hc, hvalues, hselects, ?_, ?_⟩
  · intro hplain fold row
    rw [hselects]
    simp only [Field.toList_containing, LikePattern.fits_containing hplain]
  · intro fold hfold hoccurs
    apply LikePattern.plain_of_fits_containing hfold
    intro cs hfits
    -- Whatever text fits is that of some row, on which the law can be tried.
    let row : Tuple := fun _ _ ↦ some ⟨.ofList cs, fun _ ↦ .eq⟩
    have hrow : c.Selects fold row :=
      (hselects fold row).2 ⟨_, rfl, by simpa [Field.toList_containing] using hfits⟩
    obtain ⟨d, hd, hfound⟩ := hoccurs row hrow
    obtain rfl := Option.some.inj hd
    simpa using hfound

/-- A search for a name that has no sign of a pattern finds it within another one, and not within a
name that only comes near it. -/
theorem search_finds_iff_members :
    LikePattern.Plain "red".toList ∧
      ∃ c, Schema.members.whereClause (.object [("name", .string "red")]) .and = .ok c ∧
        c.values = [.text "%red%"] ∧
        c.Selects Char.toLower (fun _ _ ↦ some ⟨"Fred", fun _ ↦ .gt⟩) ∧
        ¬c.Selects Char.toLower (fun _ _ ↦ some ⟨"Reed", fun _ ↦ .gt⟩) := by
  have hplain : LikePattern.Plain "red".toList := by decide
  have hsearched : (Field.plain ⟨"name", by decide⟩ .string).IsSearched :=
    ⟨rfl, .inr ⟨rfl, rfl, rfl⟩⟩
  obtain ⟨c, hc, hvalues, _, hoccurs, _⟩ := search_finds_iff Schema.members_declared.table_declared
    (.tail _ (.head _)) hsearched "red" .and
  refine ⟨hplain, c, hc, hvalues, ?_, ?_⟩
  · exact (hoccurs hplain _ _).2 ⟨_, rfl, by decide⟩
  · intro hselects
    obtain ⟨d, hd, hfound⟩ := (hoccurs hplain _ _).1 hselects
    obtain rfl := Option.some.inj hd
    revert hfound
    decide

/-- A search for a percentage selects a name in which it does not occur. -/
theorem search_finds_other_text :
    ∃ c, Schema.members.whereClause (.object [("name", .string "50%")]) .and = .ok c ∧
      c.values = [.text "%50%%"] ∧
      c.Selects Char.toLower (fun _ _ ↦ some ⟨"1500", fun _ ↦ .lt⟩) ∧
      ¬LikePattern.Occurs Char.toLower "50%".toList "1500".toList := by
  have hclause : Schema.members.whereClause (.object [("name", .string "50%")]) .and =
      .ok (Predicate.clause .and
        [⟨Identifier.dotted ⟨"members", by decide⟩ ⟨"name", by decide⟩, .like "%50%%"⟩]) := rfl
  refine ⟨_, hclause, rfl, ?_, by decide⟩
  rw [Clause.selects_singleton _ _ _ _ _ (by simp)]
  decide

end Table

end SchemaSql
