import Mathlib.Algebra.Group.Int.Defs
import Mathlib.Logic.ExistsUnique
import SchemaSql.Proofs.Outcome
import SchemaSql.Proofs.Schema.Declared
import SchemaSql.Proofs.Sql.Numbering
import SchemaSql.Repository.Statements

/-!
# Pages of rows

A page that is asked for has at least one row and no more than the configuration allows, whatever
was set there, and it skips the rows of the pages before it, as far as their number has 64 bits. So
the pages of one size divide the rows: each row whose number is below the greatest of 64 bits is on
one page. A list without pages is cut by a limit within the same bounds.
-/

namespace SchemaSql

/-! ## Integers of 64 bits -/

theorem toInt_max (x y : Int64) : (max x y).toInt = max x.toInt y.toInt := by
  have hle : x ≤ y ↔ x.toInt ≤ y.toInt := Int64.le_iff_toInt_le
  by_cases h : x.toInt ≤ y.toInt
  · rw [show max x y = y from if_pos (hle.2 h), Int.max_eq_right h]
  · rw [show max x y = x from if_neg (h ∘ hle.1), Int.max_eq_left (by omega)]

theorem toInt_min (x y : Int64) : (min x y).toInt = min x.toInt y.toInt := by
  have hle : x ≤ y ↔ x.toInt ≤ y.toInt := Int64.le_iff_toInt_le
  by_cases h : x.toInt ≤ y.toInt
  · rw [show min x y = x from if_pos (hle.2 h), Int.min_eq_left h]
  · rw [show min x y = y from if_neg (h ∘ hle.1), Int.min_eq_right (by omega)]

/-- A product that is not negative is the exact one, or the greatest integer. -/
theorem toInt_saturatingMul {x y : Int64} (h : 0 ≤ x.toInt * y.toInt) :
    (saturatingMul x y).toInt = min (x.toInt * y.toInt) (2 ^ 63 - 1) := by
  have hmax : Int64.maxValue.toInt = 2 ^ 63 - 1 := Int64.toInt_maxValue
  have hmin : Int64.minValue.toInt = -2 ^ 63 := Int64.toInt_minValue
  unfold saturatingMul
  simp only [hmax, hmin]
  split
  · rename_i hlarge
    rw [hmax, Int.min_eq_right (by omega)]
  · rename_i hsmall
    rw [if_neg (by omega), Int64.toInt_ofInt_of_le (by omega) (by omega),
      Int.min_eq_left (by omega)]

namespace Config

variable (c : Config)

/-- A size that is brought within its bounds has at least one row, and no more than the greatest
page, if that has a row at all. -/
theorem toInt_clampPage (size : Int64) :
    (c.clampPage size).toInt = max 1 (min size.toInt (max 1 c.greatestPage.toInt)) := by
  rw [clampPage, pageBound, toInt_max, toInt_min, toInt_max, Int.max_comm c.greatestPage.toInt]
  rfl

theorem clampPage_bounds (size : Int64) :
    1 ≤ (c.clampPage size).toInt ∧ (c.clampPage size).toInt ≤ max 1 c.greatestPage.toInt := by
  rw [toInt_clampPage]
  omega

end Config

/-! ## Pages -/

namespace Page

/-- Whether a row, counted from zero, is on the page. -/
def Holds (p : Page) (row : Int) : Prop :=
  p.offset.toInt ≤ row ∧ row < p.offset.toInt + p.size.toInt

variable (c : Config) (number size : Option Int64)

theorem toInt_number :
    (ofRequest c number size).number.toInt = max (number.getD 1).toInt 1 := by
  rw [ofRequest, toInt_max]
  rfl

theorem one_le_number : 1 ≤ (ofRequest c number size).number.toInt := by
  rw [toInt_number]
  exact Int.le_max_right _ _

/-- The pages before a page are counted without an overflow. -/
theorem toInt_number_sub_one :
    ((ofRequest c number size).number - 1).toInt =
      (ofRequest c number size).number.toInt - 1 :=
  Int64.toInt_sub_of_le _ _ (by decide) (Int64.le_iff_toInt_le.2 (one_le_number c number size))

theorem size_bounds :
    1 ≤ (ofRequest c number size).size.toInt ∧
      (ofRequest c number size).size.toInt ≤ max 1 c.greatestPage.toInt :=
  c.clampPage_bounds _

theorem toInt_offset :
    (ofRequest c number size).offset.toInt =
      min (((ofRequest c number size).number.toInt - 1) * (ofRequest c number size).size.toInt)
        (2 ^ 63 - 1) := by
  have hbefore := toInt_number_sub_one c number size
  have hnumber := one_le_number c number size
  have hsize := (size_bounds c number size).1
  have hproduct : 0 ≤ ((ofRequest c number size).number - 1).toInt *
      (ofRequest c number size).size.toInt := by
    rw [hbefore]
    exact Int.mul_nonneg (by omega) (by omega)
  rw [offset, toInt_saturatingMul hproduct, hbefore]

theorem offset_nonneg : 0 ≤ (ofRequest c number size).offset.toInt := by
  have hnumber := one_le_number c number size
  have hsize := (size_bounds c number size).1
  have hproduct : 0 ≤ ((ofRequest c number size).number.toInt - 1) *
      (ofRequest c number size).size.toInt :=
    Int.mul_nonneg (by omega) (by omega)
  rw [toInt_offset]
  omega

/-- A row whose number is below the greatest of 64 bits is on the page that division by the size
gives; a page that begins beyond these numbers holds none of them. -/
theorem holds_iff {row : Int} (hrow : row < 2 ^ 63 - 1) :
    (ofRequest c number size).Holds row ↔
      row / (ofRequest c number size).size.toInt =
        (ofRequest c number size).number.toInt - 1 := by
  have hsize := (size_bounds c number size).1
  rw [Int.ediv_eq_iff_of_pos (by omega), Holds, toInt_offset]
  omega

/-- Each row is on one page of a size. -/
theorem existsUnique_holds {row : Int} (hrow : 0 ≤ row) (hlast : row < 2 ^ 63 - 1) :
    ∃! n : Int64, 1 ≤ n.toInt ∧ (ofRequest c (some n) size).Holds row := by
  -- The size does not depend on which page is asked for.
  let rows := (ofRequest c none size).size.toInt
  have hrows : 1 ≤ rows := (size_bounds c none size).1
  have hquotient : 0 ≤ row / rows ∧ row / rows ≤ row :=
    ⟨Int.ediv_nonneg hrow (by omega), Int.ediv_le_self _ hrow⟩
  have hholds (n : Int64) (hn : 1 ≤ n.toInt) :
      (ofRequest c (some n) size).Holds row ↔ n.toInt = row / rows + 1 := by
    rw [holds_iff c (some n) size hlast, toInt_number, Option.getD_some, Int.max_eq_left hn]
    change row / rows = n.toInt - 1 ↔ _
    omega
  have hnumber : (Int64.ofInt (row / rows + 1)).toInt = row / rows + 1 :=
    Int64.toInt_ofInt_of_le (by omega) (by omega)
  refine ⟨.ofInt (row / rows + 1), ⟨by omega, (hholds _ (by omega)).2 hnumber⟩, ?_⟩
  rintro n ⟨hn, hrow⟩
  apply Int64.toInt_inj.1
  rw [(hholds n hn).1 hrow, hnumber]

end Page

/-! ## Limits of lists -/

namespace Repository

open StatementStep (slotText)

variable {r : Repository} {plan : JoinPlan} {request : ListRequest} {s : Statement}

/-- A list without pages that has a limit is the list without a limit, cut by it. -/
theorem exists_limit_of_listStatement {limit : Int64} (hlimit : request.limit = some limit)
    (h : r.listStatement plan request none = .ok s) :
    ∃ t, r.listStatement plan { request with limit := none } none = .ok t ∧
      s = t.limit (r.config.clampPage limit).toInt := by
  obtain ⟨predicate, hpredicate, h⟩ := Outcome.bind_eq_ok_iff.1 h
  obtain ⟨order, horder, h⟩ := Outcome.bind_eq_ok_iff.1 h
  rw [hlimit] at h
  refine ⟨_, ?_, (Except.ok.inj h).symm⟩
  rw [listStatement, hpredicate, horder]
  rfl

/-- Whatever is configured and asked for, a page is counted from one, has a row at least and no more
than the greatest page, and skips exactly the rows before it, as far as 64 bits count them. Each row
of a lower number is on exactly one page of a size. A list without pages is cut by a limit within
the bounds of a page. -/
theorem pages_partition (c : Config) (size : Option Int64) :
    (∀ number, let p := Page.ofRequest c number size
      1 ≤ p.number.toInt ∧ (1 ≤ p.size.toInt ∧ p.size.toInt ≤ max 1 c.greatestPage.toInt) ∧
        (p.number - 1).toInt = p.number.toInt - 1 ∧
        p.offset.toInt = min ((p.number.toInt - 1) * p.size.toInt) (2 ^ 63 - 1) ∧
        0 ≤ p.offset.toInt) ∧
      (∀ row : Int, 0 ≤ row → row < 2 ^ 63 - 1 →
        ∃! n : Int64, 1 ≤ n.toInt ∧ (Page.ofRequest c (some n) size).Holds row) ∧
      ∀ (r : Repository) plan request limit s, r.config = c → request.limit = some limit →
        r.listStatement plan request none = .ok s →
          ∃ t rows, r.listStatement plan { request with limit := none } none = .ok t ∧
            (1 ≤ rows ∧ rows ≤ max 1 c.greatestPage.toInt) ∧
            s.sql = t.sql ++ (" LIMIT " ++ slotText (t.slotCount + 1)) ∧
            s.params = t.params ++ [.text (renderInteger rows)] := by
  refine ⟨?_, ?_, ?_⟩
  · intro number
    exact ⟨Page.one_le_number c number size, Page.size_bounds c number size,
      Page.toInt_number_sub_one c number size, Page.toInt_offset c number size,
      Page.offset_nonneg c number size⟩
  · intro row hrow hlast
    exact Page.existsUnique_holds c size hrow hlast
  · rintro r plan request limit s rfl hlimit h
    obtain ⟨t, ht, rfl⟩ := exists_limit_of_listStatement hlimit h
    exact ⟨t, _, ht, r.config.clampPage_bounds limit, Statement.sql_apply t (.limit _),
      StatementStep.params_apply t (.limit _)⟩

/-- The last row that can be counted, on pages of seven rows at most, and a list of members that is
cut by as many. -/
theorem pages_partition_members :
    ∃ c : Config, c.greatestPage = 7 ∧
      (∃! n : Int64, 1 ≤ n.toInt ∧
        (Page.ofRequest c (some n) (some 1000)).Holds 9223372036854775806) ∧
      ∃ (s t : Statement) (rows : Int),
        listStatement ⟨.members, c⟩ (.ofSchema .members none) { limit := some 1000 } none = .ok s ∧
          s.sql = t.sql ++ (" LIMIT " ++ slotText (t.slotCount + 1)) ∧ 1 ≤ rows ∧ rows ≤ 7 ∧
          s.params = t.params ++ [.text (renderInteger rows)] := by
  let c : Config := { greatestPage := 7, defaultPage := -3 }
  obtain ⟨_, hrows, hlimits⟩ := pages_partition c (some 1000)
  have hs : listStatement ⟨.members, c⟩ (.ofSchema .members none) { limit := some 1000 } none =
      .ok _ := rfl
  obtain ⟨t, rows, _, hbounds, hsql, hparams⟩ := hlimits _ _ _ 1000 _ rfl rfl hs
  exact ⟨c, rfl, hrows _ (by decide) (by decide), _, t, rows, hs, hsql, hbounds.1, hbounds.2,
    hparams⟩

end Repository

end SchemaSql
