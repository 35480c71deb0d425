import SchemaSql.Proofs.Repository.OneRequest

/-!
# Rows that share a plan

The rows of an answer are read by one plan, which holds the row that it loaded last. None of them
shows in another: each is read as by a plan that has read nothing, a row that is too short leaves
the last one in place, and the items of a page are those of a list.
-/

namespace SchemaSql.Repository

open JoinPlan (afterUses fresh)
open Outcome (InOrder)

/-- What comes of an operation whose client answers is read from the answer. -/
theorem OneRequest.reads_of_reply {α β : Type} {r : Repository}
    {statement : Except Error Statement} {reply : Request → Except Error α}
    {Reads : α → Except Error β → Prop} {outcome : List Step × Except Error β}
    (h : r.OneRequest statement reply Reads outcome) {s : Statement} (hs : statement = .ok s)
    {a : α} (ha : reply ⟨s.sql, s.params⟩ = .ok a) : Reads a outcome.2 := by
  cases h with
  | unstated refused =>
    rw [refused] at hs
    cases hs
  | failed stated _ _ fails =>
    obtain rfl := Except.ok.inj (stated.symm.trans hs)
    rw [ha] at fails
    cases fails
  | answered stated _ _ replies reads =>
    obtain rfl := Except.ok.inj (stated.symm.trans hs)
    obtain rfl := Except.ok.inj (replies.symm.trans ha)
    exact reads

variable {r : Repository}

/-- An item of a page is the item that a list has for the row. -/
theorem readAlone_of_withTotal (hs : r.schema.Declared) {row : Wire.Row} {record : Record}
    (h : readAlone r.plan.withTotal row = .ok record) : readAlone r.plan row = .ok record := by
  obtain ⟨values, hvalues, hrecord⟩ := Outcome.bind_eq_ok_iff.1 h
  have hwide : r.plan.withTotal.width ≤ values.length := by
    by_contra hshort
    rw [JoinPlan.hydrate_eq_of_short (Nat.lt_of_not_le hshort)] at hrecord
    cases hrecord
  have hlaid := JoinPlan.laidOut_ofSchema r.schema r.config.space
  have hsame := JoinPlan.hydrate_reserve hs hlaid JoinPlan.total (by decide) hwide
  exact Outcome.bind_eq_ok_iff.2 ⟨values, hvalues, hsame.symm.trans hrecord⟩

theorem inOrder_of_withTotal (hs : r.schema.Declared) {rows : List Wire.Row} {items : List Record}
    (h : InOrder (readAlone r.plan.withTotal) rows (.ok items)) :
    InOrder (readAlone r.plan) rows (.ok items) := by
  cases h with
  | ok each => exact .ok (each.imp fun _ _ hread ↦ readAlone_of_withTotal hs hread)

/-- Rows are read apart from each other, whatever a plan was used for before, and so are the rows of
a list and those of a page; one that is too short leaves the plan with the row it holds. -/
theorem rows_apart (r : Repository) (hs : r.schema.Declared) (client : Client) :
    (∀ space uses row, ((afterUses r.schema space uses).hydrate row).2 =
      ((fresh r.schema space uses).hydrate row).2) ∧
    (∀ space uses row, row.length < (afterUses r.schema space uses).width →
      (afterUses r.schema space uses).hydrate row = (afterUses r.schema space uses,
        .error (.hydration (.shortRow row.length (afterUses r.schema space uses).width)))) ∧
    (∀ space (uses : List JoinPlan.Use) (held : List Json) (shorts : List (List Json)),
      (afterUses r.schema space uses).width ≤ held.length →
      (∀ row ∈ shorts, row.length < (afterUses r.schema space uses).width) → ∀ name,
      (afterUses r.schema space
        (uses ++ .hydrate held :: shorts.map .hydrate)).reservedValue name =
        ((fresh r.schema space uses).hydrate held).1.reservedValue name) ∧
    (∀ request s rows, r.listStatement r.plan request none = .ok s →
      client.rows ⟨s.sql, s.params⟩ = .ok rows →
      InOrder (readAlone r.plan) rows ((r.all request).run client).2) ∧
    ∀ request s rows,
      r.listStatement r.plan.withTotal request (some (r.page request)) = .ok s →
      client.rows ⟨s.sql, s.params⟩ = .ok rows →
      ReadsPage r.schema r.plan.withTotal rows ((r.filter request).run client).2 ∧
      ∀ page, ((r.filter request).run client).2 = .ok page →
        InOrder (readAlone r.plan) rows (.ok page.items) := by
  refine ⟨?_, ?_, ?_, ?_, ?_⟩
  · intro space uses row
    exact JoinPlan.hydrate_snd_eq_of_unloaded
      (JoinPlan.unloaded_afterUses r.schema space uses) row
  · intro space uses row hshort
    exact JoinPlan.hydrate_eq_of_short hshort
  · intro space uses held shorts hwide hshorts name
    rw [JoinPlan.afterUses_of_short r.schema space uses hwide hshorts]
  · intro request s rows hstated hreply
    exact ((r.oneRequest_all client request).reads_of_reply hstated hreply).items
  · intro request s rows hstated hreply
    have hreads := (r.oneRequest_filter client hs request).reads_of_reply hstated hreply
    refine ⟨hreads, fun page hpage ↦ ?_⟩
    have hitems := hreads.items
    rw [hpage] at hitems
    exact inOrder_of_withTotal hs hitems

/-- Two members on a page; only the second row tells how many there are. -/
theorem rows_apart_members :
    ∃ (client : Client) (s : Statement) (rows : List Wire.Row) (page : PageResult),
      listStatement ⟨.members, {}⟩ (JoinPlan.ofSchema .members none).withTotal {}
        (some (Repository.page ⟨.members, {}⟩ {})) = .ok s ∧
      client.rows ⟨s.sql, s.params⟩ = .ok rows ∧
      ((filter ⟨.members, {}⟩ {}).run client).2 = .ok page ∧
      page.total = some 9 ∧
      page.items.map (fun item ↦ (item.get? "name").map Json.plainText) =
        [some "ann", some "bob"] ∧
      InOrder (readAlone (JoinPlan.ofSchema .members none)) rows (.ok page.items) := by
  let columns : List Wire.Column := [⟨"id", .scalar .int4⟩, ⟨"name", .scalar .text⟩,
    ⟨"team_id", .scalar .int4⟩, ⟨"id", .scalar .int4⟩, ⟨"title", .scalar .text⟩,
    ⟨"count", .scalar .int8⟩]
  let ann : Wire.Row := ⟨columns, [some [0, 0, 0, 1], some [97, 110, 110], none, none, none, none]⟩
  let bob : Wire.Row := ⟨columns, [some [0, 0, 0, 2], some [98, 111, 98], some [0, 0, 0, 3],
    some [0, 0, 0, 3], some [114, 101, 100], some [0, 0, 0, 0, 0, 0, 0, 9]]⟩
  let client : Client := ⟨fun _ ↦ .ok [ann, bob], fun _ ↦ .ok 0⟩
  have hs : listStatement ⟨.members, {}⟩ (JoinPlan.ofSchema .members none).withTotal {}
      (some (Repository.page ⟨.members, {}⟩ {})) = .ok _ := rfl
  obtain ⟨_, _, _, _, hfilter⟩ := rows_apart ⟨.members, {}⟩ Schema.members_declared client
  obtain ⟨_, hitems⟩ := hfilter {} _ [ann, bob] hs rfl
  have htotal : ((filter ⟨.members, {}⟩ {}).run client).2.map PageResult.total = .ok (some 9) := by
    decide +kernel
  have hnames : ((filter ⟨.members, {}⟩ {}).run client).2.map
      (fun page ↦ page.items.map fun item ↦ (item.get? "name").map Json.plainText) =
        .ok [some "ann", some "bob"] := by
    decide +kernel
  obtain ⟨page, hpage, htotal⟩ := Outcome.map_eq_ok_iff.1 htotal
  rw [hpage] at hnames
  exact ⟨client, _, [ann, bob], page, hs, rfl, hpage, htotal, Except.ok.inj hnames,
    hitems page hpage⟩

end SchemaSql.Repository
