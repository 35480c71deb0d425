import SchemaSql.Proofs.Query.PayloadShape
import SchemaSql.Proofs.Repository.Binding

/-!
# Values do not reach the text

Two calls of one shape are rendered with one and the same text. The shape of a call holds no text,
no number, no key and no JSON of its payloads: of an insertion or an update it is the fields that
have values, and of a list the order, whether there is a window, and the shapes of its payloads.
-/

namespace SchemaSql

/-! ## Shapes of calls -/

/-- What can be told of a call without reading its values. -/
inductive CallShape where
  | insert (present : List String)
  | update (present : List String)
  | get
  | delete
  | list (order : Option OrderRequest) (paged limited : Bool)
      (search filter : List (List (Option ValueShape)))
deriving DecidableEq

def Table.presentNames (t : Table) (payload : Json) : List String :=
  (t.fields.filter fun f ↦ (payload.get? f.name).isSome).map Field.name

/-- The shape of a call; a key has none. -/
def Repository.shapeOf (r : Repository) (plan : JoinPlan) : Call → CallShape
  | .insert payload => .insert (r.schema.presentNames payload)
  | .update _ payload => .update (r.schema.presentNames payload)
  | .get _ => .get
  | .delete _ => .delete
  | .list request page =>
    .list request.order page.isSome request.limit.isSome (plan.shapeOf request.search)
      (plan.shapeOf request.filter)

/-! ## Given fields -/

namespace Table

variable {t : Table} {writable : Field → Bool} {payload payload' : Json}
  {given given' : List Given}

theorem mem_presentNames_iff {f : Field} (hf : f ∈ t.fields) :
    f.name ∈ t.presentNames payload ↔ (payload.get? f.name).isSome = true := by
  rw [presentNames, List.mem_map]
  constructor
  · rintro ⟨g, hg, hname⟩
    rw [← hname]
    exact (List.mem_filter.1 hg).2
  · intro hsome
    exact ⟨f, List.mem_filter.2 ⟨hf, hsome⟩, rfl⟩

/-- The fields that are given are those that are writable and present. -/
theorem Gives.map_field (h : t.Gives writable payload given) :
    given.map Given.field =
      (t.fields.filter writable).filter fun f ↦ (payload.get? f.name).isSome := by
  have hfields := congrArg (List.map Prod.fst) h.present
  rw [List.map_map, List.map_filterMap] at hfields
  calc
    given.map Given.field = given.map (Prod.fst ∘ fun g ↦ (g.field, g.value)) := rfl
    _ = (t.fields.filter writable).filterMap fun f ↦
          (Field.present? payload f).map Prod.fst := hfields
    _ = (t.fields.filter writable).filter fun f ↦ (payload.get? f.name).isSome := by
      generalize t.fields.filter writable = fs
      rw [← List.filterMap_eq_filter]
      apply List.filterMap_congr
      intro f _
      cases hvalue : payload.get? f.name <;> simp [Field.present?, Option.guard, hvalue]

/-- Payloads with values for the same fields give the same fields. -/
theorem Gives.map_field_congr (hnames : t.presentNames payload = t.presentNames payload')
    (h : t.Gives writable payload given) (h' : t.Gives writable payload' given') :
    given.map Given.field = given'.map Given.field := by
  rw [h.map_field, h'.map_field]
  apply List.filter_congr
  intro f hf
  have hmem := (List.mem_filter.1 hf).1
  rw [Bool.eq_iff_iff, ← mem_presentNames_iff hmem, ← mem_presentNames_iff hmem, hnames]

end Table

namespace Repository

variable {r : Repository} {plan : JoinPlan} {s s' : Statement}

/-! ## Segments of one shape -/

theorem cellsOf_insertSegments_congr {given given' : List Given}
    (h : given.map Given.field = given'.map Given.field) :
    Segment.cellsOf (r.insertSegments given) = Segment.cellsOf (r.insertSegments given') := by
  have hcolumns : (given.map fun g ↦ g.field.column.quoted) =
      given'.map fun g ↦ g.field.column.quoted := by
    have hquoted := congrArg (List.map fun f ↦ f.column.quoted) h
    rwa [List.map_map, List.map_map] at hquoted
  have hslots : (given.map fun _ ↦ [(none : Option Char)]) = given'.map fun _ ↦ [none] := by
    have hconst := congrArg (List.map fun _ ↦ [(none : Option Char)]) h
    rwa [List.map_map, List.map_map] at hconst
  rw [insertSegments, insertSegments, hcolumns]
  simp only [Segment.cellsOf_append, Segment.cellsOf_intercalate, List.map_map]
  have hcells : (Segment.cellsOf ∘ fun g : Given ↦ [Segment.value g.param]) = fun _ ↦ [none] := rfl
  rw [hcells, hslots]

theorem cellsOf_updateSegments_congr {given given' : List Given} (key key' : Param)
    (h : given.map Given.field = given'.map Given.field) :
    Segment.cellsOf (r.updateSegments given key) =
      Segment.cellsOf (r.updateSegments given' key') := by
  have hassigned (given : List Given) :
      (given.map fun g ↦ [Segment.text g.field.column.quoted, .text "=", .value g.param]).map
        Segment.cellsOf =
      (given.map Given.field).map fun f ↦
        f.column.quoted.toList.map some ++ [some '=', none] := by
    rw [List.map_map, List.map_map]
    apply List.map_congr_left
    intro g _
    simp [Segment.cellsOf, Segment.text, Segment.value]
  rw [updateSegments, updateSegments]
  simp only [Segment.cellsOf_append, Segment.cellsOf_intercalate, hassigned, h]
  rfl

theorem cellsOf_windowSegments_congr {request request' : ListRequest} {page page' : Option Page}
    (hpage : page.isSome = page'.isSome) (hlimit : request.limit.isSome = request'.limit.isSome) :
    Segment.cellsOf (r.windowSegments request page) =
      Segment.cellsOf (r.windowSegments request' page') := by
  cases page with
  | some page =>
    obtain ⟨page', rfl⟩ := Option.isSome_iff_exists.1 hpage.symm
    simp [windowSegments, Segment.cellsOf, Segment.text, Segment.value]
  | none =>
    obtain rfl := Option.not_isSome_iff_eq_none.1 (Bool.eq_false_iff.1 hpage.symm)
    unfold windowSegments
    cases hrows : request.limit with
    | some rows =>
      rw [hrows] at hlimit
      obtain ⟨rows', hrows'⟩ := Option.isSome_iff_exists.1 hlimit.symm
      rw [hrows']
      simp [Segment.cellsOf, Segment.text, Segment.value]
    | none =>
      rw [hrows] at hlimit
      rw [Option.not_isSome_iff_eq_none.1 (Bool.eq_false_iff.1 hlimit.symm)]

/-- Statements that bind calls of one shape have the same cells. -/
theorem cells_eq_of_binds {call call' : Call}
    (hshape : r.shapeOf plan call = r.shapeOf plan call') (h : r.Binds plan s call)
    (h' : r.Binds plan s' call') : s.cells = s'.cells := by
  cases h with
  | insert gives consists _ =>
    cases h' with
    | insert gives' consists' _ =>
      have hfields := gives.map_field_congr (CallShape.insert.inj hshape) gives'
      rw [consists.cells_eq, consists'.cells_eq, cellsOf_insertSegments_congr hfields]
    | update | get | delete | list => cases hshape
  | update gives _ consists _ =>
    cases h' with
    | update gives' _ consists' _ =>
      have hfields := gives.map_field_congr (CallShape.update.inj hshape) gives'
      rw [consists.cells_eq, consists'.cells_eq, cellsOf_updateSegments_congr _ _ hfields]
    | insert | get | delete | list => cases hshape
  | get _ consists _ =>
    cases h' with
    | get _ consists' _ =>
      rw [consists.cells_eq, consists'.cells_eq]
      rfl
    | insert | update | delete | list => cases hshape
  | delete _ consists _ =>
    cases h' with
    | delete _ consists' _ =>
      rw [consists.cells_eq, consists'.cells_eq]
      rfl
    | insert | update | get | list => cases hshape
  | list search_asks filter_asks order_eq consists _ _ =>
    cases h' with
    | list search_asks' filter_asks' order_eq' consists' _ _ =>
      obtain ⟨horder, hpage, hlimit, hsearch, hfilter⟩ := CallShape.list.inj hshape
      rw [horder, order_eq'] at order_eq
      obtain rfl := Except.ok.inj order_eq
      have hsought := Predicate.cellsOf_groupSegments_congr .or hsearch search_asks search_asks'
      have hrequired := Predicate.cellsOf_groupSegments_congr .and hfilter filter_asks filter_asks'
      rw [consists.cells_eq, consists'.cells_eq, listSegments, listSegments]
      simp only [Predicate.filterSegments, Segment.cellsOf_append,
        Predicate.cellsOf_parenthesized, hsought, hrequired,
        cellsOf_windowSegments_congr hpage hlimit]
    | insert | update | get | delete => cases hshape

/-- Two calls of one shape that succeed are rendered with the same text: no value of a payload, no
key, no page and no limit has an influence on it. -/
theorem sql_eq_of_shapeOf_eq {call call' : Call}
    (hshape : r.shapeOf plan call = r.shapeOf plan call') (h : r.statement plan call = .ok s)
    (h' : r.statement plan call' = .ok s') : s.sql = s'.sql := by
  have hcells := cells_eq_of_binds hshape (binds_of_statement h) (binds_of_statement h')
  calc
    s.sql = .ofList (Template.number 1 s.cells) := s.sql_eq_number
    _ = .ofList (Template.number 1 s'.cells) := by rw [hcells]
    _ = s'.sql := s'.sql_eq_number.symm

/-- Two lists of members that share nothing but their shape. -/
theorem sql_eq_of_shapeOf_eq_members :
    ∃ request request' s s',
      statement ⟨.members, {}⟩ (.ofSchema .members none) (.list request none) = .ok s ∧
      statement ⟨.members, {}⟩ (.ofSchema .members none) (.list request' none) = .ok s' ∧
      s.params.map Param.display = ["%ann%", "1", "2", "5"] ∧
      s'.params.map Param.display = ["%' OR 1=1 --%", "8", "8", "100"] ∧ s.sql = s'.sql := by
  let request (name : String) (least greatest : Int) (rows : Int64) : ListRequest := {
    search := some (.object [("name", .string name)])
    filter := some (.object
      [("team", .object [("id", .object [("from", .int least), ("to", .int greatest)])])])
    limit := some rows }
  have hshape : shapeOf ⟨.members, {}⟩ (.ofSchema .members none)
      (.list (request "ann" 1 2 5) none) =
    shapeOf ⟨.members, {}⟩ (.ofSchema .members none)
      (.list (request "' OR 1=1 --" 8 8 300) none) := rfl
  have h : statement ⟨.members, {}⟩ (.ofSchema .members none)
      (.list (request "ann" 1 2 5) none) = .ok _ := rfl
  have h' : statement ⟨.members, {}⟩ (.ofSchema .members none)
      (.list (request "' OR 1=1 --" 8 8 300) none) = .ok _ := rfl
  exact ⟨request "ann" 1 2 5, request "' OR 1=1 --" 8 8 300, _, _, h, h', by decide +kernel,
    by decide +kernel, sql_eq_of_shapeOf_eq hshape h h'⟩

end Repository

end SchemaSql
