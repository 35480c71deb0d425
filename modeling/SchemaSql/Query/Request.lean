import SchemaSql.Query.Order

/-!
# Requests for lists

What a caller asks for when listing rows, as it comes in a JSON body: an object whose keys may all
be missing or null, or an array of the same parts in their order. Further keys of an object are
passed over; further elements of an array are refused.
-/

namespace SchemaSql

/-! ## Parts -/

namespace Json

def optional {α : Type} (read : Json → Option α) : Json → Option (Option α)
  | null => some none
  | v => (read v).map some

/-- The part under a key of an object, which may be missing. -/
def part {α : Type} (read : Json → Option α) (v : Json) (key : String) : Option (Option α) :=
  optional read ((v.get? key).getD null)

/-- The part at an index of an array, which may be missing. -/
def element {α : Type} (read : Json → Option α) (parts : List Json) (index : Nat) :
    Option (Option α) :=
  optional read (parts[index]?.getD null)

def string? : Json → Option String
  | string s => some s
  | _ => none

def int64? : Json → Option Int64
  | number n => n.toInt64?.map Int64.ofInt
  | _ => none

end Json

/-! ## Orders -/

namespace OrderRequest

/-- Reads an order; the parts of an array are the field and the method. -/
def read? (v : Json) : Option OrderRequest :=
  match v with
  | .object _ => do
    let field ← Json.part Json.string? v "field"
    let method ← Json.part Json.string? v "method"
    return { field, method }
  | .array parts => do
    if 2 < parts.length then none
    let field ← Json.element Json.string? parts 0
    let method ← Json.element Json.string? parts 1
    return { field, method }
  | _ => none

def optionalText (s : Option String) : Json :=
  (s.map Json.string).getD .null

def toJson (r : OrderRequest) : Json :=
  .ofMembers [("field", optionalText r.field), ("method", optionalText r.method)]

end OrderRequest

/-! ## Lists -/

structure ListRequest where
  /-- Predicates all of which have to hold. -/
  filter : Option Json := none
  /-- Predicates one of which has to hold. -/
  search : Option Json := none
  order : Option OrderRequest := none
  page : Option Int64 := none
  limit : Option Int64 := none

namespace ListRequest

/-- Reads a request; the parts of an array are the filter, the search, the order, the page and the
limit. -/
def read? (v : Json) : Option ListRequest :=
  match v with
  | .object _ => do
    let filter ← Json.part some v "filter"
    let search ← Json.part some v "search"
    let order ← Json.part OrderRequest.read? v "order"
    let page ← Json.part Json.int64? v "page"
    let limit ← Json.part Json.int64? v "limit"
    return { filter, search, order, page, limit }
  | .array parts => do
    if 5 < parts.length then none
    let filter ← Json.element some parts 0
    let search ← Json.element some parts 1
    let order ← Json.element OrderRequest.read? parts 2
    let page ← Json.element Json.int64? parts 3
    let limit ← Json.element Json.int64? parts 4
    return { filter, search, order, page, limit }
  | _ => none

def optionalInt (i : Option Int64) : Json :=
  (i.map fun i ↦ Json.int i.toInt).getD .null

def toJson (r : ListRequest) : Json :=
  .ofMembers [
    ("filter", r.filter.getD .null), ("search", r.search.getD .null),
    ("order", (r.order.map OrderRequest.toJson).getD .null), ("page", optionalInt r.page),
    ("limit", optionalInt r.limit)]

end ListRequest

end SchemaSql
