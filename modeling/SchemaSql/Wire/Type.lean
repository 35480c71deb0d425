/-!
# Types of the server

The types of columns and parameters, as a server names and numbers them. Some scalar types have an
encoding here; other types are known by name only. Enumerations, domains and arrays are built from
other types.
-/

namespace SchemaSql.Wire

/-! ## Scalar types -/

/-- The types whose values are written and read here. -/
inductive Scalar where
  | bool
  | int2
  | int4
  | int8
  | float4
  | float8
  | numeric
  | text
  | varchar
  | bpchar
  | name
  | unknown
  | json
  | jsonb
  | uuid
  | date
  | timestamp
  | timestamptz
deriving DecidableEq

/-- The name of a type with its space and its number. -/
structure TypeId where
  name : String
  space : String
  oid : Nat
deriving DecidableEq

/-- The space of the types that come with the server. -/
def builtinSpace : String := "pg_catalog"

namespace Scalar

/-- All scalar types with their names, their numbers and those of their arrays, zero for none. -/
def table : List (Scalar × String × Nat × Nat) := [
  (bool, "bool", 16, 1000), (int8, "int8", 20, 1016), (int2, "int2", 21, 1005),
  (int4, "int4", 23, 1007), (text, "text", 25, 1009), (name, "name", 19, 1003),
  (json, "json", 114, 199), (float4, "float4", 700, 1021), (float8, "float8", 701, 1022),
  (unknown, "unknown", 705, 0), (bpchar, "bpchar", 1042, 1014),
  (varchar, "varchar", 1043, 1015), (date, "date", 1082, 1182),
  (timestamp, "timestamp", 1114, 1115), (timestamptz, "timestamptz", 1184, 1185),
  (numeric, "numeric", 1700, 1231), (uuid, "uuid", 2950, 2951), (jsonb, "jsonb", 3802, 3807)]

def entry (s : Scalar) : String × Nat × Nat :=
  (table.lookup s).getD ("", 0, 0)

def id (s : Scalar) : TypeId :=
  ⟨s.entry.1, builtinSpace, s.entry.2.1⟩

/-- Whether the values are texts in UTF-8. -/
def isText : Scalar → Bool
  | text | varchar | bpchar | name | unknown => true
  | _ => false

end Scalar

/-! ## All types -/

inductive WireType where
  | scalar (s : Scalar)
  | enum (id : TypeId) (labels : List String)
  | domain (id : TypeId) (base : WireType)
  | array (id : TypeId) (element : WireType)
  | other (id : TypeId)
deriving DecidableEq

namespace WireType

def id : WireType → TypeId
  | scalar s => s.id
  | enum id _ => id
  | domain id _ => id
  | array id _ => id
  | other id => id

/-- The name for messages; the space is named unless it is a usual one. -/
def displayName (t : WireType) : String :=
  if t.id.space = "public" || t.id.space = builtinSpace then t.id.name
  else t.id.space ++ "." ++ t.id.name

/-! ## Types that come with the server -/

/-- Further types with their numbers and those of their arrays, zero for none. An array of records
is a type of its own, as records of one type need not be alike. -/
def otherTable : List (String × Nat × Nat) := [
  ("bytea", 17, 1001), ("char", 18, 1002), ("regproc", 24, 1008), ("oid", 26, 1028),
  ("tid", 27, 1010), ("xid", 28, 1011), ("cid", 29, 1012), ("pg_ddl_command", 32, 0),
  ("xml", 142, 143), ("pg_node_tree", 194, 0), ("table_am_handler", 269, 0),
  ("index_am_handler", 325, 0), ("point", 600, 1017), ("lseg", 601, 1018), ("path", 602, 1019),
  ("box", 603, 1020), ("polygon", 604, 1027), ("line", 628, 629), ("cidr", 650, 651),
  ("circle", 718, 719), ("macaddr8", 774, 775), ("money", 790, 791), ("macaddr", 829, 1040),
  ("inet", 869, 1041), ("aclitem", 1033, 1034), ("time", 1083, 1183), ("interval", 1186, 1187),
  ("timetz", 1266, 1270), ("bit", 1560, 1561), ("varbit", 1562, 1563),
  ("refcursor", 1790, 2201), ("regprocedure", 2202, 2207), ("regoper", 2203, 2208),
  ("regoperator", 2204, 2209), ("regclass", 2205, 2210), ("regtype", 2206, 2211),
  ("record", 2249, 0), ("cstring", 2275, 1263), ("any", 2276, 0), ("anyarray", 2277, 0),
  ("void", 2278, 0), ("trigger", 2279, 0), ("language_handler", 2280, 0), ("internal", 2281, 0),
  ("anyelement", 2283, 0), ("_record", 2287, 0), ("anynonarray", 2776, 0),
  ("txid_snapshot", 2970, 2949), ("fdw_handler", 3115, 0), ("pg_lsn", 3220, 3221),
  ("tsm_handler", 3310, 0), ("pg_ndistinct", 3361, 0), ("pg_dependencies", 3402, 0),
  ("anyenum", 3500, 0), ("tsvector", 3614, 3643), ("tsquery", 3615, 3645),
  ("gtsvector", 3642, 3644), ("regconfig", 3734, 3735), ("regdictionary", 3769, 3770),
  ("anyrange", 3831, 0), ("event_trigger", 3838, 0), ("int4range", 3904, 3905),
  ("numrange", 3906, 3907), ("tsrange", 3908, 3909), ("tstzrange", 3910, 3911),
  ("daterange", 3912, 3913), ("int8range", 3926, 3927), ("jsonpath", 4072, 4073),
  ("regnamespace", 4089, 4090), ("regrole", 4096, 4097), ("regcollation", 4191, 4192),
  ("int4multirange", 4451, 6150), ("nummultirange", 4532, 6151), ("tsmultirange", 4533, 6152),
  ("tstzmultirange", 4534, 6153), ("datemultirange", 4535, 6155),
  ("int8multirange", 4536, 6157), ("anymultirange", 4537, 0),
  ("anycompatiblemultirange", 4538, 0), ("pg_brin_bloom_summary", 4600, 0),
  ("pg_brin_minmax_multi_summary", 4601, 0), ("pg_mcv_list", 5017, 0),
  ("pg_snapshot", 5038, 5039), ("xid8", 5069, 271), ("anycompatible", 5077, 0),
  ("anycompatiblearray", 5078, 0), ("anycompatiblenonarray", 5079, 0),
  ("anycompatiblerange", 5080, 0)]

/-- The arrays whose elements are counted from zero, with the types of their elements, their
numbers and those of their arrays. -/
def vectorTable : List (String × WireType × Nat × Nat) := [
  ("int2vector", .scalar .int2, 22, 1006),
  ("oidvector", .other ⟨"oid", builtinSpace, 26⟩, 30, 1013)]

/-- A type that is no array of another one by its name, and the number of its array. -/
def baseOfName? (name : String) : Option (WireType × Nat) :=
  match Scalar.table.find? fun (_, n, _) ↦ n == name with
  | some (s, _, _, arrayOid) => some (.scalar s, arrayOid)
  | none =>
    match otherTable.lookup name with
    | some (oid, arrayOid) => some (.other ⟨name, builtinSpace, oid⟩, arrayOid)
    | none =>
      (vectorTable.lookup name).map fun (element, oid, arrayOid) ↦
        (.array ⟨name, builtinSpace, oid⟩ element, arrayOid)

def arrayOfName? (name : String) : Option WireType :=
  match baseOfName? ("_" ++ name) with
  | some (t, _) => some t
  | none => do
    let (element, oid) ← baseOfName? name
    if oid = 0 then none else return .array ⟨"_" ++ name, builtinSpace, oid⟩ element

/-- A type that comes with the server. The name of an array is that of its elements after an
underscore, or before a pair of brackets. -/
def ofName? (name : String) : Option WireType :=
  match "[]".toList.isSuffixOf? name.toList with
  | some element => arrayOfName? (.ofList element)
  | none =>
    match baseOfName? name with
    | some (t, _) => some t
    | none => ("_".toList.isPrefixOf? name.toList).bind fun element ↦ arrayOfName? (.ofList element)

/-- The index of the first element of an array. -/
def firstIndex (array : TypeId) : Nat :=
  if array.oid = 22 || array.oid = 30 then 0 else 1

end WireType

end SchemaSql.Wire
