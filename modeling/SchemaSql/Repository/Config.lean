import SchemaSql.Repository.Log

/-!
# Configuration

Settings that all operations on a table share.
-/

namespace SchemaSql

structure Config where
  /-- The space of tables that have none of their own. -/
  space : Option Identifier := none
  /-- The greatest page that a caller may ask for. -/
  greatestPage : Int64 := 100
  /-- The size of a page when the caller does not say. -/
  defaultPage : Int64 := 100
  log : LogConfig := {}

namespace Config

def withSpace (c : Config) (name : String) : Except Error Config :=
  match Identifier.read name with
  | .ok space => .ok { c with space := some space }
  | .error fault => .error (.schema (.identifier fault))

/-- Sets the greatest page, which has at least one row. -/
def withGreatestPage (c : Config) (size : Int64) : Config :=
  { c with greatestPage := max size 1 }

/-- Sets the usual page, which has at least one row. -/
def withDefaultPage (c : Config) (size : Int64) : Config :=
  { c with defaultPage := max size 1 }

/-- The greatest page as it counts, whatever was set. -/
def pageBound (c : Config) : Int64 :=
  max c.greatestPage 1

def clampPage (c : Config) (size : Int64) : Int64 :=
  max 1 (min size c.pageBound)

end Config

end SchemaSql
