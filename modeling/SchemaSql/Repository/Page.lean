import SchemaSql.Repository.Config

/-!
# Pages

A page is a window of rows: which one, counted from one, and how many rows it has. Rows before it
are skipped; their number stays within 64 bits.
-/

namespace SchemaSql

/-- The product of two integers, or the nearest integer of 64 bits. -/
def saturatingMul (x y : Int64) : Int64 :=
  let product := x.toInt * y.toInt
  if Int64.maxValue.toInt < product then Int64.maxValue
  else if product < Int64.minValue.toInt then Int64.minValue
  else .ofInt product

structure Page where
  number : Int64
  size : Int64
deriving DecidableEq

namespace Page

/-- The page that is asked for, brought within its bounds. -/
def ofRequest (config : Config) (number size : Option Int64) : Page where
  number := max (number.getD 1) 1
  size := config.clampPage (size.getD config.defaultPage)

def offset (p : Page) : Int64 :=
  saturatingMul (p.number - 1) p.size

end Page

end SchemaSql
