/-!
# Letter case

Keywords such as `NULL`, `asc` or `true` are compared without regard to the case of the letters
`A` to `Z`; all other characters stand for themselves.
-/

namespace SchemaSql.Text

/-- The text with `A` to `Z` in lower case. -/
def lowerCase (s : String) : String :=
  String.ofList (s.toList.map Char.toLower)

def upperCase (s : String) : String :=
  String.ofList (s.toList.map Char.toUpper)

/-- Equality up to the case of the letters `A` to `Z`. -/
def sameLetters (cs ds : List Char) : Bool :=
  cs.map Char.toLower == ds.map Char.toLower

end SchemaSql.Text
