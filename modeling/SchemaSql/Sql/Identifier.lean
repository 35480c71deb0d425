/-!
# SQL identifiers

The name of a table, a column or a schema: a letter or an underscore, then letters, digits,
underscores and dollar signs, all of them ASCII. Such a name holds no quote, so that quoting it
needs no escape.
-/

namespace SchemaSql

inductive IdentifierFault where
  | empty
  | badStart (c : Char) (name : String)
  | badCharacter (c : Char) (name : String)
deriving DecidableEq

namespace IdentifierFault

def message : IdentifierFault → String
  | empty => "Identifier cannot be empty"
  | badStart c name => s!"Invalid identifier start character '{c}' in '{name}'"
  | badCharacter c name => s!"Invalid character '{c}' in identifier '{name}'"

end IdentifierFault

namespace Identifier

def startsName (c : Char) : Bool :=
  c == '_' || c.isAlpha

def continuesName (c : Char) : Bool :=
  c == '_' || c == '$' || c.isAlphanum

/-- The first thing wrong with a name. -/
def fault? (name : String) : Option IdentifierFault :=
  match name.toList with
  | [] => some .empty
  | c :: cs =>
    if startsName c then (cs.find? fun d ↦ !continuesName d).map (.badCharacter · name)
    else some (.badStart c name)

end Identifier

/-- A name that needs no escape between double quotes. -/
structure Identifier where
  text : String
  faultless : Identifier.fault? text = none
deriving DecidableEq

namespace Identifier

def read (name : String) : Except IdentifierFault Identifier :=
  match h : fault? name with
  | none => .ok ⟨name, h⟩
  | some fault => .error fault

def quoted (i : Identifier) : String :=
  "\"" ++ i.text ++ "\""

/-- One identifier within another, both quoted. -/
def dotted (outer inner : Identifier) : String :=
  outer.quoted ++ "." ++ inner.quoted

theorem fault?_eq_none_iff {name : String} :
    fault? name = none ↔
      ∃ c cs, name.toList = c :: cs ∧ startsName c = true ∧ ∀ d ∈ cs, continuesName d = true := by
  unfold fault?
  cases name.toList with
  | nil => simp
  | cons c cs =>
    cases h : startsName c with
    | false => simp [h]
    | true =>
      constructor
      · intro hall
        exact ⟨c, cs, rfl, h, by simpa [h] using hall⟩
      · rintro ⟨_, _, hcons, _, hall⟩
        obtain ⟨rfl, rfl⟩ := List.cons.inj hcons
        simpa [h] using hall

end Identifier

end SchemaSql
