import SchemaSql.Text.Shapeless

/-!
# Texts for a reader's eye

A text in double quotes in which every character can be seen: the quote and the backslash are
escaped, and a character without a shape of its own is written by its code point.
-/

namespace SchemaSql.Text

/-- The code point of a character in braces, in hexadecimal. -/
def codePoint (c : Char) : List Char :=
  '\\' :: 'u' :: '\x7b' :: (Nat.toDigits 16 c.toNat ++ ['\x7d'])

def visible (c : Char) : List Char :=
  if c = '"' then ['\\', '"']
  else if c = '\\' then ['\\', '\\']
  else if c = '\x00' then ['\\', '0']
  else if c = '\t' then ['\\', 't']
  else if c = '\n' then ['\\', 'n']
  else if c = '\r' then ['\\', 'r']
  else if isShapeless c then codePoint c
  else [c]

def quoted (s : String) : String :=
  .ofList ('"' :: (s.toList.flatMap visible ++ ['"']))

end SchemaSql.Text
