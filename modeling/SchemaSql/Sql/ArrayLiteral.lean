import SchemaSql.Text.Blank
import SchemaSql.Text.Case

/-!
# Array literals

The text of a one-dimensional array: elements between braces, a comma between two of them. An
absent element is the bare word `NULL`; an element that could be mistaken for something else
stands in double quotes, where a backslash takes the next character as it is.
-/

namespace SchemaSql

namespace ArrayLiteral

/-! ## Writing -/

def opening : Char := '\x7b'
def closing : Char := '\x7d'

def absentWord : List Char :=
  "NULL".toList

def needsQuoting (c : Char) : Bool :=
  c == ',' || c == opening || c == closing || c == '"' || c == '\\' || Text.isBlank c

def isQuoted (element : List Char) : Bool :=
  element.isEmpty || Text.sameLetters element absentWord || element.any needsQuoting

def escape (c : Char) : List Char :=
  if c == '"' || c == '\\' then ['\\', c] else [c]

def writeElement : Option String → List Char
  | none => absentWord
  | some s =>
    if isQuoted s.toList then '"' :: (s.toList.flatMap escape ++ ['"']) else s.toList

def writeElements : List (Option String) → List Char
  | [] => []
  | [e] => writeElement e
  | e :: f :: es => writeElement e ++ ',' :: writeElements (f :: es)

def write (elements : List (Option String)) : String :=
  .ofList (opening :: (writeElements elements ++ [closing]))

/-! ## Reading -/

def isComma (c : Char) : Bool :=
  c == ','

def beforeComma (cs : List Char) : List Char :=
  cs.takeWhile fun c ↦ !isComma c

def fromComma (cs : List Char) : List Char :=
  cs.dropWhile fun c ↦ !isComma c

/-- The body of a quoted element up to its closing quote. -/
def readQuoted : List Char → Option (List Char × List Char)
  | [] => none
  | '"' :: cs => some ([], cs)
  | '\\' :: c :: cs => (readQuoted cs).map fun (s, r) ↦ (c :: s, r)
  | c :: cs => if c = '\\' then none else (readQuoted cs).map fun (s, r) ↦ (c :: s, r)

/-- The element that a run of characters without quotes stands for. -/
def bareElement (run : List Char) : Option String :=
  if Text.sameLetters run absentWord then none else some (.ofList run)

/-- One element, and what is left from its comma on. -/
def readElement (cs : List Char) : Option (Option String × List Char) :=
  match Text.trimStart cs with
  | '"' :: body => (readQuoted body).map fun (s, r) ↦ (some (.ofList s), fromComma r)
  | run => some (bareElement (Text.trimEnd (beforeComma run)), fromComma run)

theorem readQuoted_flatMap_escape (s rest : List Char) :
    readQuoted (s.flatMap escape ++ '"' :: rest) = some (s, rest) := by
  induction s with
  | nil => rfl
  | cons c s ih =>
    rw [List.flatMap_cons, List.append_assoc]
    by_cases hquote : c = '"'
    · subst hquote
      simp [escape, readQuoted, ih]
    · by_cases hback : c = '\\'
      · subst hback
        simp [escape, readQuoted, ih]
      · simp [escape, readQuoted, hquote, hback, ih]

theorem length_fromComma_le (cs : List Char) : (fromComma cs).length ≤ cs.length := by
  simpa [fromComma] using (List.dropWhile_sublist _).length_le

theorem length_rest_of_readQuoted {cs s r : List Char} (h : readQuoted cs = some (s, r)) :
    r.length < cs.length := by
  fun_induction readQuoted cs generalizing s r with
  | case1 => simp at h
  | case2 => simp_all
  | case3 c cs ih =>
    obtain ⟨⟨t, u⟩, ht, heq⟩ := Option.map_eq_some_iff.1 h
    have := ih ht
    simp_all only [Prod.mk.injEq, List.length_cons]
    omega
  | case4 => simp at h
  | case5 c cs _ _ _ ih =>
    obtain ⟨⟨t, u⟩, ht, heq⟩ := Option.map_eq_some_iff.1 h
    have := ih ht
    simp_all only [Prod.mk.injEq, List.length_cons]
    omega

theorem length_rest_of_readElement {cs r : List Char} {e : Option String}
    (h : readElement cs = some (e, r)) : r.length ≤ cs.length := by
  have hcs : (Text.trimStart cs).length ≤ cs.length := (List.dropWhile_sublist _).length_le
  unfold readElement at h
  split at h
  · rename_i body heq
    obtain ⟨⟨s, t⟩, ht, hpair⟩ := Option.map_eq_some_iff.1 h
    have hrest := length_rest_of_readQuoted ht
    have hcomma := length_fromComma_le t
    simp only [Prod.mk.injEq] at hpair
    rw [← hpair.2]
    rw [heq, List.length_cons] at hcs
    omega
  · have hcomma := length_fromComma_le (Text.trimStart cs)
    simp only [Option.some.injEq, Prod.mk.injEq] at h
    rw [← h.2]
    omega

/-- Elements up to the end of the text. A comma is always followed by an element, which may be
empty. -/
def readElements (cs : List Char) : Option (List (Option String)) :=
  match _found : readElement cs with
  | none => none
  | some (e, []) => some [e]
  | some (e, _ :: r) => (readElements r).map (e :: ·)
termination_by cs.length
decreasing_by
  have := length_rest_of_readElement _found
  simp only [List.length_cons] at this
  omega

def inner? (text : String) : Option (List Char) :=
  match Text.trimBoth text.toList with
  | [] => none
  | c :: cs =>
    if c = opening && cs.getLast? = some closing then some cs.dropLast else none

def read? (text : String) : Option (List (Option String)) := do
  let cs ← inner? text
  if (Text.trimBoth cs).isEmpty then return [] else readElements cs

end ArrayLiteral

end SchemaSql
