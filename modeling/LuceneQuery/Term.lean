import LuceneQuery.Decoration

/-!
# Terms

A word or a phrase, with an optional fuzziness: an edit distance for a word, a proximity for a
phrase.
-/

namespace LuceneQuery

set_option autoImplicit false

/-- A blank value is still a value: only a term that never got one is empty. -/
structure Term where
  value : Option Text
  fuzziness : Option Weight
  decoration : Decoration

namespace Term

def unset : Term := ⟨none, none, .plain⟩

instance : Decorated Term where
  decoration := decoration
  redecorate term decoration := { term with decoration := decoration }
  decoration_redecorate _ _ := rfl
  redecorate_decoration _ := rfl

def setValue (term : Term) (value : Text) : Term :=
  { term with value := some (Text.trim value) }

def ofText (value : Text) : Term := unset.setValue value

def setFuzziness (term : Term) : Option Float → Change Term
  | none => .made { term with fuzziness := none }
  | some given =>
      match Weight.ofFloat? given with
      | some weight => .made { term with fuzziness := some weight }
      | none => .refused (.invalidFuzziness given) term

def isEmpty (term : Term) : Bool := term.value.isNone

def fuzzinessText (term : Term) : Text :=
  match term.fuzziness with
  | none => []
  | some weight => '~' :: weight.text

def content (term : Term) : Text :=
  match term.value with
  | none => []
  | some value =>
      match escapeToken (Text.trim value) with
      | [] => []
      | token => token ++ term.fuzzinessText

def render (term : Term) : Text := term.decoration.apply term.content

end Term

end LuceneQuery
