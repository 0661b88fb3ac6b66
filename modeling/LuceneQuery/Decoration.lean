import LuceneQuery.Change
import LuceneQuery.Escape
import LuceneQuery.Operator

/-!
# Decorations

What every clause carries beside its own content: the field it applies to, its exclusion and
its boost. Written, they stand in the order sign, field, content, boost; a clause with a sign
shows no boost, and blank content shows nothing at all.
-/

namespace LuceneQuery

set_option autoImplicit false

/-- Finite and not below zero. Negative zero is not below zero. -/
def isWeight (value : Float) : Bool := value.isFinite && !(value < 0)

structure Weight where
  value : Float
  accepted : isWeight value = true

namespace Weight

def zero : Weight := ⟨0, by decide⟩

def ofFloat? (value : Float) : Option Weight :=
  if accepted : isWeight value = true then some ⟨value, accepted⟩ else none

def isPositive (weight : Weight) : Bool := 0 < weight.value

def text (weight : Weight) : Text := Decimal.floatText weight.value

end Weight

/-- An empty field means the search engine's own default, and a boost of zero means none. -/
structure Decoration where
  field : Text
  exclusion : Exclusion
  boost : Weight

namespace Decoration

def plain : Decoration := ⟨[], .none, .zero⟩

def withField (decoration : Decoration) (field : Text) : Decoration :=
  { decoration with field := field }

def withExclusion (decoration : Decoration) (exclusion : Exclusion) : Decoration :=
  { decoration with exclusion := exclusion }

def withBoost (decoration : Decoration) (boost : Float) : Change Decoration :=
  match Weight.ofFloat? boost with
  | some weight => .made { decoration with boost := weight }
  | none => .refused (.invalidBoost boost) decoration

def signText (decoration : Decoration) : Text := decoration.exclusion.sign.toList

def fieldText (decoration : Decoration) : Text :=
  if decoration.field.isEmpty then [] else escapeToken decoration.field ++ [':']

def boostText (decoration : Decoration) : Text :=
  if decoration.exclusion = .none ∧ decoration.boost.isPositive = true then
    '^' :: decoration.boost.text
  else []

/-- The content is trimmed first, and a clause without content leaves no sign behind. -/
def apply (decoration : Decoration) (content : Text) : Text :=
  match Text.trim content with
  | [] => []
  | trimmed => decoration.signText ++ decoration.fieldText ++ trimmed ++ decoration.boostText

end Decoration

/-- A kind of clause that holds a decoration beside its content. A decoration that is put in is
found again, and putting back the one that is found changes nothing. -/
class Decorated (Clause : Type) where
  decoration : Clause → Decoration
  redecorate : Clause → Decoration → Clause
  decoration_redecorate : ∀ clause given, decoration (redecorate clause given) = given
  redecorate_decoration : ∀ clause, redecorate clause (decoration clause) = clause

namespace Decorated

variable {Clause : Type} [Decorated Clause]

def setField (clause : Clause) (field : Text) : Clause :=
  redecorate clause ((decoration clause).withField field)

def setExclusion (clause : Clause) (exclusion : Exclusion) : Clause :=
  redecorate clause ((decoration clause).withExclusion exclusion)

def setBoost (clause : Clause) (boost : Float) : Change Clause :=
  ((decoration clause).withBoost boost).map (redecorate clause)

end Decorated

end LuceneQuery
