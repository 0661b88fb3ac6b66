import LuceneQuery.Text.Blank

/-!
# TOML values

What a TOML text denotes. Tables hold their entries in the order of their keys, by code point,
so that two texts that differ only in the order of their lines denote the same table.
-/

namespace LuceneQuery.Toml

set_option autoImplicit false

/-- Dates are recognized and not kept. A number that no reader can take, as a float beyond every
finite one, has a place among the values all the same: it counts only where it is looked at. -/
inductive Value where
  | string (content : Text)
  | integer (number : Int)
  | float (number : Float)
  | unreadable
  | boolean (flag : Bool)
  | dateTime
  | array (items : List Value)
  | table (entries : List (Text × Value))

abbrev Table := List (Text × Value)

/-- Why a text denotes no table. -/
inductive Refusal where
  | malformed
  | tooDeep
  deriving DecidableEq, Repr

abbrev Reading := Except Refusal

def Reading.ofOption {Result : Type} : Option Result → Reading Result
  | some result => .ok result
  | none => .error .malformed

/-- Neither brackets nor keys may lead deeper. -/
def depthLimit : Nat := 80

end LuceneQuery.Toml
