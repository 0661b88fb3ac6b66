import LuceneQuery.Text.Blank

/-!
# Decimals and their plain text

A decimal is a coefficient and a power of ten. Its plain text spells every place and uses no
exponent; zeros at the end of the fraction are left out, and with them the point.
-/

namespace LuceneQuery

set_option autoImplicit false

/-- The number `coefficient * 10 ^ exponent`. -/
structure Decimal where
  coefficient : Nat
  exponent : Int
  deriving DecidableEq, Repr

namespace Decimal

def digits (value : Nat) : Text := Nat.toDigits 10 value

def dropTrailingZeros (fraction : Text) : Text :=
  (fraction.reverse.dropWhile (· == '0')).reverse

/-- The digits with the point `places` from the right, at least one of them before it. -/
def pointed (places : Nat) (spelled : Text) : Text :=
  let padded := List.replicate (places + 1 - spelled.length) '0' ++ spelled
  let whole := padded.take (padded.length - places)
  match dropTrailingZeros (padded.drop (padded.length - places)) with
  | [] => whole
  | fraction => whole ++ '.' :: fraction

def plain (decimal : Decimal) : Text :=
  match decimal.exponent with
  | .ofNat zeros => digits decimal.coefficient ++ List.replicate zeros '0'
  | .negSucc places => pointed (places + 1) (digits decimal.coefficient)

def integerText : Int → Text
  | .ofNat value => digits value
  | .negSucc value => '-' :: digits (value + 1)

end Decimal

end LuceneQuery
