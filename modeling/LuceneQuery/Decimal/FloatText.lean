import LuceneQuery.Decimal.Shortest

/-!
# The text of a float

Shortest digits in plain notation. Zero keeps its sign; what is no number is spelled `NaN`,
whatever its sign.
-/

namespace LuceneQuery.Decimal

set_option autoImplicit false

open Float.Model

def signText : UnpackedFloat.Sign → Text
  | .positive => []
  | .negative => ['-']

def unpackedText : UnpackedFloat → Text
  | .notANumber => ['N', 'a', 'N']
  | .infinity sign => signText sign ++ ['i', 'n', 'f']
  | .zero sign => signText sign ++ ['0']
  | .finite sign mantissa exponent _ =>
      signText sign ++ (Interval.ofBinary mantissa exponent).shortest.plain

def floatText (value : Float) : Text := unpackedText value.toModel.unpack

end LuceneQuery.Decimal
