import LuceneQuery.Decimal.FloatText

/-!
# What a query refuses

The arguments that a setter or a keyword reader does not accept, each kept as it was given.
-/

namespace LuceneQuery

set_option autoImplicit false

inductive QueryError where
  | invalidBoost (given : Float)
  | invalidFuzziness (given : Float)
  | invalidExclusion (given : Text)
  | invalidOperator (given : Text)

namespace QueryError

def message : QueryError → String
  | .invalidBoost given =>
      "invalid boost " ++ String.ofList (Decimal.floatText given) ++
        ": boost must be a finite positive number or 0 to unset"
  | .invalidFuzziness given =>
      "invalid fuzziness " ++ String.ofList (Decimal.floatText given) ++
        ": fuzziness must be a finite positive number"
  | .invalidExclusion given =>
      "invalid exclusion '" ++ String.ofList given ++
        "': expected '+', '-', 'require', 'prohibit' or empty"
  | .invalidOperator given =>
      "invalid operator '" ++ String.ofList given ++ "': expected AND or OR"

/-- The text is compared as it was given: white space around it hides the hint. -/
def suggestion : QueryError → Option String
  | .invalidBoost _ => some "Use 0 to leave a clause unboosted"
  | .invalidOperator given =>
      if Text.lowerAscii given == ['n', 'o', 't'] then
        some "Negate a clause with a prohibit exclusion instead of a NOT operator"
      else none
  | _ => none

end QueryError

end LuceneQuery
