import LuceneQuery.QueryError

/-!
# Operators and exclusions

The two keywords of a query: how the clauses of a group are joined, and whether a clause must
or must not match. Both are read up to white space around them and ASCII case.
-/

namespace LuceneQuery

set_option autoImplicit false

inductive Operator where
  | and
  | or
  deriving DecidableEq, Repr

namespace Operator

def keyword : Operator → Text
  | .and => ['A', 'N', 'D']
  | .or => ['O', 'R']

def read (text : Text) : Except QueryError Operator :=
  match Text.keyword text with
  | ['a', 'n', 'd'] => .ok .and
  | ['o', 'r'] => .ok .or
  | _ => .error (.invalidOperator text)

end Operator

inductive Exclusion where
  | none
  | require
  | prohibit
  deriving DecidableEq, Repr

namespace Exclusion

def sign : Exclusion → Option Char
  | .none => Option.none
  | .require => some '+'
  | .prohibit => some '-'

def keyword : Exclusion → Text
  | .none => ['n', 'o', 'n', 'e']
  | .require => ['r', 'e', 'q', 'u', 'i', 'r', 'e']
  | .prohibit => ['p', 'r', 'o', 'h', 'i', 'b', 'i', 't']

/-- The sign and the word are both accepted; nothing at all means no exclusion. -/
def read (text : Text) : Except QueryError Exclusion :=
  let word := Text.keyword text
  if word == [] || word == keyword .none then .ok .none
  else if word == ['+'] || word == keyword .require then .ok .require
  else if word == ['-'] || word == keyword .prohibit then .ok .prohibit
  else .error (.invalidExclusion text)

end Exclusion

end LuceneQuery
