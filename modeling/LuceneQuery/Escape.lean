import LuceneQuery.Text.Blank

/-!
# Escaping a token

Text from a caller enters a query as one token. Every reserved character gets a backslash, and
a token that had one, or holds a space, is put between double quotes.
-/

namespace LuceneQuery

set_option autoImplicit false

def reservedChars : List Char :=
  ['+', '-', '&', '|', '!', '(', ')', '{', '}', '[', ']', '^', '"', '~', '*', '?', ':', '\\']

def isReserved (c : Char) : Bool := reservedChars.contains c

def escapeChar (c : Char) : Text := if isReserved c then ['\\', c] else [c]

/-- Only the plain space counts here: other white space is left bare. -/
def needsQuotes (token : Text) : Bool := token.any fun c => isReserved c || c == ' '

def escape (token : Text) (force : Bool) : Text :=
  let escaped := token.flatMap escapeChar
  if force || needsQuotes token then '"' :: escaped ++ ['"'] else escaped

def escapeToken (token : Text) : Text := escape token false

end LuceneQuery
