import LuceneQuery.Text.Printable

/-!
# Quoted texts

A text between double quotes on one line: quotes and backslashes are escaped, the common
controls have a letter each, and every other character that does not stand alone in print is
written by its number in braces.
-/

namespace LuceneQuery.Text

set_option autoImplicit false

/-- The number in lower-case hexadecimal without leading zeros. -/
def hexadecimal (value : Nat) : Text := Nat.toDigits 16 value

def quotedChar (c : Char) : Text :=
  match c with
  | '\x00' => ['\\', '0']
  | '\t' => ['\\', 't']
  | '\r' => ['\\', 'r']
  | '\n' => ['\\', 'n']
  | '"' => ['\\', '"']
  | '\\' => ['\\', '\\']
  | c =>
      if isPrintable c && !isExtending c then [c]
      else ['\\', 'u', '{'] ++ hexadecimal c.toNat ++ ['}']

def quoted (text : Text) : Text := '"' :: text.flatMap quotedChar ++ ['"']

end LuceneQuery.Text
