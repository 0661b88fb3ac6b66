/-!
# Texts and their white space

A text is the list of its characters: reading and writing are recursions on it, and the laws
are stated on it. White space is the Unicode property of that name, which is larger than the
class that `Char.isWhitespace` tests.
-/

namespace LuceneQuery

set_option autoImplicit false

abbrev Text := List Char

namespace Text

/-- The 25 characters of Unicode's `White_Space`. -/
def isBlank (c : Char) : Bool :=
  (0x09 ≤ c.toNat && c.toNat ≤ 0x0d) || c.toNat == 0x20 || c.toNat == 0x85 || c.toNat == 0xa0 ||
    c.toNat == 0x1680 || (0x2000 ≤ c.toNat && c.toNat ≤ 0x200a) || c.toNat == 0x2028 ||
    c.toNat == 0x2029 || c.toNat == 0x202f || c.toNat == 0x205f || c.toNat == 0x3000

def trimStart (text : Text) : Text := text.dropWhile isBlank

def trimEnd (text : Text) : Text := (text.reverse.dropWhile isBlank).reverse

def trim (text : Text) : Text := trimEnd (trimStart text)

/-- Capital letters are folded within ASCII only; every other character stays. -/
def lowerAscii (text : Text) : Text := text.map Char.toLower

/-- A keyword is read up to white space around it and ASCII case. -/
def keyword (text : Text) : Text := lowerAscii (trim text)

end Text

end LuceneQuery
