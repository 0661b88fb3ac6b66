import LuceneQuery.Toml.Literal

/-!
# Writing TOML strings

A string is written in the first of four ways that shows its characters as they are: with
double quotes or single ones, on one line or in a block. Only a string that fits none of them is
written with escapes. A block that holds line ends starts on a line of its own.
-/

namespace LuceneQuery.Toml

set_option autoImplicit false

inductive Quoting where
  | basic
  | literal
  | basicBlock
  | literalBlock
  deriving DecidableEq, Repr

namespace Quoting

/-- Controls that need an escape. The line end has a place in blocks and the tab in quotes. -/
def isControl (c : Char) : Bool := !isPlain c && c != '\n'

/-- Three quotes in a row would close a block. -/
def hasTriple (quote : Char) : Text → Bool
  | a :: b :: c :: later =>
      (a == quote && b == quote && c == quote) || hasTriple quote (b :: c :: later)
  | _ => false

/-- Whether every character of the text can stand for itself. -/
def shows (form : Quoting) (text : Text) : Bool :=
  !text.any isControl &&
    match form with
    | .basic => !text.contains '\\' && !text.contains '"' && !text.contains '\n'
    | .literal => !text.contains '\'' && !text.contains '\n'
    | .basicBlock => !text.contains '\\' && !hasTriple '"' text
    | .literalBlock => !hasTriple '\'' text

def forText (text : Text) : Quoting :=
  match [basic, literal, basicBlock, literalBlock].find? fun form => form.shows text with
  | some form => form
  | none => if text.contains '\n' then .basicBlock else .basic

def delimiter : Quoting → Text
  | .basic => ['"']
  | .literal => ['\'']
  | .basicBlock => ['"', '"', '"']
  | .literalBlock => ['\'', '\'', '\'']

def isBlock : Quoting → Bool
  | .basicBlock => true
  | .literalBlock => true
  | _ => false

end Quoting

/-- Four digits suffice, since only controls are written by their number. -/
def numbered (c : Char) : Text :=
  let digits := (Nat.toDigits 16 c.toNat).map Char.toUpper
  ['\\', 'u'] ++ List.replicate (4 - digits.length) '0' ++ digits

def escapedChar (block : Bool) (c : Char) : Text :=
  match c with
  | '\x08' => ['\\', 'b']
  | '\t' => ['\\', 't']
  | '\n' => if block then ['\n'] else ['\\', 'n']
  | '\x0c' => ['\\', 'f']
  | '\r' => ['\\', 'r']
  | '\\' => ['\\', '\\']
  | c => if isPlain c then [c] else numbered c

/-- In a block up to two quotes in a row need no escape. -/
def escaped (block : Bool) (quotes : Nat) : Text → Text
  | [] => []
  | '"' :: later =>
      if block && quotes < 2 then '"' :: escaped block (quotes + 1) later
      else '\\' :: '"' :: escaped block 0 later
  | c :: later => escapedChar block c ++ escaped block 0 later

def Quoting.content (form : Quoting) (text : Text) : Text :=
  match form with
  | .basic => escaped false 0 text
  | .basicBlock => escaped true 0 text
  | _ => text

def Quoting.write (form : Quoting) (text : Text) : Text :=
  let lineStart := if form.isBlock && text.contains '\n' then ['\n'] else []
  form.delimiter ++ lineStart ++ form.content text ++ form.delimiter

def writeString (text : Text) : Text := (Quoting.forText text).write text

def writeEntry (name : String) (text : Text) : Text :=
  name.toList ++ [' ', '=', ' '] ++ writeString text ++ ['\n']

end LuceneQuery.Toml
