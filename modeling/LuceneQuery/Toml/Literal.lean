import LuceneQuery.Text.Blank

/-!
# TOML strings

A string has four notations: on one line or over several, with escapes between double quotes or
without them between single ones. Where a string ends is found first, from its quotes alone;
what stands between them is read afterwards.
-/

namespace LuceneQuery.Toml

set_option autoImplicit false

/-- Characters that stand for themselves; of the controls only the tab does. -/
def isPlain (c : Char) : Bool := c == '\t' || (0x20 ≤ c.toNat && c.toNat != 0x7f)

def isSpace (c : Char) : Bool := c == ' ' || c == '\t'

def isQuote (c : Char) : Bool := c == '"' || c == '\''

def startsLine : Text → Bool
  | '\n' :: _ => true
  | '\r' :: '\n' :: _ => true
  | _ => false

/-- The text between the quotes, if a closing one is found, and what follows. -/
abbrev Cut := Option Text × Text

def Cut.cons (c : Char) (cut : Cut) : Cut := (cut.1.map (c :: ·), cut.2)

/-- Only strings between double quotes have escapes. -/
def startsEscape (quote c : Char) : Bool := quote == '"' && c == '\\'

/-- A string that is still open at the end of its line ends there. -/
def cutLine (quote : Char) (escaped : Bool) : Text → Cut
  | [] => (none, [])
  | c :: rest =>
      if c = '\n' then (none, c :: rest)
      else if c = quote && !escaped then (some [], rest)
      else Cut.cons c (cutLine quote (startsEscape quote c && !escaped) rest)

/-- Up to two quotes after the three closing ones still belong to the string. -/
def closeBlock (quote : Char) (text : Text) : Cut :=
  let extra := (text.take 2).takeWhile fun c => c == quote
  (some extra, text.drop extra.length)

def cutBlock (quote : Char) (escaped : Bool) : Text → Cut
  | [] => (none, [])
  | c :: rest =>
      if c = quote && !escaped && rest.take 2 == [quote, quote] then
        closeBlock quote (rest.drop 2)
      else Cut.cons c (cutBlock quote (startsEscape quote c && !escaped) rest)

def simpleEscape : Char → Option Char
  | 'b' => some '\x08'
  | 't' => some '\t'
  | 'n' => some '\n'
  | 'f' => some '\x0c'
  | 'r' => some '\r'
  | 'e' => some '\x1b'
  | '"' => some '"'
  | '\\' => some '\\'
  | _ => none

/-- How many hexadecimal digits follow the letter of a numbered escape. -/
def numberedEscape : Char → Option Nat
  | 'x' => some 2
  | 'u' => some 4
  | 'U' => some 8
  | _ => none

def hexValue (c : Char) : Option Nat :=
  if '0' ≤ c ∧ c ≤ '9' then some (c.toNat - 48)
  else if 'a' ≤ c ∧ c ≤ 'f' then some (c.toNat - 87)
  else if 'A' ≤ c ∧ c ≤ 'F' then some (c.toNat - 55)
  else none

/-- Surrogates and numbers beyond the last code point are no characters. -/
def charOf (number : Nat) : Option Char :=
  if number.isValidChar then some (Char.ofNat number) else none

/-- After a backslash: nothing but spaces up to the end of the line. -/
def endsLine (text : Text) : Bool := startsLine (text.dropWhile isSpace)

/-- A line end in a block is taken as it is written; a lone carriage return is refused. -/
def standsFor (block : Bool) (c : Char) (rest : Text) : Bool :=
  isPlain c || (block && startsLine (c :: rest))

/-- What the reader of a string with escapes is in the middle of. -/
inductive Escaping where
  | nothing
  | number (missing value : Nat)
  | lineEnd

def unescape (block : Bool) : Escaping → Text → Option Text
  | .number _ _, [] => none
  | _, [] => some []
  | .number missing value, c :: rest => do
      let digit ← hexValue c
      match missing with
      | 0 => none
      | 1 => return (← charOf (16 * value + digit)) :: (← unescape block .nothing rest)
      | missing + 1 => unescape block (.number missing (16 * value + digit)) rest
  | _, ['\\'] => none
  | _, '\\' :: c :: rest =>
      match simpleEscape c, numberedEscape c with
      | some named, _ => (unescape block .nothing rest).map (named :: ·)
      | none, some digits => unescape block (.number digits 0) rest
      | none, none =>
          if block && endsLine (c :: rest) then unescape block .lineEnd (c :: rest) else none
  | .lineEnd, c :: rest =>
      if isSpace c || startsLine (c :: rest) then unescape block .lineEnd rest
      else if isPlain c then (unescape block .nothing rest).map (c :: ·)
      else none
  | .nothing, c :: rest =>
      if standsFor block c rest then (unescape block .nothing rest).map (c :: ·) else none

def takeLiteral (block : Bool) : Text → Option Text
  | [] => some []
  | c :: rest =>
      if standsFor block c rest then (takeLiteral block rest).map (c :: ·) else none

/-- A line end right after the opening quotes of a block is no part of the string. -/
def dropLineStart : Text → Text
  | '\n' :: rest => rest
  | '\r' :: '\n' :: rest => rest
  | text => text

def readLine (quote : Char) (between : Text) : Option Text :=
  if quote = '"' then unescape false .nothing between else takeLiteral false between

def readBlock (quote : Char) (between : Text) : Option Text :=
  let content := dropLineStart between
  if quote = '"' then unescape true .nothing content else takeLiteral true content

end LuceneQuery.Toml
