import LuceneQuery.Toml.Literal

/-!
# TOML tokens

A text is cut into strings, words, the marks of the grammar and the gaps between them. What a
word means is left open here: the same word can be part of a key, a number or a date.
-/

namespace LuceneQuery.Toml

set_option autoImplicit false

/-- A string that is not closed or not well spelled has no content. -/
inductive Token where
  | blank
  | newline
  | mark (sign : Char)
  | string (content : Option Text)
  | block (content : Option Text)
  | word (spelled : Text)

namespace Token

def isMark (c : Char) : Bool := ['=', ',', '[', ']', '{', '}'].contains c

/-- What ends a word, marks and spaces apart. A quote inside of a word is part of it. -/
def wordEnds : List Char := ['#', '\r', '\n']

def isWordChar (c : Char) : Bool := !isMark c && !isSpace c && !wordEnds.contains c

/-- The rest of a word. A quote after a dot starts a string. -/
def takeWord (afterDot : Bool) : Text → Text × Text
  | [] => ([], [])
  | c :: rest =>
      if isWordChar c && !(afterDot && isQuote c) then
        let (spelled, later) := takeWord (c == '.') rest
        (c :: spelled, later)
      else ([], c :: rest)

def isFullDate (spelled : Text) : Bool :=
  spelled.map (fun c => if c.isDigit then '0' else c) == "0000-00-00".toList

/-- A date and a time may stand on both sides of one space. -/
def joinTime (spelled rest : Text) : Text × Text :=
  match rest with
  | ' ' :: c :: later =>
      if isFullDate spelled && c.isDigit then
        let (time, later) := takeWord false later
        (spelled ++ ' ' :: c :: time, later)
      else (spelled, rest)
  | _ => (spelled, rest)

def ofWord (c : Char) (rest : Text) : Token × Text :=
  let (spelled, later) := takeWord (c == '.') rest
  let (spelled, later) := joinTime (c :: spelled) later
  (.word spelled, later)

def ofQuoted (quote : Char) (rest : Text) : Token × Text :=
  if rest.take 2 == [quote, quote] then
    let (between, later) := cutBlock quote false (rest.drop 2)
    (.block (between.bind (readBlock quote)), later)
  else
    let (between, later) := cutLine quote false rest
    (.string (between.bind (readLine quote)), later)

/-- A comment is a gap up to the end of its line. -/
def ofComment (rest : Text) : Option (Token × Text) :=
  let later := rest.dropWhile isPlain
  if later.isEmpty || startsLine later then some (.blank, later) else none

def first (c : Char) (rest : Text) : Option (Token × Text) :=
  if c = '\n' then some (.newline, rest)
  else if c = '\r' then
    match rest with
    | '\n' :: later => some (.newline, later)
    | _ => none
  else if isSpace c then some (.blank, rest)
  else if c = '#' then ofComment rest
  else if isMark c then some (.mark c, rest)
  else if isQuote c then some (ofQuoted c rest)
  else some (ofWord c rest)

theorem length_close_block (quote : Char) (text : Text) :
    (closeBlock quote text).2.length ≤ text.length := by
  simp [closeBlock]

theorem length_cut_line (quote : Char) (escaped : Bool) (text : Text) :
    (cutLine quote escaped text).2.length ≤ text.length := by
  fun_induction cutLine quote escaped text <;> grind [Cut.cons]

theorem length_cut_block (quote : Char) (escaped : Bool) (text : Text) :
    (cutBlock quote escaped text).2.length ≤ text.length := by
  fun_induction cutBlock quote escaped text <;> grind [Cut.cons, length_close_block]

theorem length_take_word (afterDot : Bool) (text : Text) :
    (takeWord afterDot text).2.length ≤ text.length := by
  fun_induction takeWord afterDot text <;> grind

theorem length_join_time (spelled rest : Text) :
    (joinTime spelled rest).2.length ≤ rest.length := by
  unfold joinTime
  split
  · rename_i c later
    have := length_take_word false later
    split <;> grind
  · simp

theorem length_of_word (c : Char) (rest : Text) : (ofWord c rest).2.length ≤ rest.length := by
  have word := length_take_word (c == '.') rest
  have time := length_join_time (c :: (takeWord (c == '.') rest).1) (takeWord (c == '.') rest).2
  simp only [ofWord]
  omega

theorem length_of_quoted (quote : Char) (rest : Text) :
    (ofQuoted quote rest).2.length ≤ rest.length := by
  have block := length_cut_block quote false (rest.drop 2)
  have line := length_cut_line quote false rest
  unfold ofQuoted
  split <;> grind

theorem length_first {c : Char} {rest later : Text} {token : Token}
    (read : first c rest = some (token, later)) : later.length ≤ rest.length := by
  have comment := (List.dropWhile_sublist isPlain (l := rest)).length_le
  have word := length_of_word c rest
  have quoted := length_of_quoted c rest
  unfold first at read
  grind [ofComment]

def scan : Text → Option (List Token)
  | [] => some []
  | c :: rest =>
      match _ : first c rest with
      | none => none
      | some (token, later) => (scan later).map (token :: ·)
termination_by text => text.length
decreasing_by
  have := length_first ‹_›
  simp
  omega

end Token

end LuceneQuery.Toml
