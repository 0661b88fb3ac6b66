import LuceneQuery.Toml.Token
import LuceneQuery.Toml.Value

/-!
# TOML keys

A key is a path of names with dots between them. A name is bare or a string on one line, and
white space may stand around the dots but not inside of a bare name.
-/

namespace LuceneQuery.Toml

set_option autoImplicit false

/-- A path of names that is never empty: the table that it leads to, and the name in it. -/
structure Key where
  path : List Text
  name : Text

/-- A key with its names and dots in place. What is written where a name belongs can still be
none, as a bare name with other characters or a string that is not well spelled. -/
structure KeyForm where
  path : List (Option Text)
  name : Option Text

namespace KeyForm

inductive Piece where
  | dot
  | name (spelled : Option Text)

def isBare (c : Char) : Bool := c.isAlphanum || c == '_' || c == '-'

def bareName (spelled : Text) : Option Text := if spelled.all isBare then some spelled else none

/-- A word between dots of its own. -/
def piecesOfWord (word : Text) : List Piece :=
  ((word.splitOn '.').map fun part =>
    if part.isEmpty then [] else [Piece.name (bareName part)]).intersperse [Piece.dot] |>.flatten

def piecesOf : Token → Option (List Piece)
  | .blank => some []
  | .string content => some [.name content]
  | .block _ => some [.name none]
  | .word spelled => some (piecesOfWord spelled)
  | _ => none

def ofPieces : List Piece → Option KeyForm
  | [.name last] => some ⟨[], last⟩
  | .name first :: .dot :: later =>
      (ofPieces later).map fun key => { key with path := first :: key.path }
  | _ => none

def ofTokens? (tokens : List Token) : Option KeyForm := do
  ofPieces (← tokens.mapM piecesOf).flatten

/-- The names are read before they are counted. -/
def key (form : KeyForm) : Reading Key :=
  match form.path.mapM id, form.name with
  | some path, some name =>
      if path.length < depthLimit then .ok ⟨path, name⟩ else .error .tooDeep
  | _, _ => .error .malformed

end KeyForm

end LuceneQuery.Toml
