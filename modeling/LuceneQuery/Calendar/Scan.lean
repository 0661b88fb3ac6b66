import LuceneQuery.Text.Blank
import LuceneQuery.Word

/-!
# Pieces of a date text

Each reader takes one piece off the front of a text and leaves the rest.
-/

namespace LuceneQuery.Scan

set_option autoImplicit false

abbrev Reader (Piece : Type) := Text → Option (Piece × Text)

def digitValue (c : Char) : Nat := c.toNat - 48

def numberOf (spelled : Text) : Nat :=
  spelled.foldl (fun value c => 10 * value + digitValue c) 0

/-- At least `least` digits, and no more than `most` even if more follow. -/
def number (least most : Nat) : Reader Nat := fun text =>
  let spelled := (text.take most).takeWhile Char.isDigit
  if spelled.length < least || !Word.isSigned (numberOf spelled) then none
  else some (numberOf spelled, text.drop spelled.length)

def char (expected : Char) (text : Text) : Option Text :=
  match text with
  | [] => none
  | c :: rest => if c = expected then some rest else none

/-- White space that has to be there. -/
def blanks (text : Text) : Option Text :=
  match text with
  | [] => none
  | c :: rest => if Text.isBlank c then some (Text.trimStart rest) else none

/-- Nine digits of a fraction count, those after them are read over. -/
def nanosecond : Reader Nat := fun text => do
  let (value, rest) ← number 1 9 text
  let read := text.length - rest.length
  return (value * Nat.pow 10 (9 - read), rest.dropWhile Char.isDigit)

/-- Two digits and a minus or plus before them; the minus may be the mathematical one. -/
def offsetSign (allowMinusSign : Bool) : Reader Bool
  | '+' :: rest => some (false, rest)
  | '-' :: rest => some (true, rest)
  | '−' :: rest => if allowMinusSign then some (true, rest) else none
  | _ => none

/-- Hours, whatever `gap` reads, and minutes below sixty. -/
def offset (gap : Text → Option Text) (allowMinusSign : Bool) : Reader Int := fun text => do
  let (negative, afterSign) ← offsetSign allowMinusSign text
  let (hours, afterHours) ← number 2 2 afterSign
  let (minutes, rest) ← number 2 2 (← gap afterHours)
  if 59 < minutes then none
  else
    let seconds : Int := hours * 3600 + minutes * 60
    return (if negative then -seconds else seconds, rest)

/-- The place of the first name that the text starts with, ASCII case aside. -/
def nameFrom (names : List Text) : Reader Nat := fun text =>
  match names with
  | [] => none
  | name :: later =>
      if Text.lowerAscii (text.take name.length) == name then some (0, text.drop name.length)
      else (nameFrom later text).map fun (index, rest) => (index + 1, rest)

def shortMonths : List Text :=
  ["jan", "feb", "mar", "apr", "may", "jun", "jul", "aug", "sep", "oct", "nov", "dec"].map
    String.toList

/-- What the full name of a month adds to the short one. -/
def monthEndings : List Text :=
  ["uary", "ruary", "ch", "il", "", "e", "y", "ust", "tember", "ober", "ember", "ember"].map
    String.toList

def shortWeekdays : List Text :=
  ["mon", "tue", "wed", "thu", "fri", "sat", "sun"].map String.toList

def shortMonth : Reader Nat := fun text => do
  let (index, rest) ← nameFrom shortMonths text
  return (index + 1, rest)

def month : Reader Nat := fun text => do
  let (index, rest) ← nameFrom shortMonths text
  let ending := monthEndings.getD index []
  if Text.lowerAscii (rest.take ending.length) == ending then
    return (index + 1, rest.drop ending.length)
  else return (index + 1, rest)

end LuceneQuery.Scan
