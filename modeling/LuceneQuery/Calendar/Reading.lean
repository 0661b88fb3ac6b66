import LuceneQuery.Calendar.Internet
import LuceneQuery.Calendar.Mail

/-!
# Reading a date

A date text is tried in one form after the other; the first that reads it decides. `@` and a
number is a count of seconds from the epoch, and no other form is tried after it.

Relative words are not dates: they mean an instant only beside a clock.
-/

namespace LuceneQuery

set_option autoImplicit false

namespace Timestamp

/-- Digits with an optional sign, within the signed words of 64 bits. -/
def readWord (text : Text) : Option Int := do
  let (negative, spelled) :=
    match text with
    | '-' :: rest => (true, rest)
    | '+' :: rest => (false, rest)
    | _ => (false, text)
  if spelled.isEmpty || !spelled.all Char.isDigit then none
  else
    let magnitude : Int := Scan.numberOf spelled
    let value := if negative then -magnitude else magnitude
    if Word.isSigned value then some value else none

def readForms (text : Text) : Option Timestamp :=
  (InternetDate.timestamp? text).or <|
    (MailDate.timestamp? text).or <|
      (DatePattern.zoned ++ DatePattern.unzoned ++ DatePattern.dateOnly).findSome?
        fun pattern => DatePattern.timestamp? pattern text

def read (text : Text) : Option Timestamp :=
  match Text.trim text with
  | [] => none
  | '@' :: rest => do ofEpoch? (← readWord (Text.trim rest))
  | trimmed => readForms trimmed

/-- The start of the day of an instant, at offset zero. -/
def midnight (now : Timestamp) : Timestamp := ⟨now.second / 86400 * 86400, 0, 0⟩

def shiftDays (timestamp : Timestamp) (days : Int) : Timestamp :=
  { timestamp with second := timestamp.second + days * 86400 }

/-- The words that mean an instant beside the clock reading `now`. -/
def ofRelativeWord (now : Timestamp) (text : Text) : Option Timestamp :=
  match Text.keyword text with
  | ['n', 'o', 'w'] => some now
  | ['t', 'o', 'd', 'a', 'y'] => some now.midnight
  | ['y', 'e', 's', 't', 'e', 'r', 'd', 'a', 'y'] => some (now.midnight.shiftDays (-1))
  | ['t', 'o', 'm', 'o', 'r', 'r', 'o', 'w'] => some (now.midnight.shiftDays 1)
  | _ => none

end Timestamp

end LuceneQuery
