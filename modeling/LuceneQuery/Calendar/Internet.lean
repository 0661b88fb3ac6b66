import LuceneQuery.Calendar.Pattern

/-!
# Internet timestamps

The form of RFC 3339: every number at full width, a `T` or a space before the time of day, and
an offset that is never left out.
-/

namespace LuceneQuery.InternetDate

set_option autoImplicit false

def separator (text : Text) : Option Text :=
  match text with
  | 'T' :: rest | 't' :: rest | ' ' :: rest => some rest
  | _ => none

def offset : Scan.Reader Int
  | 'Z' :: rest | 'z' :: rest => some (0, rest)
  | text => Scan.offset (Scan.char ':') true text

def fields (text : Text) : Option (DateFields × Text) := do
  let (year, text) ← Scan.number 4 4 text
  let (month, text) ← Scan.number 2 2 (← Scan.char '-' text)
  let (day, text) ← Scan.number 2 2 (← Scan.char '-' text)
  let (hour, text) ← Scan.number 2 2 (← separator text)
  let (minute, text) ← Scan.number 2 2 (← Scan.char ':' text)
  let (second, text) ← Scan.number 2 2 (← Scan.char ':' text)
  let clock : DateFields := ⟨year, month, day, hour, minute, second, 0, 0, none⟩
  let (precise, text) ← DateItem.fraction.read clock text
  let (offset, text) ← offset text
  return ({ precise with offset := offset }, text)

def timestamp? (text : Text) : Option Timestamp := do
  match ← fields text with
  | (found, []) => found.timestamp?
  | _ => none

end LuceneQuery.InternetDate
