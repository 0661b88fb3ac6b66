import LuceneQuery.Calendar.Pattern

/-!
# Mail dates

The form of RFC 2822, `Mon, 15 Jan 2024 10:30:00 +0000`. The weekday and the seconds may be left
out, years may have two digits, zones may have letters, and comments in parentheses may follow.
-/

namespace LuceneQuery.MailDate

set_option autoImplicit false

/-- A weekday has to have its comma; a text without one starts with the day. -/
def weekday (text : Text) : Option (Option Nat × Text) :=
  match Scan.nameFrom Scan.shortWeekdays text with
  | none => some (none, text)
  | some (value, rest) => (Scan.char ',' rest).map fun later => (some value, later)

/-- Two digits mean 1950 to 2049, three count from 1900. -/
def fullYear (width value : Nat) : Nat :=
  if width = 2 then (if value < 50 then value + 2000 else value + 1900)
  else if width = 3 then value + 1900
  else value

def year : Scan.Reader Nat := fun text => do
  let (value, rest) ← Scan.number 2 (max 2 text.length) text
  return (fullYear (text.length - rest.length) value, rest)

def seconds (text : Text) : Option (Nat × Text) :=
  match Scan.char ':' (Text.trimStart text) with
  | none => some (0, text)
  | some rest => Scan.number 2 2 rest

/-- Zones by name, in hours. -/
def namedZones : List (Text × Int) :=
  [("gmt".toList, 0), ("ut".toList, 0), ("edt".toList, -4), ("est".toList, -5),
   ("cdt".toList, -5), ("cst".toList, -6), ("mdt".toList, -6), ("mst".toList, -7),
   ("pdt".toList, -7), ("pst".toList, -8)]

/-- A single letter other than `j` is a military zone, which says nothing about the offset. -/
def zone (text : Text) : Option (Int × Text) :=
  let name := Text.lowerAscii (text.takeWhile Char.isAlpha)
  let rest := text.dropWhile Char.isAlpha
  if name.isEmpty then Scan.offset some false text
  else
    match namedZones.find? fun entry => entry.1 == name with
    | some (_, hours) => some (hours * 3600, rest)
    | none => if name.length = 1 && name != ['j'] then some (0, rest) else none

/-- Nothing but comments, each with white space before it or not. `depth` parentheses are open. -/
def isComments : Nat → Text → Bool
  | 0, [] => true
  | 0, c :: rest =>
      if c = '(' then isComments 1 rest
      else Text.isBlank c && !rest.isEmpty && isComments 0 rest
  | _ + 1, [] => false
  | depth + 1, '\\' :: rest =>
      match rest with
      | [] => false
      | _ :: later => isComments (depth + 1) later
  | depth + 1, c :: rest =>
      if c = '(' then isComments (depth + 2) rest
      else if c = ')' then isComments depth rest
      else isComments (depth + 1) rest

def timestamp? (text : Text) : Option Timestamp := do
  let (weekday, text) ← weekday (Text.trimStart text)
  let (day, text) ← Scan.number 1 2 (Text.trimStart text)
  let (month, text) ← Scan.shortMonth (← Scan.blanks text)
  let (year, text) ← year (← Scan.blanks text)
  let (hour, text) ← Scan.number 2 2 (← Scan.blanks text)
  let (minute, text) ←
    Scan.number 2 2 (Text.trimStart (← Scan.char ':' (Text.trimStart text)))
  let (second, text) ← seconds text
  let (offset, text) ← zone (← Scan.blanks text)
  if isComments 0 text then
    DateFields.timestamp? ⟨year, month, day, hour, minute, second, 0, offset, weekday⟩
  else none

end LuceneQuery.MailDate
