import LuceneQuery.Calendar.Fields
import LuceneQuery.Calendar.Scan

/-!
# Date patterns

A pattern is a list of items, each of which reads one piece of a date text into its field. Dates
written the same way share a pattern, and a text fits it when every item reads and nothing is
left over.
-/

namespace LuceneQuery

set_option autoImplicit false

inductive DateItem where
  | year
  | month
  | monthName
  | day
  | hour
  | minute
  | second
  | fraction
  | offset
  | blank
  | literal (expected : Char)

namespace DateItem

/-- With a sign a year has any number of digits, without one at most four. -/
def readYear : Scan.Reader Int
  | '-' :: rest => (Scan.number 1 rest.length rest).map fun (value, later) => (-value, later)
  | '+' :: rest => (Scan.number 1 rest.length rest).map fun (value, later) => (value, later)
  | text => (Scan.number 1 4 text).map fun (value, later) => (value, later)

def colonOrBlank (c : Char) : Bool := c == ':' || Text.isBlank c

/-- White space is read over in front of every number. -/
def read (item : DateItem) (fields : DateFields) (text : Text) : Option (DateFields × Text) :=
  match item with
  | .year => do
      let (value, rest) ← readYear (Text.trimStart text)
      return ({ fields with year := value }, rest)
  | .month => do
      let (value, rest) ← Scan.number 1 2 (Text.trimStart text)
      return ({ fields with month := value }, rest)
  | .monthName => do
      let (value, rest) ← Scan.month text
      return ({ fields with month := value }, rest)
  | .day => do
      let (value, rest) ← Scan.number 1 2 (Text.trimStart text)
      return ({ fields with day := value }, rest)
  | .hour => do
      let (value, rest) ← Scan.number 1 2 (Text.trimStart text)
      return ({ fields with hour := value }, rest)
  | .minute => do
      let (value, rest) ← Scan.number 1 2 (Text.trimStart text)
      return ({ fields with minute := value }, rest)
  | .second => do
      let (value, rest) ← Scan.number 1 2 (Text.trimStart text)
      return ({ fields with second := value }, rest)
  | .fraction =>
      match text with
      | '.' :: digits => do
          let (value, rest) ← Scan.nanosecond digits
          return ({ fields with nanosecond := value }, rest)
      | _ => some (fields, text)
  | .offset => do
      let gap := fun rest : Text => some (rest.dropWhile colonOrBlank)
      let (value, rest) ← Scan.offset gap true (Text.trimStart text)
      return ({ fields with offset := value }, rest)
  | .blank => some (fields, Text.trimStart text)
  | .literal expected => do return (fields, ← Scan.char expected text)

end DateItem

namespace DatePattern

open DateItem

def read (fields : DateFields) : List DateItem → Text → Option DateFields
  | [], [] => some fields
  | [], _ :: _ => none
  | item :: later, text => do
      let (filled, rest) ← item.read fields text
      read filled later rest

def timestamp? (pattern : List DateItem) (text : Text) : Option Timestamp := do
  (← read .unread pattern text).timestamp?

/-- Year, month and day as numbers with the same mark between them. -/
def numericDate (mark : Char) : List DateItem :=
  [.year, .literal mark, .month, .literal mark, .day]

def clock : List DateItem := [.hour, .literal ':', .minute]

def fullClock : List DateItem := clock ++ [.literal ':', .second]

def zoned : List (List DateItem) :=
  [numericDate '-' ++ .literal 'T' :: fullClock ++ [.offset],
   numericDate '-' ++ .blank :: fullClock ++ [.offset],
   numericDate '-' ++ .blank :: fullClock ++ [.blank, .offset]]

def unzoned : List (List DateItem) :=
  [numericDate '-' ++ .literal 'T' :: fullClock ++ [.fraction],
   numericDate '-' ++ .literal 'T' :: fullClock,
   numericDate '-' ++ .blank :: fullClock ++ [.fraction],
   numericDate '-' ++ .blank :: fullClock,
   numericDate '-' ++ .literal 'T' :: clock,
   numericDate '-' ++ .blank :: clock]

def dateOnly : List (List DateItem) :=
  [numericDate '-',
   numericDate '/',
   [.day, .blank, .monthName, .blank, .year],
   [.monthName, .blank, .day, .literal ',', .blank, .year]]

end DatePattern

end LuceneQuery
