import LuceneQuery.Calendar.Date
import LuceneQuery.Decimal

/-!
# Timestamps

An instant and the offset at which it is shown. The instant is a count of seconds from the
epoch; a leap second is the second before it with a billion nanoseconds more.

Timestamps are written as `2024-01-15T00:00:00+0000`.
-/

namespace LuceneQuery

set_option autoImplicit false

structure Timestamp where
  second : Int
  nanosecond : Nat
  offset : Int
  deriving DecidableEq, Repr

namespace Timestamp

def leastYear : Int := -262143

def greatestYear : Int := 262142

/-- The seconds of the years above, taken at offset zero. -/
def leastSecond : Int := Date.toDayNumber ⟨leastYear, 1, 1⟩ * 86400

def greatestSecond : Int := Date.toDayNumber ⟨greatestYear, 12, 31⟩ * 86400 + 86399

def inRange (second : Int) : Bool := leastSecond ≤ second && second ≤ greatestSecond

def ofEpoch? (second : Int) : Option Timestamp :=
  if inRange second then some ⟨second, 0, 0⟩ else none

def localSecond (timestamp : Timestamp) : Int := timestamp.second + timestamp.offset

/-- Digits with zeros before them up to the width. -/
def padded (width value : Nat) : Text :=
  let spelled := Decimal.digits value
  List.replicate (width - spelled.length) '0' ++ spelled

/-- Years of four digits stand alone; all others have a sign. -/
def yearText (year : Int) : Text :=
  if year < 0 then '-' :: padded 4 year.natAbs
  else if 9999 < year then '+' :: padded 4 year.natAbs
  else padded 4 year.natAbs

/-- Hours and minutes; seconds of an offset are rounded, a half away from zero. -/
def offsetText (offset : Int) : Text :=
  let minutes := (offset.natAbs + 30) / 60
  (if offset < 0 then '-' else '+') :: padded 2 (minutes / 60) ++ padded 2 (minutes % 60)

def dateText (date : Date) : Text :=
  yearText date.year ++ '-' :: padded 2 date.month ++ '-' :: padded 2 date.day

/-- A leap second is shown as second 60. -/
def clockText (secondOfDay nanosecond : Nat) : Text :=
  padded 2 (secondOfDay / 3600) ++ ':' :: padded 2 (secondOfDay / 60 % 60) ++
    ':' :: padded 2 (secondOfDay % 60 + nanosecond / 1000000000)

def text (timestamp : Timestamp) : Text :=
  let date := Date.ofDayNumber (timestamp.localSecond / 86400)
  let secondOfDay := (timestamp.localSecond % 86400).toNat
  dateText date ++ 'T' :: clockText secondOfDay timestamp.nanosecond ++
    offsetText timestamp.offset

end Timestamp

end LuceneQuery
