/-!
# Calendar dates

Days of the Gregorian calendar, carried backwards without end, numbered from 1 January 1970.
Year 0 is the year before year 1.
-/

namespace LuceneQuery

set_option autoImplicit false

structure Date where
  year : Int
  month : Nat
  day : Nat
  deriving DecidableEq, Repr

namespace Date

def isLeap (year : Int) : Bool := year % 4 == 0 && (year % 100 != 0 || year % 400 == 0)

def monthLengths (year : Int) : List Nat :=
  [31, if isLeap year then 29 else 28, 31, 30, 31, 30, 31, 31, 30, 31, 30, 31]

/-- Months past the twelfth have no days. -/
def monthLength (year : Int) (month : Nat) : Nat :=
  match month with
  | 0 => 0
  | index + 1 => (monthLengths year).getD index 0

/-- Days from 1 January of year 1 to 1 January of the given year. -/
def daysBefore (year : Int) : Int :=
  let past := year - 1
  365 * past + past / 4 - past / 100 + past / 400

/-- The first day of 1970, counted from the first of year 1. -/
def epochDay : Int := 719162

def isValid (date : Date) : Bool := 1 ≤ date.day && date.day ≤ monthLength date.year date.month

/-- The days of the months before the given one. -/
def daysBeforeMonth (year : Int) (month : Nat) : Nat :=
  ((monthLengths year).take (month - 1)).foldr (fun length later => length + later) 0

def toDayNumber (date : Date) : Int :=
  daysBefore date.year + (daysBeforeMonth date.year date.month : Int) +
    ((date.day : Int) - 1) - epochDay

/-- The month and the day of it, by walking the months' lengths. -/
def monthAndDay (dayOfYear : Nat) : Nat → List Nat → Nat × Nat
  | month, [] => (month, dayOfYear + 1)
  | month, length :: later =>
      if dayOfYear < length then (month, dayOfYear + 1)
      else monthAndDay (dayOfYear - length) (month + 1) later

/-- The mean year misses the year of a day by one at most. -/
def yearOf (day : Int) : Int :=
  let guess := 400 * day / 146097 + 1
  if day < daysBefore guess then guess - 1
  else if day < daysBefore (guess + 1) then guess
  else guess + 1

def ofDayNumber (number : Int) : Date :=
  let day := number + epochDay
  let year := yearOf day
  let found := monthAndDay (day - daysBefore year).toNat 1 (monthLengths year)
  ⟨year, found.1, found.2⟩

/-- Monday is 0. -/
def weekdayOf (number : Int) : Nat := ((number + 3) % 7).toNat

end Date

end LuceneQuery
