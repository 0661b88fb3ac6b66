import LuceneQuery.Calendar.Timestamp

/-!
# Date fields

What a date text spells out, field by field, before it is known to name an instant. A text that
leaves the time of day out means midnight, and one without an offset means offset zero.
-/

namespace LuceneQuery

set_option autoImplicit false

structure DateFields where
  year : Int
  month : Nat
  day : Nat
  hour : Nat
  minute : Nat
  second : Nat
  nanosecond : Nat
  offset : Int
  weekday : Option Nat

namespace DateFields

def unread : DateFields := ⟨0, 0, 0, 0, 0, 0, 0, 0, none⟩

def date (fields : DateFields) : Date := ⟨fields.year, fields.month, fields.day⟩

/-- Second 60 is allowed in every minute. -/
def clockIsValid (fields : DateFields) : Bool :=
  fields.hour ≤ 23 && fields.minute ≤ 59 && fields.second ≤ 60

/-- A weekday that was named has to be the date's own. -/
def dateIsValid (fields : DateFields) : Bool :=
  Timestamp.leastYear ≤ fields.year && fields.year ≤ Timestamp.greatestYear &&
    fields.date.isValid &&
    fields.weekday.all fun weekday => weekday == Date.weekdayOf fields.date.toDayNumber

def offsetIsValid (fields : DateFields) : Bool := -86400 < fields.offset && fields.offset < 86400

def localSecond (fields : DateFields) : Int :=
  fields.date.toDayNumber * 86400 + fields.hour * 3600 + fields.minute * 60 +
    min fields.second 59

/-- The instant has to lie in range at offset zero as well. -/
def timestamp? (fields : DateFields) : Option Timestamp :=
  let second := fields.localSecond - fields.offset
  let leap := if fields.second = 60 then 1000000000 else 0
  if fields.dateIsValid && fields.clockIsValid && fields.offsetIsValid &&
      Timestamp.inRange second then
    some ⟨second, fields.nanosecond + leap, fields.offset⟩
  else none

end DateFields

end LuceneQuery
