import LuceneQuery.Calendar.Reading
import LuceneQuery.Decoration

/-!
# Ranges

A range lies between two bounds, either of which may be open. A date range writes what it can
read as a date in the one date form; what it cannot read it writes as given. Relative words are
replaced by an instant when a bound is stored, so that a stored range means the same at any
later time.
-/

namespace LuceneQuery

set_option autoImplicit false

inductive Bound where
  | unbounded
  | text (given : Text)
  | integer (value : Int)
  | float (value : Float)
  | timestamp (value : Timestamp)

namespace Bound

def isUnbounded : Bound → Bool
  | .unbounded => true
  | _ => false

def plainText : Bound → Text
  | .unbounded => ['*']
  | .text given => given
  | .integer value => Decimal.integerText value
  | .float value => Decimal.floatText value
  | .timestamp value => value.text

end Bound

inductive BoundFormat where
  | plain
  | date
  deriving DecidableEq, Repr

namespace BoundFormat

/-- The instant that a date range reads from a bound. Floats are not counts of seconds. -/
def instant? : Bound → Option Timestamp
  | .text given => Timestamp.read given
  | .integer value => Timestamp.ofEpoch? value
  | _ => none

def render (format : BoundFormat) (bound : Bound) : Text :=
  match format with
  | .plain => bound.plainText
  | .date =>
      match instant? bound with
      | some instant => instant.text
      | none => bound.plainText

/-- Blank text is an open end, and in a date range a relative word is its instant. -/
def normalize (format : BoundFormat) (now : Timestamp) (bound : Bound) : Bound :=
  match bound with
  | .text given =>
      if (Text.trim given).isEmpty then .unbounded
      else
        match format, Timestamp.ofRelativeWord now given with
        | .date, some instant => .timestamp instant
        | _, _ => .text given
  | other => other

end BoundFormat

structure Range where
  start : Bound
  stop : Bound
  inclusive : Bool
  format : BoundFormat
  decoration : Decoration

namespace Range

def unset (format : BoundFormat) : Range := ⟨.unbounded, .unbounded, true, format, .plain⟩

instance : Decorated Range where
  decoration := decoration
  redecorate range decoration := { range with decoration := decoration }
  decoration_redecorate _ _ := rfl
  redecorate_decoration _ := rfl

/-- The clock is read for each bound on its own, for the start first. Where only one reading is
given it serves for both. -/
def setRange (range : Range) (now : Timestamp) (start stop : Bound) (later : Timestamp := now) :
    Range :=
  { range with
    start := range.format.normalize now start
    stop := range.format.normalize later stop }

def setInclusive (range : Range) (inclusive : Bool) : Range :=
  { range with inclusive := inclusive }

def isEmpty (range : Range) : Bool := range.start.isUnbounded && range.stop.isUnbounded

def opening (range : Range) : Char := if range.inclusive then '[' else '{'

def closing (range : Range) : Char := if range.inclusive then ']' else '}'

def boundText (range : Range) (bound : Bound) : Text := range.format.render bound

def content (range : Range) : Text :=
  if range.isEmpty then []
  else
    range.opening :: range.boundText range.start ++ [' ', 'T', 'O', ' '] ++
      range.boundText range.stop ++ [range.closing]

def render (range : Range) : Text := range.decoration.apply range.content

end Range

end LuceneQuery
