import LuceneQuery.Calendar.Scan
import LuceneQuery.Calendar.Date
import LuceneQuery.Toml.Value
import LuceneQuery.Toml.Literal

/-!
# TOML numbers, dates and truth values

The values that are written without quotes. Digits may be grouped by single underscores, whole
parts have no leading zeros, and numbers in other bases have no sign. Some words that only start
like an integer pass for numbers here; no reader can take them.
-/

namespace LuceneQuery.Toml

set_option autoImplicit false

def takeSign : Text → Bool × Text
  | '-' :: rest => (true, rest)
  | '+' :: rest => (false, rest)
  | text => (false, text)

def hasSign (text : Text) : Bool := text.head? == some '-' || text.head? == some '+'

def numberIn (base : Nat) (spelled : Text) : Nat :=
  spelled.foldl (fun number c => base * number + (hexValue c).getD 0) 0

/-- Digits with single underscores between them, without the underscores. -/
def digitRun (isDigit : Char → Bool) (text : Text) : Option Text :=
  let groups := text.splitOn '_'
  if groups.all fun group => !group.isEmpty && group.all isDigit then some groups.flatten else none

/-- The mark of a base may stand alone, but then it is no number that can be read. -/
def based (base : Nat) (text : Text) : Option Value :=
  if text.isEmpty then some .unreadable
  else do
    let isDigit := fun c => (hexValue c).any fun digit => digit < base
    return .integer (numberIn base (← digitRun isDigit text))

/-- The digits before the first underscore. After a sign there can be none. -/
def startsWhole (signed : Bool) (first : Text) (later : List Text) : Bool :=
  first.all Char.isDigit &&
    match first with
    | [] => signed && !later.isEmpty
    | '0' :: rest => rest.isEmpty && later.isEmpty
    | _ => true

def isHex (c : Char) : Bool := (hexValue c).isSome

def isFloatMark (c : Char) : Bool := c == '.' || c == 'e' || c == 'E'

/-- Past the first underscore only the characters beside underscores are looked at, and they may
be digits of any base. -/
def decimal (text : Text) : Option Value :=
  let (negative, unsigned) := takeSign text
  match unsigned.splitOn '_' with
  | [] => none
  | first :: later =>
      if startsWhole (hasSign text) first later && !unsigned.any isFloatMark &&
          later.all (fun group => group.head?.any isHex) &&
          later.dropLast.all (fun group => group.getLast?.any isHex) then
        let spelled := first ++ later.flatten
        let magnitude : Int := numberIn 10 spelled
        let number := if negative then -magnitude else magnitude
        some (if spelled.all Char.isDigit then .integer number else .unreadable)
      else none

def integer? (text : Text) : Option Value :=
  match text with
  | '0' :: 'x' :: rest => based 16 rest
  | '0' :: 'o' :: rest => based 8 rest
  | '0' :: 'b' :: rest => based 2 rest
  | _ => decimal text

/-- The whole part of a float. An underscore after the sign lets zeros lead. -/
def wholeRun (signed : Bool) (text : Text) : Option Text :=
  match text with
  | '_' :: rest => if signed then digitRun Char.isDigit rest else none
  | _ => do
      let spelled ← digitRun Char.isDigit text
      if spelled.length ≠ 1 && spelled.head? == some '0' then none else some spelled

/-- A mark and digits after it, or nothing. -/
def fractionRun : Text → Option Text
  | [] => some []
  | _ :: digits => digitRun Char.isDigit digits

def exponentOf : Text → Option Int
  | [] => some 0
  | _ :: rest => do
      let (negative, unsigned) := takeSign rest
      let magnitude : Int := numberIn 10 (← digitRun Char.isDigit unsigned)
      return if negative then -magnitude else magnitude

/-- A number whose first digit stands farther from the point is too large or too small for a
float, and is settled without computing it. -/
def scaleLimit : Int := 400

def scaled (digits : Text) (exponent : Int) : Float :=
  let significant := digits.dropWhile fun c => c == '0'
  let scale := exponent + significant.length
  if significant.isEmpty || scale < -scaleLimit then 0
  else if scaleLimit < scale then 1 / 0
  else
    match exponent with
    | .ofNat power => Float.ofScientific (numberIn 10 significant) false power
    | .negSucc power => Float.ofScientific (numberIn 10 significant) true (power + 1)

def float? (text : Text) : Option Value :=
  let (negative, unsigned) := takeSign text
  let signed := fun number : Float => Value.float (if negative then -number else number)
  if unsigned == ['i', 'n', 'f'] then some (signed (1 / 0))
  else if unsigned == ['n', 'a', 'n'] then some (signed (0 / 0))
  else
    let mantissa := unsigned.takeWhile fun c => c != 'e' && c != 'E'
    let power := unsigned.dropWhile fun c => c != 'e' && c != 'E'
    let whole := mantissa.takeWhile fun c => c != '.'
    let fraction := mantissa.dropWhile fun c => c != '.'
    if power.isEmpty && fraction.isEmpty then none
    else do
      let wholeDigits ← wholeRun (hasSign text) whole
      let fractionDigits ← fractionRun fraction
      let exponent ← exponentOf power
      let number := scaled (wholeDigits ++ fractionDigits) (exponent - fractionDigits.length)
      return if number.isFinite then signed number else .unreadable

/-- What follows a full date, if the text starts with one. -/
def afterDate (text : Text) : Option Text := do
  let (year, text) ← Scan.number 4 4 text
  let (month, text) ← Scan.number 2 2 (← Scan.char '-' text)
  let (day, text) ← Scan.number 2 2 (← Scan.char '-' text)
  if Date.isValid ⟨year, month, day⟩ then some text else none

/-- Seconds may be left out, and only after seconds may a fraction stand. -/
def afterTime (text : Text) : Option Text := do
  let (hour, text) ← Scan.number 2 2 text
  let (minute, text) ← Scan.number 2 2 (← Scan.char ':' text)
  if 23 < hour || 59 < minute then none
  else
    match text with
    | ':' :: rest => do
        let (second, text) ← Scan.number 2 2 rest
        if 60 < second then none
        else
          match text with
          | '.' :: digits =>
              if (digits.head?.map Char.isDigit).getD false then
                some (digits.dropWhile Char.isDigit)
              else none
          | _ => some text
    | _ => some text

def isOffset (text : Text) : Bool :=
  match text with
  | [] | ['Z'] | ['z'] => true
  | sign :: rest =>
      (sign == '+' || sign == '-') &&
        match afterTime rest with
        | some [] => rest.length == 5
        | _ => false

def isTimeMark (c : Char) : Bool := c == 'T' || c == 't' || c == ' '

/-- A date, a time, or both; only both together may have an offset. -/
def isDateTime (text : Text) : Bool :=
  match afterDate text with
  | some [] => true
  | some (mark :: rest) => isTimeMark mark && (afterTime rest).any isOffset
  | none => (afterTime text).any List.isEmpty

def scalar? (text : Text) : Option Value :=
  if text == ['t', 'r', 'u', 'e'] then some (.boolean true)
  else if text == ['f', 'a', 'l', 's', 'e'] then some (.boolean false)
  else if isDateTime text then some .dateTime
  else (integer? text).or (float? text)

end LuceneQuery.Toml
