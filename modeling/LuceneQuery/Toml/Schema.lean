import LuceneQuery.Text.Quoted
import LuceneQuery.Decimal.FloatText
import LuceneQuery.Word
import LuceneQuery.Toml.Reading

/-!
# Reading values of known shapes

What a reader of settings or of a document expects of a TOML value, and what it reports when
the value has another shape. The entries of a table are read in the order of their keys, and
the first problem is the one reported.
-/

namespace LuceneQuery.Toml

set_option autoImplicit false

inductive SchemaError where
  | unknownField (name : Text) (known : List String)
  | missingField (name : String)
  | wrongType (found : Value) (expected : String)
  | wrongLength (length : Nat) (expected : String)
  | unknownVariant (name : Text) (known : List String)
  | noVariant
  | variantCount (several : Bool)
  | variantContent (found : Value)
  | noAlternative (expected : String)

/-- The name of a date where a table is expected. -/
def dateTimeField : Text := "$__toml_private_datetime".toList

namespace Value

def isDateText : Value → Bool
  | .string content => isDateTime content
  | _ => false

mutual

/-- Whether a reader that takes values of any shape can hold the value. -/
def fits : Value → Bool
  | .integer number => Word.isSigned number
  | .unreadable => false
  | .array items => allFit items
  | .table entries => tableFits entries
  | _ => true

def allFit : List Value → Bool
  | [] => true
  | item :: later => item.fits && allFit later

/-- A table whose first name is that of a date is taken for one. -/
def tableFits : List (Text × Value) → Bool
  | [] => true
  | (name, value) :: later =>
      if name = dateTimeField then value.isDateText else value.fits && entriesFit later

def entriesFit : List (Text × Value) → Bool
  | [] => true
  | (_, value) :: later => value.fits && entriesFit later

end

def floatFound (number : Float) : Text :=
  let spelled := Decimal.floatText number
  if number.isFinite && !spelled.contains '.' then spelled ++ ['.', '0'] else spelled

/-- A value as a report of a wrong type names it. -/
def found : Value → String
  | .string content => "string " ++ String.ofList (Text.quoted content)
  | .integer number => "integer `" ++ String.ofList (Decimal.integerText number) ++ "`"
  | .float number => "floating point `" ++ String.ofList (floatFound number) ++ "`"
  | .unreadable => "number"
  | .boolean flag => if flag then "boolean `true`" else "boolean `false`"
  | .dateTime => "map"
  | .array _ => "sequence"
  | .table _ => "map"

def kind : Value → String
  | .string _ => "string"
  | .integer _ => "integer"
  | .float _ => "float"
  | .unreadable => "number"
  | .boolean _ => "boolean"
  | .dateTime => "datetime"
  | .array _ => "array"
  | .table _ => "table"

end Value

def quotedName (name : String) : String := "`" ++ name ++ "`"

/-- Names as a choice between them. -/
def choice : List String → String
  | [first] => quotedName first
  | [first, second] => quotedName first ++ " or " ++ quotedName second
  | names => "one of " ++ ", ".intercalate (names.map quotedName)

namespace SchemaError

def message : SchemaError → String
  | .unknownField name known =>
      "unknown field " ++ quotedName (String.ofList name) ++ ", expected " ++ choice known
  | .missingField name => "missing field " ++ quotedName name
  | .wrongType found expected => "invalid type: " ++ found.found ++ ", expected " ++ expected
  | .wrongLength length expected =>
      "invalid length " ++ String.ofList (Decimal.integerText length) ++ ", expected " ++ expected
  | .unknownVariant name known =>
      "unknown variant " ++ quotedName (String.ofList name) ++ ", expected " ++ choice known
  | .noVariant => "wanted string or table"
  | .variantCount several =>
      "wanted exactly 1 element, " ++
        if several then "more than 1 element" else "found 0 elements"
  | .variantContent (.array _) => "expected empty array"
  | .variantContent (.table _) => "expected empty table"
  | .variantContent found => "expected table, found " ++ found.kind
  | .noAlternative expected => "data did not match any variant of untagged enum " ++ expected

end SchemaError

abbrev Decoded := Except SchemaError

namespace Value

def text? : Value → Decoded Text
  | .string content => .ok content
  | other => .error (.wrongType other "a string")

def flag? : Value → Decoded Bool
  | .boolean flag => .ok flag
  | other => .error (.wrongType other "a boolean")

def number? : Value → Decoded Float
  | .float number => .ok number
  | .integer number =>
      if Word.isSigned number || Word.isUnsigned number then .ok (Float.ofInt number)
      else .error (.wrongType (.integer number) "f64")
  | other => .error (.wrongType other "f64")

/-- One of several names. A name can also be the only key of a table, with nothing under it. -/
def variant? {Variant : Type} (variants : List (String × Variant)) : Value → Decoded Variant
  | .string name => named name
  | .table [(name, content)] => do
      let variant ← named name
      match content with
      | .array [] => return variant
      | .table [] => return variant
      | other => .error (.variantContent other)
  | .table entries => .error (.variantCount !entries.isEmpty)
  | _ => .error .noVariant
where
  named (name : Text) : Decoded Variant :=
    match variants.find? fun (spelled, _) => spelled.toList == name with
    | some (_, variant) => .ok variant
    | none => .error (.unknownVariant name (variants.map Prod.fst))

end Value

/-- A record is a table of its fields, or an array of them in order. -/
def recordFields (expected : String) (known : List String) : Value → Decoded Table
  | .table entries => .ok entries
  | .array items => .ok ((known.map String.toList).zip items)
  | .dateTime => .error (.unknownField dateTimeField known)
  | other => .error (.wrongType other expected)

/-- Why a text gives no record: it is no TOML, or TOML of another shape. -/
inductive ReadError where
  | refused (refusal : Refusal)
  | shape (error : SchemaError)

namespace ReadError

def detail : ReadError → Option String
  | .refused _ => none
  | .shape error => some error.message

def message : ReadError → String
  | .refused .malformed => "TOML parse error: the text is no TOML\n"
  | .refused .tooDeep => "recursion limit\n"
  | .shape error => "TOML parse error: " ++ error.message ++ "\n"

end ReadError

/-- A number that no reader can hold makes the text malformed, unless the record was read
without looking at it. -/
def decode {Record : Type} (record : Table → Decoded Record) (text : Text) :
    Except ReadError Record :=
  match read text with
  | .error refusal => .error (.refused refusal)
  | .ok table =>
      match record table with
      | .ok decoded => .ok decoded
      | .error error =>
          .error (if Value.entriesFit table then .shape error else .refused .malformed)

end LuceneQuery.Toml
