import LuceneQuery.Range
import LuceneQuery.Term
import LuceneQuery.Toml.Schema

/-!
# Clauses of a document

A clause as its table gives it: a kind, and options of which each kind accepts some. Here
options are only read; whether they fit the kind is judged when the clause is built.
-/

namespace LuceneQuery

set_option autoImplicit false

/-- Where a term or a bound may be a number as well as a text. -/
inductive Scalar where
  | integer (value : Int)
  | float (value : Float)
  | text (given : Text)

namespace Scalar

/-- Integers beyond 64 bits with a sign are read as floating point numbers where they fit the
64 bits without one. -/
def ofValue? : Toml.Value → Toml.Decoded Scalar
  | .string content => .ok (.text content)
  | .integer number =>
      if Word.isSigned number then .ok (.integer number)
      else if Word.isUnsigned number then .ok (.float (Float.ofInt number))
      else .error (.noAlternative "ScalarValue")
  | .float number => .ok (.float number)
  | _ => .error (.noAlternative "ScalarValue")

def listOfValue? : Toml.Value → Toml.Decoded (List Scalar)
  | .array items => items.mapM ofValue?
  | other => .error (.wrongType other "a sequence")

def bound : Scalar → Bound
  | .integer value => .integer value
  | .float value => .float value
  | .text given => .text given

def term (scalar : Scalar) : Term := Term.ofText scalar.bound.plainText

end Scalar

inductive ClauseKind where
  | term
  | terms
  | range
  | dateRange
  | group
  deriving DecidableEq, Repr

namespace ClauseKind

def name : ClauseKind → String
  | .term => "term"
  | .terms => "terms"
  | .range => "range"
  | .dateRange => "date_range"
  | .group => "group"

def all : List ClauseKind := [.term, .terms, .range, .dateRange, .group]

def ofValue? (value : Toml.Value) : Toml.Decoded ClauseKind :=
  value.variant? (all.map fun kind => (kind.name, kind))

end ClauseKind

/-- Everything that the table of a clause says but the clauses nested in it. -/
structure ClauseOptions where
  kind : ClauseKind
  field : Option Text := none
  exclusion : Option Text := none
  boost : Option Float := none
  value : Option Scalar := none
  fuzziness : Option Float := none
  values : Option (List Scalar) := none
  start : Option Scalar := none
  stop : Option Scalar := none
  inclusive : Option Bool := none
  operator : Option Text := none

structure Clause where
  options : ClauseOptions
  clauses : Option (List Clause)

namespace ClauseOptions

def fieldNames : List String :=
  ["kind", "field", "exclusion", "boost", "value", "fuzziness", "values", "start", "stop",
    "inclusive", "operator", "clause"]

def withField (options : ClauseOptions) (name : Text) (value : Toml.Value) :
    Toml.Decoded ClauseOptions :=
  match String.ofList name with
  | "kind" => do return { options with kind := ← ClauseKind.ofValue? value }
  | "field" => do return { options with field := some (← value.text?) }
  | "exclusion" => do return { options with exclusion := some (← value.text?) }
  | "boost" => do return { options with boost := some (← value.number?) }
  | "value" => do return { options with value := some (← Scalar.ofValue? value) }
  | "fuzziness" => do return { options with fuzziness := some (← value.number?) }
  | "values" => do return { options with values := some (← Scalar.listOfValue? value) }
  | "start" => do return { options with start := some (← Scalar.ofValue? value) }
  | "stop" => do return { options with stop := some (← Scalar.ofValue? value) }
  | "inclusive" => do return { options with inclusive := some (← value.flag?) }
  | "operator" => do return { options with operator := some (← value.text?) }
  | _ => .error (.unknownField name fieldNames)

end ClauseOptions

namespace Clause

def shape : String := "struct RawClause"

def clausesField : Text := "clause".toList

def kindField : Text := "kind".toList

/-- A clause before any entry is read. Its kind is replaced, or its absence reported. -/
def unread : Clause := ⟨{ kind := .term }, none⟩

def withOption (clause : Clause) (name : Text) (value : Toml.Value) : Toml.Decoded Clause := do
  return { clause with options := ← clause.options.withField name value }

mutual

def ofValue? : Toml.Value → Toml.Decoded Clause
  | .table entries => do
      let clause ← ofEntries? unread entries
      if entries.any fun (name, _) => name == kindField then return clause
      else .error (.missingField "kind")
  | .array items => do
      let clause ← ofItems? unread (ClauseOptions.fieldNames.map String.toList) items
      let count := ClauseOptions.fieldNames.length
      if items.length < count then
        .error (.wrongLength items.length (shape ++ " with 12 elements"))
      else return clause
  | .dateTime => .error (.unknownField Toml.dateTimeField ClauseOptions.fieldNames)
  | other => .error (.wrongType other shape)

def ofEntries? (clause : Clause) : List (Text × Toml.Value) → Toml.Decoded Clause
  | [] => .ok clause
  | (name, value) :: later => do
      let changed ←
        if name = clausesField then
          (listOfValue? value).map fun nested => { clause with clauses := some nested }
        else clause.withOption name value
      ofEntries? changed later

/-- The items of an array are the fields of the clause in order. -/
def ofItems? (clause : Clause) : List Text → List Toml.Value → Toml.Decoded Clause
  | name :: names, item :: later => do
      let changed ←
        if name = clausesField then
          (listOfValue? item).map fun nested => { clause with clauses := some nested }
        else clause.withOption name item
      ofItems? changed names later
  | _, _ => .ok clause

def listOfValue? : Toml.Value → Toml.Decoded (List Clause)
  | .array items => eachOfValues? items
  | other => .error (.wrongType other "a sequence")

def eachOfValues? : List Toml.Value → Toml.Decoded (List Clause)
  | [] => .ok []
  | item :: later => do return (← ofValue? item) :: (← eachOfValues? later)

end

end Clause

end LuceneQuery
