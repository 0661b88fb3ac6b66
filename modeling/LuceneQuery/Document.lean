import LuceneQuery.Document.Clause
import LuceneQuery.Query
import LuceneQuery.Settings

/-!
# Query documents

A document lists clauses, and a query is built from it clause by clause. The settings fill in
what the document leaves out. The first clause with a fault stops the work and is named by its
position: its number in each of the lists that lead to it.
-/

namespace LuceneQuery

set_option autoImplicit false

/-- The options that only some kinds of clause accept, in the order in which reports list
them. -/
inductive SpecialOption where
  | value
  | fuzziness
  | values
  | start
  | stop
  | inclusive
  | operator
  | clauses
  deriving DecidableEq, Repr

namespace SpecialOption

def all : List SpecialOption :=
  [.value, .fuzziness, .values, .start, .stop, .inclusive, .operator, .clauses]

def name : SpecialOption → String
  | .value => "value"
  | .fuzziness => "fuzziness"
  | .values => "values"
  | .start => "start"
  | .stop => "stop"
  | .inclusive => "inclusive"
  | .operator => "operator"
  | .clauses => "clause"

def acceptedBy : SpecialOption → List ClauseKind
  | .value => [.term]
  | .fuzziness => [.term]
  | .values => [.terms]
  | .start => [.range, .dateRange]
  | .stop => [.range, .dateRange]
  | .inclusive => [.range, .dateRange]
  | .operator => [.terms, .group]
  | .clauses => [.group]

def isSetIn (option : SpecialOption) (clause : Clause) : Bool :=
  match option with
  | .value => clause.options.value.isSome
  | .fuzziness => clause.options.fuzziness.isSome
  | .values => clause.options.values.isSome
  | .start => clause.options.start.isSome
  | .stop => clause.options.stop.isSome
  | .inclusive => clause.options.inclusive.isSome
  | .operator => clause.options.operator.isSome
  | .clauses => clause.clauses.isSome

end SpecialOption

/-- What is wrong with one clause. -/
inductive Fault where
  | unaccepted (kind : ClauseKind) (options : List SpecialOption)
  | missing (kind : ClauseKind) (what : String)
  | refused (problem : QueryError)

namespace Fault

def message : Fault → String
  | .unaccepted kind options =>
      kind.name ++ " clause does not accept " ++
        ", ".intercalate (options.map fun option => "'" ++ option.name ++ "'")
  | .missing kind what => kind.name ++ " clause requires " ++ what
  | .refused problem => problem.message

end Fault

/-- Numbers that count from one, the outermost list first. -/
abbrev Position := List Nat

def Position.text (position : Position) : String := ".".intercalate (position.map Nat.repr)

/-- What the clock shows when the bounds of the clause at a position are stored. It is read for
each bound on its own. -/
structure Clock where
  start : Position → Timestamp
  stop : Position → Timestamp

namespace Clock

/-- A clock that shows one time throughout. -/
def still (now : Timestamp) : Clock := ⟨fun _ => now, fun _ => now⟩

instance : Coe Timestamp Clock := ⟨still⟩

end Clock

inductive DocumentError where
  | unreadable (source : Text) (problem : FileError)
  | malformed (problem : Toml.ReadError)
  | operator (problem : QueryError)
  | clause (position : Position) (fault : Fault)

namespace DocumentError

def message : DocumentError → String
  | .unreadable source problem =>
      "failed to read " ++ String.ofList source ++ ": " ++ problem.message
  | .malformed problem => "failed to parse query document: " ++ problem.message
  | .operator problem => "document operator: " ++ problem.message
  | .clause position fault => "clause " ++ position.text ++ ": " ++ fault.message

def suggestion : DocumentError → Option String
  | .operator problem => problem.suggestion
  | .clause _ (.refused problem) => problem.suggestion
  | _ => none

end DocumentError

structure Document where
  operator : Option Text
  clauses : List Clause

namespace Document

def fieldNames : List String := ["operator", "clause"]

def withField (document : Document) (name : Text) (value : Toml.Value) :
    Toml.Decoded Document :=
  match String.ofList name with
  | "operator" => do return { document with operator := some (← value.text?) }
  | "clause" => do return { document with clauses := ← Clause.listOfValue? value }
  | _ => .error (.unknownField name fieldNames)

def ofTable? (table : Toml.Table) : Toml.Decoded Document :=
  table.foldlM (fun document (name, value) => document.withField name value) ⟨none, []⟩

def read (text : Text) : Except DocumentError Document :=
  match Toml.decode ofTable? text with
  | .ok document => .ok document
  | .error problem => .error (.malformed problem)

end Document

/-- The outcome of looking at one clause on its own. -/
abbrev Checked := Except Fault

def Checked.ofQuery {Result : Type} (outcome : Except QueryError Result) : Checked Result :=
  match outcome with
  | .ok result => .ok result
  | .error problem => .error (.refused problem)

def Checked.at {Result : Type} (outcome : Checked Result) (position : Position) :
    Except DocumentError Result :=
  match outcome with
  | .ok result => .ok result
  | .error fault => .error (.clause position fault)

def resolveOperator (given : Option Text) (standing : Operator) : Except QueryError Operator :=
  match given with
  | none => .ok standing
  | some text => Operator.read text

namespace ClauseOptions

def required {Value : Type} (options : ClauseOptions) (given : Option Value) (what : String) :
    Checked Value :=
  match given with
  | some value => .ok value
  | none => .error (.missing options.kind what)

def term (options : ClauseOptions) : Checked Node := do
  let value ← options.required options.value "a value"
  return .term (← Checked.ofQuery (value.term.setFuzziness options.fuzziness))

def terms (options : ClauseOptions) (settings : Settings) : Checked Node := do
  let values ← options.required options.values "values"
  let operator ← Checked.ofQuery (resolveOperator options.operator settings.collectionOperator)
  return .terms ((TermGroup.ofOperator operator).addAll (values.map Scalar.term))

def boundOf (given : Option Scalar) : Bound :=
  match given with
  | none => .unbounded
  | some scalar => scalar.bound

/-- A bound that is left out is open; both may not be. -/
def range (options : ClauseOptions) (format : BoundFormat) (now later : Timestamp) :
    Checked Node :=
  if options.start.isNone && options.stop.isNone then
    .error (.missing options.kind "a start or a stop")
  else
    .ok (.range (((Range.unset format).setRange now (boundOf options.start)
      (boundOf options.stop) later).setInclusive (options.inclusive.getD true)))

def groupOperator (options : ClauseOptions) (settings : Settings) : Checked Operator :=
  Checked.ofQuery (resolveOperator options.operator settings.operator)

/-- What every kind of clause accepts is set last. -/
def decorate (options : ClauseOptions) (settings : Settings) (node : Node) : Checked Node := do
  let exclusion ← Checked.ofQuery (Exclusion.read (options.exclusion.getD []))
  let fielded := Decorated.setField node (options.field.getD settings.defaultField)
  Checked.ofQuery
    (Decorated.setBoost (Decorated.setExclusion fielded exclusion) (options.boost.getD 0))

end ClauseOptions

namespace Clause

def unaccepted (clause : Clause) : List SpecialOption :=
  SpecialOption.all.filter fun option =>
    option.isSetIn clause && !option.acceptedBy.contains clause.options.kind

def checkOptions (clause : Clause) : Checked Unit :=
  match clause.unaccepted with
  | [] => .ok ()
  | options => .error (.unaccepted clause.options.kind options)

mutual

def build (settings : Settings) (clock : Clock) (position : Position) :
    Clause → Except DocumentError Node
  | ⟨options, clauses⟩ => do
      (checkOptions ⟨options, clauses⟩).at position
      let node ←
        match options.kind with
        | .term => options.term.at position
        | .terms => (options.terms settings).at position
        | .range =>
            (options.range .plain (clock.start position) (clock.stop position)).at position
        | .dateRange =>
            (options.range .date (clock.start position) (clock.stop position)).at position
        | .group => do
            let operator ← (options.groupOperator settings).at position
            let children ←
              match clauses with
              | none => .ok []
              | some nested => buildAll settings clock position 1 nested
            .ok (.group operator children .plain)
      (options.decorate settings node).at position

/-- The clauses of a list, the first of which has the given number. -/
def buildAll (settings : Settings) (clock : Clock) (position : Position) (number : Nat) :
    List Clause → Except DocumentError (List Node)
  | [] => .ok []
  | clause :: later => do
      let node ← build settings clock (position ++ [number]) clause
      return node :: (← buildAll settings clock position (number + 1) later)

end

end Clause

namespace Document

def build (document : Document) (settings : Settings) (clock : Clock) :
    Except DocumentError Query :=
  match resolveOperator document.operator settings.operator with
  | .error problem => .error (.operator problem)
  | .ok operator => do
      let children ← Clause.buildAll settings clock [] 1 document.clauses
      return { Query.ofOperator operator with children := children }

end Document

end LuceneQuery
