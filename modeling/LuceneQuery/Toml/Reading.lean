import LuceneQuery.Toml.Draft
import LuceneQuery.Toml.Line
import LuceneQuery.Toml.Scalar

/-!
# Reading TOML

The lines of a text are read from the first one on, and what they hold goes into the tables
under construction at once. So the refusal is that of the first line that breaks a rule, unless
the text as a whole has no form.
-/

namespace LuceneQuery.Toml

set_option autoImplicit false

def Draft.add (key : Key) (value : Value) (entries : Draft.Entries) : Reading Draft.Entries :=
  Draft.insert key.path key.name value .header entries

namespace Form

mutual

def value : Form → Reading Value
  | .scalar (.string (some content)) => .ok (.string content)
  | .scalar (.block (some content)) => .ok (.string content)
  | .scalar (.word spelled) => Reading.ofOption (scalar? spelled)
  | .scalar _ => .error .malformed
  | .array items => (values items).map .array
  | .table entries => (addAll entries []).map fun drafts => .table (Draft.finishEntries drafts)

def values : List Form → Reading (List Value)
  | [] => .ok []
  | form :: later => do
      let value ← form.value
      return value :: (← values later)

def addAll : List (KeyForm × Form) → Draft.Entries → Reading Draft.Entries
  | [], drafts => .ok drafts
  | (key, form) :: later, drafts => do
      let key ← key.key
      let value ← form.value
      addAll later (← Draft.add key value drafts)

end

end Form

/-- The lines up to the next header, as the entries of one table. -/
def fill : List Line → Draft.Entries → Reading Draft.Entries
  | .entry key form :: later, drafts => do
      let key ← key.key
      let value ← form.value
      fill later (← Draft.add key value drafts)
  | _, drafts => .ok drafts

def tables : List Line → Draft.Entries → Reading Draft.Entries
  | [], drafts => .ok drafts
  | .entry _ _ :: later, drafts => tables later drafts
  | .table key :: later, drafts => do
      let key ← key.key
      tables later (← Draft.openTable key.path key.name (fill later) drafts)
  | .element key :: later, drafts => do
      let key ← key.key
      tables later (← Draft.openElement key.path key.name (fill later) drafts)

def read (text : Text) : Reading Table := do
  let lines ← Reading.ofOption (Line.ofText? text)
  return Draft.finishEntries (← tables lines (← fill lines []))

end LuceneQuery.Toml
