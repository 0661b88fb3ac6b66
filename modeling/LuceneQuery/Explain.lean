import LuceneQuery.Node
import LuceneQuery.Text.Quoted

/-!
# Describing a tree

One line for each clause, indented by its depth: what kind of clause it is, what it holds, and
those parts of its decoration that are set.
-/

namespace LuceneQuery

set_option autoImplicit false

def indent (depth : Nat) : Text := List.replicate (2 * depth) ' '

namespace Decoration

def describe (decoration : Decoration) : Text :=
  (if decoration.field.isEmpty then [] else " field=".toList ++ Text.quoted decoration.field) ++
    (match decoration.exclusion.sign with
      | none => []
      | some sign => " exclusion=".toList ++ [sign]) ++
    (if decoration.boost.isPositive then " boost=".toList ++ decoration.boost.text else [])

end Decoration

namespace Term

def describe (term : Term) : Text :=
  "Term(".toList ++ Text.quoted (term.value.getD []) ++
    (match term.fuzziness with
      | none => []
      | some weight => " ~".toList ++ weight.text) ++
    ')' :: term.decoration.describe

end Term

namespace Range

/-- The bounds are shown as they are stored, not as a date range writes them. -/
def describe (range : Range) : Text :=
  "Range(".toList ++
    (match range.format with
      | .plain => "Plain ".toList
      | .date => "Date ".toList) ++
    (if range.inclusive then "inclusive, ".toList else "exclusive, ".toList) ++
    range.start.plainText ++ " TO ".toList ++ range.stop.plainText ++
    ')' :: range.decoration.describe

end Range

namespace Node

mutual

def lines (depth : Nat) : Node → List Text
  | .term held => [indent depth ++ held.describe]
  | .range held => [indent depth ++ held.describe]
  | .terms held =>
      (indent depth ++ "Terms(".toList ++ held.operator.keyword ++
          ')' :: held.decoration.describe) ::
        held.terms.map fun single => indent (depth + 1) ++ single.describe
  | .group operator children decoration =>
      (indent depth ++ "Collection(".toList ++ operator.keyword ++
          ')' :: decoration.describe) ::
        linesOfAll (depth + 1) children

def linesOfAll (depth : Nat) : List Node → List Text
  | [] => []
  | child :: later => child.lines depth ++ linesOfAll depth later

end

def explain (node : Node) : Text := (node.lines 0).flatMap fun line => line ++ ['\n']

end Node

end LuceneQuery
