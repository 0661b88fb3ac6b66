import Mathlib.Data.List.Basic
import Mathlib.Data.List.Forall2
import LuceneQuery.Proofs.BoundText
import LuceneQuery.Proofs.Outcome
import LuceneQuery.Proofs.Tree
import LuceneQuery.Query

/-!
# One line for each node

A tree is described line by line, a node before its children, and each line is indented by the depth
of its node. What callers gave is quoted there, line ends included, with one exception: a bound
that is a text stands as it was given, and a line end in it ends the line of its range.
-/

namespace LuceneQuery

set_option autoImplicit false

theorem count_line_ends_cons (line : Text) (later : List Text) :
    ((line :: later).flatMap fun line => line ++ ['\n']).count '\n' =
      line.count '\n' + 1 + (later.flatMap fun line => line ++ ['\n']).count '\n' := by
  rw [List.flatMap_cons, List.count_append, List.count_append, List.count_singleton_self]

theorem length_le_line_ends (lines : List Text) :
    lines.length ≤ (lines.flatMap fun line => line ++ ['\n']).count '\n' := by
  induction lines with
  | nil => exact Nat.zero_le _
  | cons line later induction =>
      rw [count_line_ends_cons, List.length_cons]
      omega

/-- Whole lines have one line end each, unless one has a line end of its own. -/
theorem line_ends_eq_iff (lines : List Text) :
    (lines.flatMap fun line => line ++ ['\n']).count '\n' = lines.length ↔
      ∀ line ∈ lines, '\n' ∉ line := by
  induction lines with
  | nil => simp
  | cons line later induction =>
      have least := length_le_line_ends later
      have split : line.count '\n' + 1 + (later.flatMap fun line => line ++ ['\n']).count '\n' =
          later.length + 1 ↔
            line.count '\n' = 0 ∧
              (later.flatMap fun line => line ++ ['\n']).count '\n' = later.length := by
        omega
      rw [count_line_ends_cons, List.length_cons, split, induction, List.count_eq_zero,
        List.forall_mem_cons]

namespace Text

theorem hexadecimal_digits (value : Nat) :
    ∀ c ∈ hexadecimal value, ∃ digit < 16, c = Nat.digitChar digit := by
  unfold hexadecimal
  induction value using Nat.strongRecOn with
  | ind value induction =>
      intro c member
      by_cases single : value < 16
      · rw [Nat.toDigits_of_lt_base single, List.mem_singleton] at member
        exact ⟨value, single, member⟩
      · rw [Nat.toDigits_of_base_le (by decide) (by omega), List.mem_append,
          List.mem_singleton] at member
        rcases member with front | rfl
        · exact induction (value / 16) (by omega) c front
        · exact ⟨value % 16, Nat.mod_lt value (by decide), rfl⟩

theorem quoted_char_on_line (c : Char) : '\n' ∉ quotedChar c := by
  have digits : ∀ digit < 16, '\n' ≠ Nat.digitChar digit := by decide
  unfold quotedChar
  split
  case h_7 _ _ _ _ other _ _ =>
    -- A line end has a rule of its own above, so what stands for itself is none.
    split
    · simpa [eq_comm] using other
    · have number : '\n' ∉ hexadecimal c.toNat := by
        intro hex
        obtain ⟨digit, small, same⟩ := hexadecimal_digits c.toNat '\n' hex
        exact digits digit small same
      simp [number]
  all_goals decide

theorem quoted_on_line (text : Text) : '\n' ∉ quoted text := by
  have inside : '\n' ∉ text.flatMap quotedChar := by
    simp [List.mem_flatMap, quoted_char_on_line]
  simp [quoted, inside]

end Text

theorem weight_text_on_line (weight : Weight) : '\n' ∉ weight.text := by
  intro member
  exact absurd (weight_text_numeric _ weight.text_weight '\n' member) (by decide)

theorem Decoration.describe_on_line (decoration : Decoration) : '\n' ∉ decoration.describe := by
  have field : '\n' ∉ " field=".toList ++ Text.quoted decoration.field := by
    simp [Text.quoted_on_line]
  have boost : '\n' ∉ " boost=".toList ++ decoration.boost.text := by
    simp [weight_text_on_line]
  unfold describe
  simp only [List.mem_append, not_or]
  refine ⟨⟨?_, ?_⟩, ?_⟩
  · split
    · simp
    · exact field
  · cases decoration.exclusion <;> simp [Exclusion.sign]
  · split
    · exact boost
    · simp

theorem Term.describe_on_line (term : Term) : '\n' ∉ term.describe := by
  unfold describe
  cases term.fuzziness <;>
    simp [Text.quoted_on_line, weight_text_on_line, Decoration.describe_on_line]

theorem Term.describe_opens (term : Term) :
    ∃ rest, term.describe = "Term(".toList ++ rest := by
  unfold describe
  simp only [List.append_assoc]
  exact ⟨_, rfl⟩

theorem Bound.line_end_in_plain_text_iff (bound : Bound) :
    '\n' ∈ bound.plainText ↔ ∃ given, bound = .text given ∧ '\n' ∈ given := by
  constructor
  · intro member
    rcases bound.plain_text_plain with plain | text
    · exact absurd (plain.2 '\n' member) (by decide)
    · exact ⟨_, text, member⟩
  · rintro ⟨given, rfl, member⟩
    exact member

namespace Range

/-- A bound of the range is a text with a line end in it. -/
def HasLineEnd (range : Range) : Prop :=
  ∃ given, (range.start = .text given ∨ range.stop = .text given) ∧ '\n' ∈ given

theorem line_end_in_describe_iff (range : Range) : '\n' ∈ range.describe ↔ range.HasLineEnd := by
  have bounds : '\n' ∈ range.describe ↔
      '\n' ∈ range.start.plainText ∨ '\n' ∈ range.stop.plainText := by
    unfold describe
    cases range.format <;> cases range.inclusive <;> simp [Decoration.describe_on_line]
  rw [bounds, Bound.line_end_in_plain_text_iff, Bound.line_end_in_plain_text_iff, HasLineEnd,
    ← exists_or]
  simp only [or_and_right]

theorem describe_opens (range : Range) : ∃ rest, range.describe = "Range(".toList ++ rest := by
  unfold describe
  simp only [List.append_assoc]
  exact ⟨_, rfl⟩

end Range

namespace Node

/-- A node of a tree and how deep it lies. -/
structure Place where
  depth : Nat
  node : Node

mutual

/-- The nodes of a tree with their depths, in depth-first order. -/
def places (depth : Nat) : Node → List Place
  | .term held => [⟨depth, .term held⟩]
  | .range held => [⟨depth, .range held⟩]
  | .terms held => ⟨depth, .terms held⟩ :: held.terms.map fun single => ⟨depth + 1, .term single⟩
  | .group operator children decoration =>
      ⟨depth, .group operator children decoration⟩ :: placesOfAll (depth + 1) children

def placesOfAll (depth : Nat) : List Node → List Place
  | [] => []
  | child :: later => child.places depth ++ placesOfAll depth later

end

theorem places_of_all_eq (depth : Nat) (children : List Node) :
    placesOfAll depth children = children.flatMap (places depth) := by
  induction children with
  | nil => rfl
  | cons child later induction => simp [placesOfAll, induction]

theorem lines_of_all_eq (depth : Nat) (children : List Node) :
    linesOfAll depth children = children.flatMap (lines depth) := by
  induction children with
  | nil => rfl
  | cons child later induction => simp [linesOfAll, induction]

theorem places_nodes (node : Node) :
    ∀ depth, (node.places depth).map Place.node = node.nodes := by
  induction node with
  | term held => exact fun _ => rfl
  | range held => exact fun _ => rfl
  | terms held => intro depth; simp [places, nodes]
  | group operator children decoration induction =>
      intro depth
      rw [places, nodes, places_of_all_eq, nodes_of_all_eq, List.map_cons, List.map_flatMap]
      congr 1
      exact List.flatMap_congr fun child member => induction child member (depth + 1)

/-- What the line of a node starts with, by the kind of the node. -/
def opening : Node → Text
  | .term _ => "Term(".toList
  | .range _ => "Range(".toList
  | .terms _ => "Terms(".toList
  | .group .. => "Collection(".toList

/-- The line of a group of one kind or the other. -/
def groupLine (kind : String) (operator : Operator) (decoration : Decoration) : Text :=
  kind.toList ++ operator.keyword ++ ')' :: decoration.describe

/-- The line of the node itself, without its indentation. -/
def headline : Node → Text
  | .term held => held.describe
  | .range held => held.describe
  | .terms held => groupLine "Terms(" held.operator held.decoration
  | .group operator _ decoration => groupLine "Collection(" operator decoration

theorem headline_opens (node : Node) : ∃ rest, node.headline = node.opening ++ rest := by
  cases node with
  | term held => exact held.describe_opens
  | range held => exact held.describe_opens
  | terms held => exact ⟨_, List.append_assoc ..⟩
  | group operator children decoration => exact ⟨_, List.append_assoc ..⟩

def Place.line (place : Place) : Text := indent place.depth ++ place.node.headline

theorem lines_eq (node : Node) :
    ∀ depth, node.lines depth = (node.places depth).map Place.line := by
  have regroup : ∀ first second third later : Text,
      first ++ second ++ third ++ later = first ++ (second ++ third ++ later) := by
    simp only [List.append_assoc, implies_true]
  induction node with
  | term held => exact fun _ => rfl
  | range held => exact fun _ => rfl
  | terms held =>
      intro depth
      rw [lines, places, List.map_cons, List.map_map, regroup]
      rfl
  | group operator children decoration induction =>
      intro depth
      have below := List.flatMap_congr fun child member => induction child member (depth + 1)
      rw [lines, places, lines_of_all_eq, places_of_all_eq, List.map_cons, List.map_flatMap,
        regroup, below]
      rfl

theorem group_line_on_line (kind : String) (operator : Operator) (decoration : Decoration)
    (whole : '\n' ∉ kind.toList) : '\n' ∉ groupLine kind operator decoration := by
  cases operator <;> simp [groupLine, whole, Operator.keyword, decoration.describe_on_line]

theorem line_end_in_headline_iff (node : Node) :
    '\n' ∈ node.headline ↔ ∃ held, node = .range held ∧ held.HasLineEnd := by
  cases node with
  | term held => simp [headline, held.describe_on_line]
  | range held => simp [headline, held.line_end_in_describe_iff]
  | terms held => simp [headline, group_line_on_line "Terms("]
  | group operator children decoration => simp [headline, group_line_on_line "Collection("]

theorem Place.line_end_in_line_iff (place : Place) :
    '\n' ∈ place.line ↔ ∃ held, place.node = .range held ∧ held.HasLineEnd := by
  rw [line, ← line_end_in_headline_iff, List.mem_append, or_iff_right]
  simp [indent]

/-- The description is one whole line for each node in order, which is indented by two spaces for
each step of depth and goes on with the kind of the node. -/
def OneLinePerNode (node : Node) : Prop :=
  ∃ lines : List Text, node.explain = lines.flatMap (fun line => line ++ ['\n']) ∧
    List.Forall₂ (fun place line => '\n' ∉ line ∧
      ∃ rest, line = List.replicate (2 * place.depth) ' ' ++ place.node.opening ++ rest)
      (node.places 0) lines

theorem explain_eq (node : Node) :
    node.explain = ((node.places 0).map Place.line).flatMap fun line => line ++ ['\n'] := by
  rw [explain, lines_eq]

/-- The line ends of a description are counted: were there one within a line, there would be more of
them than nodes. -/
theorem lines_of_one_line (node : Node) (oneLine : node.OneLinePerNode) :
    ∀ place ∈ node.places 0, '\n' ∉ place.line := by
  obtain ⟨lines, same, paired⟩ := oneLine
  have whole : ∀ line ∈ lines, '\n' ∉ line := by
    intro line member
    obtain ⟨place, _, single⟩ := partner_of_mem paired.flip line member
    exact single.1
  have counted : node.explain.count '\n' = ((node.places 0).map Place.line).length := by
    rw [same, (line_ends_eq_iff lines).mpr whole, List.length_map, paired.length_eq]
  rw [explain_eq, line_ends_eq_iff, List.forall_mem_map] at counted
  exact counted

theorem one_line_of_lines (node : Node) (single : ∀ place ∈ node.places 0, '\n' ∉ place.line) :
    node.OneLinePerNode := by
  refine ⟨_, node.explain_eq, ?_⟩
  rw [List.forall₂_map_right_iff, List.forall₂_same]
  intro place member
  obtain ⟨rest, opens⟩ := place.node.headline_opens
  refine ⟨single place member, rest, ?_⟩
  rw [Place.line, indent, opens, List.append_assoc]

theorem lines_single_iff (node : Node) :
    (∀ place ∈ node.places 0, '\n' ∉ place.line) ↔
      ∀ held, .range held ∈ node.nodes → ¬ held.HasLineEnd := by
  rw [← node.places_nodes 0]
  simp only [Place.line_end_in_line_iff, List.mem_map]
  constructor
  · rintro single held ⟨place, member, same⟩ broken
    exact single place member ⟨held, same, broken⟩
  · rintro unbroken place member ⟨held, same, broken⟩
    exact unbroken held ⟨place, member, same⟩ broken

/-- A tree is described in one line for each node just when no bound in it is a text with a line
end. -/
theorem one_line_per_node_iff (node : Node) :
    node.OneLinePerNode ↔ ∀ held, .range held ∈ node.nodes → ¬ held.HasLineEnd := by
  rw [← lines_single_iff]
  exact ⟨node.lines_of_one_line, node.one_line_of_lines⟩

/-- A line end in a bound goes into the description as it is. -/
theorem line_end_in_bound_shown :
    let query := (Query.ofOperator .and).createRange fun range =>
      range.setRange ⟨0, 0, 0⟩ (.text ['a', '\n', 'b']) (.text ['c'])
    query.explain = "Collection(AND)\n  Range(Plain inclusive, a\nb TO c)\n".toList ∧
      ¬ query.toNode.OneLinePerNode := by
  intro query
  refine ⟨by decide, fun oneLine => ?_⟩
  have single := query.toNode.lines_single_iff.mp (query.toNode.lines_of_one_line oneLine)
  exact single ⟨.text ['a', '\n', 'b'], .text ['c'], true, .plain, .plain⟩ (.tail _ (.head _))
    ⟨_, .inl rfl, by decide⟩

end Node

end LuceneQuery
