import LuceneQuery.Proofs.NumberText
import LuceneQuery.Proofs.Token
import LuceneQuery.Proofs.Tree

/-!
# The reading of a clause

What a reader finds in the text of a clause: the marks in front, the core, and the boosts at the
end. A group that shows one child only is read as that child, so a clause may have marks and
boosts of several nodes.

A group trims what its only child is written as. This can only take white space off a bare field
name in front, and a reading in which that is done is what a tree is written as.
-/

namespace LuceneQuery

set_option autoImplicit false

inductive Mark where
  | required
  | prohibited
  | field (name : Text)
  deriving DecidableEq

inductive Leaf where
  | term (value : Text) (fuzziness : Option Text)
  | range (inclusive : Bool) (start stop : Text)
  deriving DecidableEq

inductive Reading where
  | leaf (marks : List Mark) (held : Leaf) (boosts : List Text)
  | group (marks : List Mark) (operator : Operator) (children : List Reading)
      (boosts : List Text)

namespace Mark

def write : Mark → Text
  | .required => ['+']
  | .prohibited => ['-']
  | .field name => escapeToken name ++ [':']

/-- A name between quotes starts with a quote, whatever it holds. -/
def trimmed : Mark → Mark
  | .field name => .field (if needsQuotes name then name else Text.trimStart name)
  | sign => sign

end Mark

namespace Leaf

def write : Leaf → Text
  | .term value none => escapeToken value
  | .term value (some fuzziness) => escapeToken value ++ '~' :: fuzziness
  | .range true start stop => '[' :: start ++ [' ', 'T', 'O', ' '] ++ stop ++ [']']
  | .range false start stop => '{' :: start ++ [' ', 'T', 'O', ' '] ++ stop ++ ['}']

end Leaf

def separator (operator : Operator) : Text := ' ' :: operator.keyword ++ [' ']

def writeMarks (marks : List Mark) : Text := marks.flatMap Mark.write

def writeBoosts (boosts : List Text) : Text := boosts.flatMap fun boost => '^' :: boost

namespace Reading

@[elab_as_elim, induction_eliminator]
theorem induct {motive : Reading → Prop}
    (leaf : ∀ marks held boosts, motive (.leaf marks held boosts))
    (group : ∀ marks operator children boosts, (∀ child ∈ children, motive child) →
      motive (.group marks operator children boosts)) :
    ∀ reading, motive reading := fun reading =>
  Reading.rec (motive_1 := motive) (motive_2 := fun children => ∀ child ∈ children, motive child)
    leaf
    (fun marks operator children boosts each => group marks operator children boosts each)
    (fun _ member => nomatch member)
    (fun _ _ first later child member => by
      rcases List.mem_cons.mp member with rfl | rest
      · exact first
      · exact later child rest)
    reading

def marks : Reading → List Mark
  | .leaf marks _ _ => marks
  | .group marks _ _ _ => marks

def boosts : Reading → List Text
  | .leaf _ _ boosts => boosts
  | .group _ _ _ boosts => boosts

/-- More marks in front and more boosts at the end. -/
def surround (front : List Mark) (back : List Text) : Reading → Reading
  | .leaf marks held boosts => .leaf (front ++ marks) held (boosts ++ back)
  | .group marks operator children boosts =>
      .group (front ++ marks) operator children (boosts ++ back)

def withMarks (changed : List Mark) : Reading → Reading
  | .leaf _ held boosts => .leaf changed held boosts
  | .group _ operator children boosts => .group changed operator children boosts

def trimmed (reading : Reading) : Reading :=
  match reading.marks with
  | [] => reading
  | mark :: later => reading.withMarks (mark.trimmed :: later)

mutual

def write : Reading → Text
  | .leaf marks held boosts => writeMarks marks ++ held.write ++ writeBoosts boosts
  | .group marks operator children boosts =>
      writeMarks marks ++ '(' :: List.intercalate (separator operator) (writeAll children) ++
        ')' :: writeBoosts boosts

def writeAll : List Reading → List Text
  | [] => []
  | child :: later => child.write :: writeAll later

end

theorem write_all_eq_map (children : List Reading) : writeAll children = children.map write := by
  induction children with
  | nil => rfl
  | cons child later induction => simp [writeAll, induction]

/-- Several children make a group; a single one stands for it. -/
def join (operator : Operator) : List Reading → Option Reading
  | [] => none
  | [single] => some single
  | several => some (.group [] operator several [])

theorem join_eq_none_iff (operator : Operator) (readings : List Reading) :
    join operator readings = none ↔ readings = [] := by
  rcases readings with _ | ⟨first, _ | ⟨second, later⟩⟩ <;> simp [join]

end Reading

namespace Decoration

def marks (decoration : Decoration) : List Mark :=
  (match decoration.exclusion with
    | .none => []
    | .require => [.required]
    | .prohibit => [.prohibited]) ++
    if decoration.field.isEmpty then [] else [.field decoration.field]

def boosts (decoration : Decoration) : List Text :=
  if decoration.exclusion = .none ∧ decoration.boost.isPositive = true then
    [decoration.boost.text]
  else []

def surround (decoration : Decoration) (reading : Reading) : Reading :=
  reading.surround decoration.marks decoration.boosts

end Decoration

namespace Term

/-- A blank value shows nothing, and its fuzziness neither. -/
def leaf? (term : Term) : Option Leaf :=
  match Text.trim (term.value.getD []) with
  | [] => none
  | value => some (.term value (term.fuzziness.map Weight.text))

def reading (term : Term) : Option Reading :=
  term.leaf?.map fun held => term.decoration.surround (.leaf [] held [])

end Term

namespace Range

def leaf? (range : Range) : Option Leaf :=
  if range.isEmpty then none
  else
    some (.range range.inclusive (range.boundText range.start) (range.boundText range.stop))

def reading (range : Range) : Option Reading :=
  range.leaf?.map fun held => range.decoration.surround (.leaf [] held [])

end Range

namespace Node

mutual

/-- `adopt` is what becomes of a reading that a group takes over. -/
def readingBy (adopt : Reading → Reading) : Node → Option Reading
  | .term held => held.reading
  | .range held => held.reading
  | .terms held =>
      (Reading.join held.operator (held.terms.filterMap Term.reading)).map fun reading =>
        held.decoration.surround (adopt reading)
  | .group operator children decoration =>
      (Reading.join operator (readingsBy adopt children)).map fun reading =>
        decoration.surround (adopt reading)

def readingsBy (adopt : Reading → Reading) : List Node → List Reading
  | [] => []
  | child :: later => (child.readingBy adopt).toList ++ readingsBy adopt later

end

theorem readings_by_eq (adopt : Reading → Reading) (children : List Node) :
    readingsBy adopt children = children.filterMap (readingBy adopt) := by
  induction children with
  | nil => rfl
  | cons child later induction =>
      cases found : child.readingBy adopt <;> simp [readingsBy, induction, found]

/-- What holds of the readings of a tree: it holds of each leaf with the decoration around it, and
each group hands it on from its children. -/
theorem reading_by_induct {motive : Reading → Prop} (adopt : Reading → Reading) (node : Node)
    (term : ∀ held, .term held ∈ node.nodes → ∀ leaf, held.leaf? = some leaf →
      motive (held.decoration.surround (.leaf [] leaf [])))
    (range : ∀ held, .range held ∈ node.nodes → ∀ leaf, held.leaf? = some leaf →
      motive (held.decoration.surround (.leaf [] leaf [])))
    (group : ∀ inner ∈ node.nodes, ∀ operator children joined, (∀ child ∈ children, motive child) →
      Reading.join operator children = some joined →
        motive (inner.decoration.surround (adopt joined))) :
    ∀ reading, node.readingBy adopt = some reading → motive reading := by
  induction node with
  | term held =>
      intro reading found
      obtain ⟨leaf, shows, rfl⟩ := Option.map_eq_some_iff.mp found
      exact term held (self_mem_nodes _) leaf shows
  | range held =>
      intro reading found
      obtain ⟨leaf, shows, rfl⟩ := Option.map_eq_some_iff.mp found
      exact range held (self_mem_nodes _) leaf shows
  | terms held =>
      intro reading found
      obtain ⟨joined, parts, rfl⟩ := Option.map_eq_some_iff.mp found
      refine group _ (self_mem_nodes _) held.operator _ joined ?_ parts
      intro child member
      obtain ⟨single, inside, shows⟩ := List.mem_filterMap.mp member
      obtain ⟨leaf, shown, rfl⟩ := Option.map_eq_some_iff.mp shows
      exact term single (term_mem_nodes held single inside) leaf shown
  | group operator children decoration induction =>
      intro reading found
      obtain ⟨joined, parts, rfl⟩ := Option.map_eq_some_iff.mp found
      refine group _ (self_mem_nodes _) operator _ joined ?_ parts
      intro child member
      rw [readings_by_eq] at member
      obtain ⟨inner, inside, shows⟩ := List.mem_filterMap.mp member
      have below := fun deep =>
        child_nodes_subset operator children decoration inner deep inside
      exact induction inner inside (fun held deep => term held (below _ deep))
        (fun held deep => range held (below _ deep))
        (fun deep member => group deep (below _ member))
        child shows

/-- The canonical reading: a group takes over the reading of its only child as it is. -/
def reading (node : Node) : Option Reading := node.readingBy id

/-- The reading that is written: what a group takes over is trimmed. -/
def outline (node : Node) : Option Reading := node.readingBy Reading.trimmed

end Node

end LuceneQuery
