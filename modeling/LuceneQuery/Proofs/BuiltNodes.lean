import LuceneQuery.Proofs.Building

/-!
# The node that a clause becomes

A position that leads to a clause of a document leads to the node of that clause in the query that
is built: nodes are counted in their groups as clauses are in theirs.
-/

namespace LuceneQuery

set_option autoImplicit false

namespace Node

def children : Node → List Node
  | .group _ children _ => children
  | _ => []

def child? (node : Node) : Nat → Option Node
  | 0 => none
  | index + 1 => node.children[index]?

def reach : Node → Position → Option Node
  | node, [] => some node
  | node, number :: inner => (node.child? number).bind fun child => child.reach inner

theorem child_mem (node child : Node) (number : Nat) (counted : node.child? number = some child) :
    child ∈ node.children := by
  cases number with
  | zero => cases counted
  | succ index => exact List.mem_of_getElem? counted

end Node

/-- The node that a dotted position leads to. -/
def Query.nodeAt (query : Query) (text : String) : Option Node :=
  match Position.ofText text with
  | [] => none
  | number :: inner => query.toNode.reach (number :: inner)

namespace Clause

variable (settings : Settings) (clock : Clock)

/-- The clause was built to the node, wherever it stands. -/
def Becomes (clause : Clause) (node : Node) : Prop :=
  ∃ position, clause.build settings clock position = .ok node

theorem becomes_nested (clause : Clause) (node : Node)
    (becomes : clause.Becomes settings clock node) :
    List.Forall₂ (Becomes settings clock) clause.nested node.children := by
  obtain ⟨position, built⟩ := becomes
  have mirrors := clause.build_mirrors settings clock position node built
  obtain ⟨_, bare, made, decoration, same⟩ := build_eq_ok settings clock position clause node built
  cases mirrors with
  | term => exact .nil
  | terms => exact .nil
  | range => exact .nil
  | dateRange => exact .nil
  | group options clauses operator children own kind each =>
      simp only [Clause.bare, kind, bind_eq_ok, Checked.at_eq_ok] at made
      obtain ⟨_, _, listed, made, framed⟩ := made
      cases framed
      cases same
      exact build_all_eq_ok settings clock position _ 1 _ made

theorem becomes_at (clauses : List Clause) (node : Node)
    (paired : List.Forall₂ (Becomes settings clock) clauses node.children) (number : Nat)
    (clause : Clause) (picked : pick clauses number = some clause) :
    ∃ child, node.child? number = some child ∧ clause.Becomes settings clock child := by
  cases number with
  | zero => cases picked
  | succ index => exact partner_at paired index clause picked

theorem becomes_reach (inner : Position) : ∀ (clause found : Clause) (node : Node),
    clause.Becomes settings clock node → clause.reach inner = some found →
      ∃ below, node.reach inner = some below ∧ found.Becomes settings clock below := by
  induction inner with
  | nil =>
      intro clause found node becomes reached
      obtain rfl : clause = found := by simpa [reach] using reached
      exact ⟨node, rfl, becomes⟩
  | cons number inner induction =>
      intro clause found node becomes reached
      obtain ⟨child, picked, deeper⟩ := Option.bind_eq_some_iff.mp reached
      obtain ⟨next, counted, nextBecomes⟩ := becomes_at settings clock clause.nested node
        (clause.becomes_nested settings clock node becomes) number child picked
      obtain ⟨below, met, foundBecomes⟩ := induction child found next nextBecomes deeper
      exact ⟨below, by rw [Node.reach, counted, Option.bind_some, met], foundBecomes⟩

end Clause

theorem Document.becomes_node_at (document : Document) (settings : Settings) (clock : Clock)
    (query : Query) (built : document.build settings clock = .ok query) (text : String)
    (clause : Clause) (found : document.clauseAt text = some clause) :
    ∃ node, query.nodeAt text = some node ∧ clause.Becomes settings clock node := by
  have listed := document.build_eq_ok settings clock query built
  have paired := Clause.build_all_eq_ok settings clock [] document.clauses 1 _ listed
  unfold clauseAt at found
  split at found
  · cases found
  · next number inner spelled =>
      obtain ⟨outer, picked, reached⟩ := Option.bind_eq_some_iff.mp found
      obtain ⟨child, counted, becomes⟩ :=
        Clause.becomes_at settings clock _ query.toNode paired number outer picked
      obtain ⟨below, met, foundBecomes⟩ :=
        Clause.becomes_reach settings clock inner outer clause child becomes reached
      refine ⟨below, ?_, foundBecomes⟩
      simp only [Query.nodeAt, spelled, Node.reach, counted, Option.bind_some, met]

end LuceneQuery
