import LuceneQuery.Node

/-!
# The nodes of a tree

Every node of a tree in depth-first order: a node stands before its children, and each term of
a group of terms counts as a node. Induction over a tree assumes the statement of each child.
-/

namespace LuceneQuery

set_option autoImplicit false

namespace Node

@[elab_as_elim, induction_eliminator]
theorem induct {motive : Node → Prop}
    (term : ∀ held, motive (.term held))
    (range : ∀ held, motive (.range held))
    (terms : ∀ held, motive (.terms held))
    (group : ∀ operator children decoration, (∀ child ∈ children, motive child) →
      motive (.group operator children decoration)) :
    ∀ node, motive node := fun node =>
  Node.rec (motive_1 := motive) (motive_2 := fun children => ∀ child ∈ children, motive child)
    term range terms
    (fun operator children decoration each => group operator children decoration each)
    (fun _ member => nomatch member)
    (fun _ _ first later child member => by
      rcases List.mem_cons.mp member with rfl | rest
      · exact first
      · exact later child rest)
    node

mutual

def nodes : Node → List Node
  | .term held => [.term held]
  | .range held => [.range held]
  | .terms held => .terms held :: held.terms.map .term
  | .group operator children decoration =>
      .group operator children decoration :: nodesOfAll children

def nodesOfAll : List Node → List Node
  | [] => []
  | child :: later => child.nodes ++ nodesOfAll later

end

theorem nodes_of_all_eq (children : List Node) : nodesOfAll children = children.flatMap nodes := by
  induction children with
  | nil => rfl
  | cons child later induction => simp [nodesOfAll, induction]

theorem self_mem_nodes (node : Node) : node ∈ node.nodes := by
  cases node <;> simp [nodes]

theorem term_mem_nodes (held : TermGroup) (term : Term) (member : term ∈ held.terms) :
    .term term ∈ (Node.terms held).nodes := by
  simp [nodes, member]

theorem child_nodes_subset (operator : Operator) (children : List Node) (decoration : Decoration)
    (child inner : Node) (member : child ∈ children) (below : inner ∈ child.nodes) :
    inner ∈ (Node.group operator children decoration).nodes := by
  rw [nodes, nodes_of_all_eq]
  exact List.mem_cons_of_mem _ (List.mem_flatMap.mpr ⟨child, member, below⟩)

end Node

end LuceneQuery
