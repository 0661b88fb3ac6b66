import LuceneQuery.Proofs.Wrapping
import LuceneQuery.Proofs.Written
import LuceneQuery.Query

/-!
# Nodes that render to nothing

Whether a node shows is decided by the leaves below it alone: some term has a value that is not
blank, or some range has a bound that is not open. No decoration and no operator changes that. Nodes
that do not show can be taken out of a tree, and every node that is left renders as before.
-/

namespace LuceneQuery

set_option autoImplicit false

namespace Term

/-- The term has no value, or a blank one. -/
def IsBlank (term : Term) : Prop := ∀ value ∈ term.value, Text.trim value = []

theorem render_eq_nil_iff (term : Term) : term.render = [] ↔ term.IsBlank := by
  have read : (Node.term term).reading = none ↔ term.leaf? = none := Option.map_eq_none_iff
  have leaf : term.leaf? = none ↔ Text.trim (term.value.getD []) = [] := by
    unfold leaf?
    split <;> simp_all
  change (Node.term term).render = [] ↔ _
  rw [← Node.reading_eq_none_iff, read, leaf, IsBlank]
  cases term.value with
  | none => simp [Text.trim, Text.trimStart, Text.trimEnd]
  | some value => simp

theorem render_of_empty (term : Term) (empty : term.isEmpty = true) : term.render = [] := by
  have none : term.value = none := by simpa [isEmpty] using empty
  simp [render_eq_nil_iff, IsBlank, none]

/-- A blank value renders to nothing, and is a value all the same. -/
example : (ofText [' ']).render = [] ∧ (ofText [' ']).isEmpty = false := by decide

end Term

namespace Range

/-- Both ends of the range are open. -/
def IsOpen (range : Range) : Prop := range.start = .unbounded ∧ range.stop = .unbounded

theorem is_empty_iff (range : Range) : range.isEmpty = true ↔ range.IsOpen := by
  unfold isEmpty IsOpen
  cases range.start <;> cases range.stop <;> simp [Bound.isUnbounded]

theorem is_empty_iff_render (range : Range) : range.isEmpty = true ↔ range.render = [] := by
  have read : (Node.range range).reading = none ↔ range.leaf? = none := Option.map_eq_none_iff
  change _ ↔ (Node.range range).render = []
  rw [← Node.reading_eq_none_iff, read, leaf?]
  cases range.isEmpty <;> simp

end Range

theorem TermGroup.render_eq_nil_iff (group : TermGroup) :
    group.render = [] ↔ ∀ term ∈ group.terms, term.render = [] := by
  have each : ∀ term : Term, term.reading = none ↔ term.render = [] :=
    fun term => Node.reading_eq_none_iff (.term term)
  change (Node.terms group).render = [] ↔ _
  rw [← Node.reading_eq_none_iff, Node.reading, Node.readingBy, Option.map_eq_none_iff,
    Reading.join_eq_none_iff, List.filterMap_eq_nil_iff]
  exact forall₂_congr fun term _ => each term

theorem TermGroup.is_empty_iff_render (group : TermGroup) :
    group.isEmpty = true ↔ group.render = [] := by
  simp [isEmpty, render_eq_nil_iff]

theorem join_rendered_filter (operator : Operator) (rendered : List Text) :
    joinRendered operator (rendered.filter fun text => !text.isEmpty) =
      joinRendered operator rendered := by
  simp only [joinRendered, List.filter_filter, Bool.and_self]

namespace Node

theorem group_render_eq_nil_iff (operator : Operator) (children : List Node)
    (decoration : Decoration) :
    (Node.group operator children decoration).render = [] ↔
      ∀ child ∈ children, child.render = [] := by
  rw [← reading_eq_none_iff, reading, readingBy, Option.map_eq_none_iff,
    Reading.join_eq_none_iff, readings_by_eq, List.filterMap_eq_nil_iff]
  exact forall₂_congr fun child _ => child.reading_eq_none_iff

theorem group_is_empty_iff_render (operator : Operator) (children : List Node)
    (decoration : Decoration) :
    (Node.group operator children decoration).isEmpty = true ↔
      (Node.group operator children decoration).render = [] := by
  simp [isEmpty, group_render_eq_nil_iff]

/-- Every leaf of the tree is a blank term or an open range. -/
structure HasBlankLeaves (node : Node) : Prop where
  terms : ∀ held, .term held ∈ node.nodes → held.IsBlank
  ranges : ∀ held, .range held ∈ node.nodes → held.IsOpen

theorem has_blank_leaves_group (operator : Operator) (children : List Node)
    (decoration : Decoration) :
    (Node.group operator children decoration).HasBlankLeaves ↔
      ∀ child ∈ children, child.HasBlankLeaves := by
  have terms : ∀ held, .term held ∈ (Node.group operator children decoration).nodes ↔
      ∃ child ∈ children, .term held ∈ child.nodes := by
    simp [nodes, nodes_of_all_eq]
  have ranges : ∀ held, .range held ∈ (Node.group operator children decoration).nodes ↔
      ∃ child ∈ children, .range held ∈ child.nodes := by
    simp [nodes, nodes_of_all_eq]
  constructor
  · intro blank child member
    constructor
    · exact fun held deep => blank.terms held ((terms held).mpr ⟨child, member, deep⟩)
    · exact fun held deep => blank.ranges held ((ranges held).mpr ⟨child, member, deep⟩)
  · intro each
    constructor
    · intro held member
      obtain ⟨child, among, deep⟩ := (terms held).mp member
      exact (each child among).terms held deep
    · intro held member
      obtain ⟨child, among, deep⟩ := (ranges held).mp member
      exact (each child among).ranges held deep

theorem render_eq_nil_iff (node : Node) : node.render = [] ↔ node.HasBlankLeaves := by
  induction node with
  | term held =>
      refine held.render_eq_nil_iff.trans ⟨fun blank => ⟨?_, ?_⟩, fun blank => ?_⟩
      · simpa [nodes] using blank
      · simp [nodes]
      · exact blank.terms held (self_mem_nodes _)
  | range held =>
      change held.render = [] ↔ _
      rw [← held.is_empty_iff_render, held.is_empty_iff]
      refine ⟨fun isOpen => ⟨?_, ?_⟩, fun blank => ?_⟩
      · simp [nodes]
      · simpa [nodes] using isOpen
      · exact blank.ranges held (self_mem_nodes _)
  | terms held =>
      refine held.render_eq_nil_iff.trans ?_
      simp only [Term.render_eq_nil_iff]
      refine ⟨fun each => ⟨?_, ?_⟩, fun blank term member => ?_⟩
      · simpa [nodes] using each
      · simp [nodes]
      · exact blank.terms term (term_mem_nodes held term member)
  | group operator children decoration induction =>
      rw [group_render_eq_nil_iff, has_blank_leaves_group]
      exact forall₂_congr induction

theorem exists_solid_of_render (node : Node) (shows : node.render ≠ []) :
    ∃ c ∈ node.render, Text.isBlank c = false := by
  have ends := node.decoration.ends_blank_apply node.content
  rw [← render_eq_apply] at ends
  exact Text.exists_solid_of_ends _ shows ends

mutual

/-- The tree without the nodes below it that render to nothing. -/
def pruned : Node → Node
  | .term held => .term held
  | .range held => .range held
  | .terms held => .terms { held with terms := held.terms.filter fun term => !term.render.isEmpty }
  | .group operator children decoration => .group operator (prunedAll children) decoration

def prunedAll : List Node → List Node
  | [] => []
  | child :: later =>
      if child.render.isEmpty then prunedAll later else child.pruned :: prunedAll later

end

theorem pruned_all_eq (children : List Node) :
    prunedAll children = (children.filter fun child => !child.render.isEmpty).map pruned := by
  induction children with
  | nil => rfl
  | cons child later induction =>
      rw [prunedAll, List.filter_cons, induction]
      cases child.render.isEmpty <;> rfl

theorem render_pruned (node : Node) : node.pruned.render = node.render := by
  induction node with
  | term held => rfl
  | range held => rfl
  | terms held =>
      have shown : (held.terms.filter fun term => !term.render.isEmpty).map Term.render =
          (held.terms.map Term.render).filter fun text => !text.isEmpty := by
        rw [List.filter_map]
        rfl
      rw [pruned, render, render, TermGroup.render, TermGroup.render, TermGroup.content,
        TermGroup.content, shown, join_rendered_filter]
  | group operator children decoration induction =>
      have shown : (prunedAll children).map render =
          (children.map render).filter fun text => !text.isEmpty := by
        rw [pruned_all_eq, List.map_map, List.filter_map]
        exact List.map_congr_left fun child member => induction child (List.mem_filter.mp member).1
      rw [pruned, render, render, render_all_eq_map, render_all_eq_map, shown,
        join_rendered_filter]

/-- Where a node renders to nothing, so does every node below it. -/
theorem nodes_render_nothing (node : Node) (empty : node.render = []) :
    ∀ inner ∈ node.nodes, inner.render = [] := by
  induction node with
  | term held => simpa [nodes] using empty
  | range held => simpa [nodes] using empty
  | terms held =>
      have each := held.render_eq_nil_iff.mp empty
      rw [nodes, List.forall_mem_cons, List.forall_mem_map]
      exact ⟨empty, each⟩
  | group operator children decoration induction =>
      have each := (group_render_eq_nil_iff operator children decoration).mp empty
      rw [nodes, nodes_of_all_eq, List.forall_mem_cons]
      refine ⟨empty, fun inner member => ?_⟩
      obtain ⟨child, among, deep⟩ := List.mem_flatMap.mp member
      exact induction child among (each child among) inner deep

/-- The renderings of those nodes that show. -/
def shownRenderings (nodes : List Node) : List Text :=
  (nodes.map render).filter fun text => !text.isEmpty

theorem shown_renderings_append (first second : List Node) :
    shownRenderings (first ++ second) = shownRenderings first ++ shownRenderings second := by
  simp [shownRenderings]

theorem nodes_eq_cons (node : Node) : node.nodes = node :: node.nodes.tail := by
  cases node <;> rfl

theorem shown_renderings_of_empty (node : Node) (empty : node.render = []) :
    shownRenderings node.nodes = [] := by
  rw [shownRenderings, List.filter_eq_nil_iff, List.forall_mem_map]
  intro inner member
  simp [node.nodes_render_nothing empty inner member]

theorem shown_renderings_of_shown (node : Node) (shows : node.render ≠ []) :
    shownRenderings node.nodes = node.render :: shownRenderings node.nodes.tail := by
  conv => lhs; rw [nodes_eq_cons]
  simp [shownRenderings, shows]

theorem renderings_pruned_all (children : List Node)
    (each : ∀ child ∈ children,
      child.pruned.nodes.map render = child.render :: shownRenderings child.nodes.tail) :
    ((prunedAll children).flatMap nodes).map render = shownRenderings (children.flatMap nodes) := by
  induction children with
  | nil => rfl
  | cons child later induction =>
      have rest := induction fun other member => each other (List.mem_cons_of_mem _ member)
      rw [prunedAll, List.flatMap_cons, shown_renderings_append, ← rest]
      split
      · next empty =>
          have nothing : child.render = [] := by simpa using empty
          rw [child.shown_renderings_of_empty nothing, List.nil_append]
      · next filled =>
          have shows : child.render ≠ [] := by simpa using filled
          rw [child.shown_renderings_of_shown shows, ← each child (by simp), List.flatMap_cons,
            List.map_append]

/-- The nodes that are left render as before, and they are all that showed. -/
theorem renderings_pruned (node : Node) :
    node.pruned.nodes.map render = node.render :: shownRenderings node.nodes.tail := by
  have kept := node.render_pruned
  induction node with
  | term held => rfl
  | range held => rfl
  | terms held =>
      rw [nodes_eq_cons, List.map_cons, kept]
      simp only [pruned, nodes, List.tail_cons, shownRenderings, List.map_map, List.filter_map]
      rfl
  | group operator children decoration induction =>
      rw [nodes_eq_cons, List.map_cons, kept]
      simp only [pruned, nodes, nodes_of_all_eq, List.tail_cons]
      rw [renderings_pruned_all children fun child member =>
        induction child member child.render_pruned]

/-- A node renders to nothing just when the leaves below it are blank, and whatever is not a term is
empty just then. What does render shows more than white space. Without the nodes that render to
nothing all others are left, and render as before. -/
theorem emptiness_agrees_with_rendering (node : Node) :
    (node.render = [] ↔ node.HasBlankLeaves) ∧
    (∀ held : Range, held.isEmpty = true ↔ held.render = []) ∧
    (∀ held : TermGroup, held.isEmpty = true ↔ held.render = []) ∧
    (∀ operator children decoration,
      (group operator children decoration).isEmpty = true ↔
        (group operator children decoration).render = []) ∧
    (∀ query : Query, query.isEmpty = true ↔ query.render = []) ∧
    (∀ held : Term, held.isEmpty = true → held.render = []) ∧
    (node.render ≠ [] → ∃ c ∈ node.render, Text.isBlank c = false) ∧
    node.pruned.nodes.map render = node.render :: shownRenderings node.nodes.tail :=
  ⟨node.render_eq_nil_iff, Range.is_empty_iff_render, TermGroup.is_empty_iff_render,
    group_is_empty_iff_render,
    fun query => group_is_empty_iff_render query.operator query.children query.decoration,
    Term.render_of_empty, node.exists_solid_of_render, node.renderings_pruned⟩

end Node

end LuceneQuery
