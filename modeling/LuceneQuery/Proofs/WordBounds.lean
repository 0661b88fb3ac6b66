import LuceneQuery.Proofs.ClauseTree
import LuceneQuery.Proofs.Written

/-!
# Trees whose bounds are words

Where the text bounds of a tree are words, all of its bounds are written plainly. The tree of a
query that is built from a document has the bounds of the document and no others.
-/

namespace LuceneQuery

set_option autoImplicit false

/-- Letters of ASCII, and none of the words that mean something in a query. -/
def IsWord (text : Text) : Prop :=
  text ≠ [] ∧ (∀ c ∈ text, c.isAlpha = true) ∧
    text ∉ [['A', 'N', 'D'], ['O', 'R'], ['N', 'O', 'T'], ['T', 'O']]

instance (text : Text) : Decidable (IsWord text) :=
  have := List.decidableBAll (fun c : Char => c.isAlpha = true) text
  instDecidableAnd

theorem plain_bound_of_word (text : Text) (word : IsWord text) : PlainBound text := by
  refine ⟨word.1, ?_⟩
  intro c member
  simp [isBoundChar, Char.isAlphanum, word.2.1 c member]

/-- A text that the bound holds is a word. -/
def Bound.WordOnly : Bound → Prop
  | .text given => IsWord given
  | _ => True

theorem BoundFormat.normalize_word_only (format : BoundFormat) (now : Timestamp) (bound : Bound)
    (words : bound.WordOnly) : (format.normalize now bound).WordOnly := by
  cases bound with
  | text given =>
      simp only [normalize]
      split
      · trivial
      · split
        · trivial
        · exact words
  | unbounded => trivial
  | integer value => trivial
  | float value => trivial
  | timestamp value => trivial

theorem BoundFormat.render_plain (format : BoundFormat) (bound : Bound) (words : bound.WordOnly) :
    PlainBound (format.render bound) := by
  rcases format.render_plain_or_given bound with plain | raw
  · exact plain
  · rw [raw] at words
    exact plain_bound_of_word _ words

namespace Node

def WordBounds (node : Node) : Prop :=
  ∀ held, .range held ∈ node.nodes → held.start.WordOnly ∧ held.stop.WordOnly

theorem bound_texts_plain (node : Node) (words : node.WordBounds) :
    ∀ inner ∈ node.nodes, ∀ text ∈ inner.boundTexts, PlainBound text := by
  intro inner member text bound
  cases inner with
  | range held =>
      obtain ⟨start, stop⟩ := words held member
      simp only [boundTexts, List.mem_cons, List.not_mem_nil, or_false] at bound
      rcases bound with rfl | rfl
      · exact held.format.render_plain held.start start
      · exact held.format.render_plain held.stop stop
  | term held => cases bound
  | terms held => cases bound
  | group operator children decoration => cases bound

/-- A decoration changes no bound. -/
theorem redecorate_word_bounds (node : Node) (decoration : Decoration) (words : node.WordBounds) :
    (node.redecorate decoration).WordBounds := by
  intro held member
  cases node with
  | term term => simp [redecorate, nodes] at member
  | range range =>
      obtain rfl : held = { range with decoration := decoration } := by
        simpa [redecorate, nodes] using member
      exact words range (self_mem_nodes _)
  | terms group => simp [redecorate, nodes] at member
  | group operator children own =>
      apply words held
      simpa [redecorate, nodes] using member

theorem group_word_bounds (operator : Operator) (children : List Node) (decoration : Decoration)
    (each : ∀ child ∈ children, child.WordBounds) :
    (Node.group operator children decoration).WordBounds := by
  intro held member
  have inside : .range held ∈ children.flatMap nodes := by
    simpa [nodes, nodes_of_all_eq] using member
  obtain ⟨child, among, below⟩ := List.mem_flatMap.mp inside
  exact each child among held below

end Node

namespace ClauseOptions

def WordBounds (options : ClauseOptions) : Prop :=
  (boundOf options.start).WordOnly ∧ (boundOf options.stop).WordOnly

end ClauseOptions

namespace Clause

mutual

/-- The options of a clause and of all clauses nested in it. -/
def allOptions : Clause → List ClauseOptions
  | ⟨options, none⟩ => [options]
  | ⟨options, some nested⟩ => options :: optionsOfAll nested

def optionsOfAll : List Clause → List ClauseOptions
  | [] => []
  | clause :: later => clause.allOptions ++ optionsOfAll later

end

theorem options_of_all_eq (clauses : List Clause) :
    optionsOfAll clauses = clauses.flatMap allOptions := by
  induction clauses with
  | nil => rfl
  | cons clause later induction => simp [optionsOfAll, induction]

theorem all_options_eq (clause : Clause) :
    clause.allOptions = clause.options :: clause.nested.flatMap allOptions := by
  obtain ⟨options, _ | nested⟩ := clause
  · rfl
  · rw [allOptions, options_of_all_eq]
    rfl

end Clause

namespace ClauseOptions

theorem range_word_bounds (options : ClauseOptions) (format : BoundFormat) (now later : Timestamp)
    (words : options.WordBounds) (node : Node)
    (made : options.range format now later = .ok node) : node.WordBounds := by
  unfold range at made
  split at made
  · cases made
  · cases made
    intro held member
    rw [Node.nodes, List.mem_singleton] at member
    cases member
    exact ⟨format.normalize_word_only now _ words.1, format.normalize_word_only later _ words.2⟩

end ClauseOptions

namespace Clause

theorem build_all_word_bounds (settings : Settings) (clock : Clock) (position : Position)
    (clauses : List Clause) (number : Nat) (nodes : List Node)
    (each : ∀ clause ∈ clauses, ∀ position node, clause.build settings clock position = .ok node →
      node.WordBounds)
    (built : buildAll settings clock position number clauses = .ok nodes) :
    ∀ node ∈ nodes, node.WordBounds := by
  have paired := build_all_eq_ok settings clock position clauses number nodes built
  clear built
  induction paired with
  | nil => simp
  | cons made _ induction =>
      obtain ⟨place, made⟩ := made
      have others := induction fun clause member => each clause (List.mem_cons_of_mem _ member)
      exact List.forall_mem_cons.mpr ⟨each _ (by simp) place _ made, others⟩

theorem bare_word_bounds (settings : Settings) (clock : Clock) (position : Position)
    (clause : Clause) (node : Node) (own : clause.options.WordBounds)
    (each : ∀ child ∈ clause.nested, ∀ position node,
      child.build settings clock position = .ok node → node.WordBounds)
    (made : clause.bare settings clock position = .ok node) : node.WordBounds := by
  unfold bare at made
  cases kind : clause.options.kind with
  | term =>
      simp only [kind, bind_eq_ok, Checked.at_eq_ok, ClauseOptions.term] at made
      obtain ⟨_, _, _, _, same⟩ := made
      cases same
      simp [Node.WordBounds, Node.nodes]
  | terms =>
      simp only [kind, bind_eq_ok, Checked.at_eq_ok, ClauseOptions.terms] at made
      obtain ⟨_, _, _, _, same⟩ := made
      cases same
      simp [Node.WordBounds, Node.nodes]
  | range =>
      simp only [kind, Checked.at_eq_ok] at made
      exact clause.options.range_word_bounds .plain _ _ own node made
  | dateRange =>
      simp only [kind, Checked.at_eq_ok] at made
      exact clause.options.range_word_bounds .date _ _ own node made
  | group =>
      simp only [kind, bind_eq_ok, Checked.at_eq_ok] at made
      obtain ⟨operator, _, children, listed, same⟩ := made
      cases same
      exact Node.group_word_bounds operator children _
        (build_all_word_bounds settings clock position clause.nested 1 children each listed)

theorem build_word_bounds (settings : Settings) (clock : Clock) (clause : Clause)
    (words : ∀ options ∈ clause.allOptions, options.WordBounds) :
    ∀ position node, clause.build settings clock position = .ok node → node.WordBounds := by
  induction clause with
  | clause options clauses induction =>
      intro position node built
      rw [all_options_eq, List.forall_mem_cons] at words
      obtain ⟨own, deep⟩ := words
      obtain ⟨_, bare, made, decoration, rfl⟩ := build_eq_ok settings clock position _ node built
      refine bare.redecorate_word_bounds decoration ?_
      refine bare_word_bounds settings clock position ⟨options, clauses⟩ bare own ?_ made
      intro child member
      apply induction child member
      exact fun inner inside => deep inner (List.mem_flatMap.mpr ⟨child, member, inside⟩)

end Clause

def Document.WordBounds (document : Document) : Prop :=
  ∀ options ∈ document.clauses.flatMap Clause.allOptions, options.WordBounds

theorem Document.build_word_bounds (document : Document) (settings : Settings) (clock : Clock)
    (words : document.WordBounds) (query : Query)
    (built : document.build settings clock = .ok query) : query.toNode.WordBounds := by
  apply Node.group_word_bounds
  refine Clause.build_all_word_bounds settings clock [] document.clauses 1 query.children ?_
    (document.build_eq_ok settings clock query built)
  intro clause member
  apply clause.build_word_bounds settings clock
  intro options inside
  exact words options (List.mem_flatMap.mpr ⟨clause, member, inside⟩)

end LuceneQuery
