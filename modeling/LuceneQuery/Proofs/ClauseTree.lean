import Mathlib.Data.List.Forall2
import LuceneQuery.Document
import LuceneQuery.Proofs.Outcome

/-!
# How a clause is built

A clause passes the check of its options, becomes the node of its kind, and is decorated.
Induction over a clause assumes the statement of each clause nested in it.
-/

namespace LuceneQuery

set_option autoImplicit false

namespace Checked

variable {Result : Type}

theorem at_eq_ok (outcome : Checked Result) (position : Position) (result : Result) :
    outcome.at position = .ok result ↔ outcome = .ok result := by
  cases outcome <;> simp [Checked.at]

theorem of_query_eq_ok (outcome : Except QueryError Result) (result : Result) :
    ofQuery outcome = .ok result ↔ outcome = .ok result := by
  cases outcome <;> simp [ofQuery]

end Checked

namespace ClauseOptions

/-- The decoration that the options give to a node that had another one. -/
def decoration (options : ClauseOptions) (settings : Settings) (before : Decoration) :
    Checked Decoration := do
  let exclusion ← Checked.ofQuery (Exclusion.read (options.exclusion.getD []))
  let fielded := before.withField (options.field.getD settings.defaultField)
  Checked.ofQuery ((fielded.withExclusion exclusion).withBoost (options.boost.getD 0))

theorem decorate_eq (options : ClauseOptions) (settings : Settings) (node : Node) :
    options.decorate settings node =
      (options.decoration settings node.decoration).map node.redecorate := by
  have boosted : ∀ (held : Node) (boost : Float),
      Checked.ofQuery (Decorated.setBoost held boost) =
        (Checked.ofQuery (held.decoration.withBoost boost).result).map held.redecorate := by
    intro held boost
    rw [Decorated.setBoost, Change.result_map]
    change Checked.ofQuery ((held.decoration.withBoost boost).result.map _) = _
    cases (held.decoration.withBoost boost).result <;> rfl
  unfold decorate decoration
  cases Exclusion.read (options.exclusion.getD []) with
  | error problem => rfl
  | ok exclusion =>
      refine (boosted _ (options.boost.getD 0)).trans ?_
      cases node <;> rfl

/-- Decorating sets the decoration of the node and nothing else. -/
theorem decorate_eq_ok (options : ClauseOptions) (settings : Settings) (node result : Node)
    (decorated : options.decorate settings node = .ok result) :
    ∃ decoration, result = node.redecorate decoration := by
  rw [decorate_eq, map_eq_ok] at decorated
  obtain ⟨decoration, _, rfl⟩ := decorated
  exact ⟨decoration, rfl⟩

theorem decorate_exclusion (options : ClauseOptions) (settings : Settings) (node result : Node)
    (decorated : options.decorate settings node = .ok result) :
    Exclusion.read (options.exclusion.getD []) = .ok result.decoration.exclusion := by
  rw [decorate_eq, map_eq_ok] at decorated
  obtain ⟨given, decided, rfl⟩ := decorated
  have kept : (node.redecorate given).decoration = given :=
    Decorated.decoration_redecorate node given
  unfold decoration at decided
  simp only [bind_eq_ok, Checked.of_query_eq_ok] at decided
  obtain ⟨exclusion, read, weighed⟩ := decided
  rw [read, kept]
  unfold Decoration.withBoost at weighed
  split at weighed
  · cases weighed
    rfl
  · cases weighed

end ClauseOptions

namespace Clause

/-- A clause without a list of clauses has none nested in it. -/
def nested (clause : Clause) : List Clause := clause.clauses.getD []

@[elab_as_elim, induction_eliminator]
theorem induct {motive : Clause → Prop}
    (clause : ∀ options clauses, (∀ child ∈ nested ⟨options, clauses⟩, motive child) →
      motive ⟨options, clauses⟩) :
    ∀ clause, motive clause := fun given =>
  Clause.rec (motive_1 := motive)
    (motive_2 := fun clauses => ∀ child ∈ clauses.getD [], motive child)
    (motive_3 := fun children => ∀ child ∈ children, motive child)
    (fun options clauses each => clause options clauses each)
    (fun _ member => nomatch member)
    (fun _ each => each)
    (fun _ member => nomatch member)
    (fun _ _ first later child member => by
      rcases List.mem_cons.mp member with rfl | rest
      · exact first
      · exact later child rest)
    given

theorem check_options_eq_ok (clause : Clause) :
    clause.checkOptions = .ok () ↔ clause.unaccepted = [] := by
  unfold checkOptions
  split <;> simp_all

/-- The node of a clause before it is decorated. -/
def bare (settings : Settings) (clock : Clock) (position : Position) (clause : Clause) :
    Except DocumentError Node :=
  match clause.options.kind with
  | .term => clause.options.term.at position
  | .terms => (clause.options.terms settings).at position
  | .range =>
      (clause.options.range .plain (clock.start position) (clock.stop position)).at position
  | .dateRange =>
      (clause.options.range .date (clock.start position) (clock.stop position)).at position
  | .group => do
      let operator ← (clause.options.groupOperator settings).at position
      let children ← buildAll settings clock position 1 clause.nested
      return .group operator children .plain

theorem build_eq (settings : Settings) (clock : Clock) (position : Position) (clause : Clause) :
    clause.build settings clock position = (do
      clause.checkOptions.at position
      let node ← clause.bare settings clock position
      (clause.options.decorate settings node).at position) := by
  obtain ⟨options, clauses⟩ := clause
  rw [build]
  unfold bare
  cases kind : options.kind with
  | group =>
      simp only [bind_assoc]
      cases clauses <;> rfl
  | _ => rfl

theorem build_eq_ok (settings : Settings) (clock : Clock) (position : Position)
    (clause : Clause) (node : Node) (built : clause.build settings clock position = .ok node) :
    clause.unaccepted = [] ∧
      ∃ bare, clause.bare settings clock position = .ok bare ∧
        ∃ decoration, node = bare.redecorate decoration := by
  rw [build_eq] at built
  simp only [bind_eq_ok, Checked.at_eq_ok] at built
  obtain ⟨_, checked, bare, made, decorated⟩ := built
  exact ⟨(check_options_eq_ok clause).mp checked, bare, made,
    clause.options.decorate_eq_ok settings bare node decorated⟩

/-- One node for each clause, in order. -/
theorem build_all_eq_ok (settings : Settings) (clock : Clock) (position : Position)
    (clauses : List Clause) : ∀ number nodes,
      buildAll settings clock position number clauses = .ok nodes →
        List.Forall₂ (fun clause node => ∃ place, clause.build settings clock place = .ok node)
          clauses nodes := by
  induction clauses with
  | nil =>
      intro number nodes built
      rw [buildAll] at built
      cases built
      exact .nil
  | cons clause later induction =>
      intro number nodes built
      rw [buildAll] at built
      simp only [bind_eq_ok] at built
      obtain ⟨first, here, rest, behind, same⟩ := built
      cases same
      exact .cons ⟨_, here⟩ (induction (number + 1) rest behind)

end Clause

namespace Document

theorem build_eq_ok (document : Document) (settings : Settings) (clock : Clock) (query : Query)
    (built : document.build settings clock = .ok query) :
    Clause.buildAll settings clock [] 1 document.clauses = .ok query.children := by
  unfold build at built
  split at built
  · cases built
  · simp only [bind_eq_ok] at built
    obtain ⟨children, listed, same⟩ := built
    cases same
    exact listed

end Document

end LuceneQuery
