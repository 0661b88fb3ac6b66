import LuceneQuery.Proofs.Positions

/-!
# Documents and the queries built from them

A document is built just when nothing is wrong with it, and then clause for clause: each becomes
one node of its kind, in the place where it stands. Otherwise the first error is reported, with
the position of the clause that has it.
-/

namespace LuceneQuery

set_option autoImplicit false

/-- The node is of the kind of the clause and holds a node for each clause nested in it. -/
inductive Mirrors : Clause → Node → Prop
  | term (options : ClauseOptions) (held : Term) (kind : options.kind = .term) :
      Mirrors ⟨options, none⟩ (.term held)
  | terms (options : ClauseOptions) (held : TermGroup) (kind : options.kind = .terms) :
      Mirrors ⟨options, none⟩ (.terms held)
  | range (options : ClauseOptions) (held : Range) (kind : options.kind = .range)
      (format : held.format = .plain) : Mirrors ⟨options, none⟩ (.range held)
  | dateRange (options : ClauseOptions) (held : Range) (kind : options.kind = .dateRange)
      (format : held.format = .date) : Mirrors ⟨options, none⟩ (.range held)
  | group (options : ClauseOptions) (clauses : Option (List Clause)) (operator : Operator)
      (children : List Node) (decoration : Decoration) (kind : options.kind = .group)
      (each : List.Forall₂ Mirrors (clauses.getD []) children) :
      Mirrors ⟨options, clauses⟩ (.group operator children decoration)

namespace Mirrors

theorem redecorate (clause : Clause) (node : Node) (decoration : Decoration)
    (mirrors : Mirrors clause node) : Mirrors clause (node.redecorate decoration) := by
  cases mirrors with
  | term options held kind => exact .term options _ kind
  | terms options held kind => exact .terms options _ kind
  | range options held kind format => exact .range options _ kind format
  | dateRange options held kind format => exact .dateRange options _ kind format
  | group options clauses operator children own kind each =>
      exact .group options clauses operator children decoration kind each

end Mirrors

/-- Only a group accepts a list of clauses. -/
theorem Clause.clauses_eq_none (options : ClauseOptions) (clauses : Option (List Clause))
    (accepted : Clause.unaccepted ⟨options, clauses⟩ = []) (kind : options.kind ≠ .group) :
    clauses = none := by
  have refused := List.filter_eq_nil_iff.mp accepted .clauses (by decide)
  simpa [SpecialOption.isSetIn, SpecialOption.acceptedBy, kind] using refused

theorem ClauseOptions.range_eq_ok (options : ClauseOptions) (format : BoundFormat)
    (now later : Timestamp) (node : Node) (made : options.range format now later = .ok node) :
    ∃ held : Range, node = .range held ∧ held.format = format := by
  unfold range at made
  split at made
  · cases made
  · cases made
    exact ⟨_, rfl, rfl⟩

namespace Clause

variable (settings : Settings) (clock : Clock)

theorem bare_mirrors (options : ClauseOptions) (clauses : Option (List Clause))
    (position : Position) (node : Node)
    (accepted : Clause.unaccepted ⟨options, clauses⟩ = [])
    (each : ∀ child ∈ nested ⟨options, clauses⟩, ∀ position node,
      child.build settings clock position = .ok node → Mirrors child node)
    (made : bare settings clock position ⟨options, clauses⟩ = .ok node) :
    Mirrors ⟨options, clauses⟩ node := by
  have leaf := clauses_eq_none options clauses accepted
  unfold bare at made
  cases kind : options.kind with
  | term =>
      obtain rfl := leaf (by simp [kind])
      simp only [kind, bind_eq_ok, Checked.at_eq_ok, ClauseOptions.term] at made
      obtain ⟨_, _, _, _, same⟩ := made
      cases same
      exact .term options _ kind
  | terms =>
      obtain rfl := leaf (by simp [kind])
      simp only [kind, bind_eq_ok, Checked.at_eq_ok, ClauseOptions.terms] at made
      obtain ⟨_, _, _, _, same⟩ := made
      cases same
      exact .terms options _ kind
  | range =>
      obtain rfl := leaf (by simp [kind])
      simp only [kind, Checked.at_eq_ok] at made
      obtain ⟨held, rfl, format⟩ := options.range_eq_ok .plain _ _ node made
      exact .range options held kind format
  | dateRange =>
      obtain rfl := leaf (by simp [kind])
      simp only [kind, Checked.at_eq_ok] at made
      obtain ⟨held, rfl, format⟩ := options.range_eq_ok .date _ _ node made
      exact .dateRange options held kind format
  | group =>
      simp only [kind, bind_eq_ok, Checked.at_eq_ok] at made
      obtain ⟨operator, _, children, listed, same⟩ := made
      cases same
      have paired := build_all_eq_ok settings clock position _ 1 children listed
      have mirrored := ((List.forall₂_and_left _ _).mpr ⟨each, paired⟩).imp
        fun child node ⟨mirrors, place, built⟩ => mirrors place node built
      exact .group options clauses operator children _ kind mirrored

theorem build_mirrors (clause : Clause) :
    ∀ position node, clause.build settings clock position = .ok node → Mirrors clause node := by
  induction clause with
  | clause options clauses induction =>
      intro position node built
      obtain ⟨accepted, bare, made, decoration, rfl⟩ :=
        build_eq_ok settings clock position _ node built
      refine Mirrors.redecorate _ bare decoration ?_
      exact bare_mirrors settings clock options clauses position bare accepted induction made

end Clause

namespace Document

theorem build_mirrors (document : Document) (settings : Settings) (clock : Clock)
    (query : Query) (built : document.build settings clock = .ok query) :
    List.Forall₂ Mirrors document.clauses query.children := by
  have listed := document.build_eq_ok settings clock query built
  exact (Clause.build_all_eq_ok settings clock [] document.clauses 1 _ listed).imp
    fun clause node ⟨place, made⟩ => clause.build_mirrors settings clock place node made

/-- Building agrees with looking at everything that is wrong with the document: it succeeds just
when that is nothing, and otherwise fails with the first of it. The position it reports leads to
the clause that has the fault, and what it builds mirrors the document. -/
theorem build_reports_first_error (document : Document) (settings : Settings) (clock : Clock) :
    ((∃ query, document.build settings clock = .ok query) ↔ document.errors = []) ∧
    (∀ error, document.build settings clock = .error error ↔
      document.errors.head? = some error) ∧
    (∀ position fault, document.build settings clock = .error (.clause position fault) →
      ∃ clause, document.clauseAt position.text = some clause ∧
        clause.ownFaults.head? = some fault) ∧
    (∀ query, document.build settings clock = .ok query →
      List.Forall₂ Mirrors document.clauses query.children) := by
  have stops := document.build_stops settings clock
  refine ⟨stops.ok_iff, stops.error_iff, ?_, document.build_mirrors settings clock⟩
  intro position fault failed
  exact document.position_of_first_error position fault ((stops.error_iff _).mp failed)

/-- A group with a fault of its own and two faulty terms in it. -/
def faultyGroup : Document :=
  ⟨none,
    [⟨{ kind := .term, value := some (.text ['o', 'k']) }, none⟩,
      ⟨{ kind := .group, exclusion := some ['m', 'a', 'y'] },
        some
          [⟨{ kind := .term, value := some (.text ['x']), boost := some (-1) }, none⟩,
            ⟨{ kind := .term }, none⟩]⟩]⟩

theorem faulty_group_reports_nested :
    faultyGroup.errors.length = 3 ∧
      faultyGroup.build {} (.still ⟨0, 0, 0⟩) =
        .error (.clause [2, 1] (.refused (.invalidBoost (-1)))) ∧
      ∃ clause, faultyGroup.clauseAt "2.1" = some clause ∧
        clause.ownFaults.head? = some (.refused (.invalidBoost (-1))) := by
  have failed : faultyGroup.build {} (.still ⟨0, 0, 0⟩) =
      .error (.clause [2, 1] (.refused (.invalidBoost (-1)))) := rfl
  obtain ⟨_, _, position, _⟩ := build_reports_first_error faultyGroup {} (.still ⟨0, 0, 0⟩)
  exact ⟨rfl, failed, position _ _ failed⟩

end Document

end LuceneQuery
