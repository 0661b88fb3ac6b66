import LuceneQuery.Proofs.ClauseTree

/-!
# All that is wrong with a document

The errors of a document in the order in which its clauses are looked at, each of them listed.
What a clause must not have, or cannot do without, hides all else that is wrong with it and with
the clauses in it. Building stops at the first error of the list, under any settings and at any
time, and the position that it reports leads back to the clause whose own check failed.
-/

namespace LuceneQuery

set_option autoImplicit false

namespace Checked

variable {Result : Type}

theorem at_eq_map_error (outcome : Checked Result) (position : Position) :
    outcome.at position = outcome.mapError (.clause position) := by
  cases outcome <;> rfl

theorem of_query_eq_map_error (outcome : Except QueryError Result) :
    ofQuery outcome = outcome.mapError .refused := by
  cases outcome <;> rfl

end Checked

/-- A number that is no weight. -/
def refusedWeights (problem : Float → QueryError) (given : Option Float) : List QueryError :=
  (given.toList.filter fun value => !isWeight value).map problem

theorem resolve_operator_stops (given : Option Text) (standing : Operator) :
    StopsAtFirst (refusals Operator.read given) (resolveOperator given standing) := by
  have chosen : resolveOperator given standing = given.elim (.ok standing) Operator.read := by
    cases given <;> rfl
  rw [chosen]
  exact .given Operator.read given standing

theorem weight_of_float (value : Float) (accepted : isWeight value = true) :
    Weight.ofFloat? value = some ⟨value, accepted⟩ := by
  simp [Weight.ofFloat?, accepted]

theorem weight_of_float_none (value : Float) (refused : isWeight value = false) :
    Weight.ofFloat? value = none := by
  simp [Weight.ofFloat?, refused]

theorem set_fuzziness_stops (term : Term) (given : Option Float) :
    StopsAtFirst (refusedWeights .invalidFuzziness given) (term.setFuzziness given).result := by
  cases given with
  | none => exact rfl
  | some value =>
      cases weight : isWeight value with
      | true => simp [StopsAtFirst, Term.setFuzziness, weight_of_float value weight,
          refusedWeights, weight]
      | false => simp [StopsAtFirst, Term.setFuzziness, weight_of_float_none value weight,
          refusedWeights, weight]

/-- A boost that is left out is zero, which is a weight. -/
theorem set_boost_stops (node : Node) (given : Option Float) :
    StopsAtFirst (refusedWeights .invalidBoost given)
      (Decorated.setBoost node (given.getD 0)).result := by
  rw [Decorated.setBoost, Change.result_map]
  refine StopsAtFirst.map _ ?_
  cases given with
  | none =>
      have accepted : isWeight 0 = true := by decide
      simp [StopsAtFirst, Decoration.withBoost, weight_of_float 0 accepted, refusedWeights]
  | some value =>
      cases weight : isWeight value with
      | true => simp [StopsAtFirst, Decoration.withBoost, weight_of_float value weight,
          refusedWeights, weight]
      | false => simp [StopsAtFirst, Decoration.withBoost, weight_of_float_none value weight,
          refusedWeights, weight]

namespace ClauseOptions

def lacking {Value : Type} (options : ClauseOptions) (given : Option Value) (what : String) :
    List Fault :=
  if given.isSome then [] else [.missing options.kind what]

/-- What the kind of the clause cannot do without. -/
def missing (options : ClauseOptions) : List Fault :=
  match options.kind with
  | .term => options.lacking options.value "a value"
  | .terms => options.lacking options.values "values"
  | .range => options.lacking (options.start.or options.stop) "a start or a stop"
  | .dateRange => options.lacking (options.start.or options.stop) "a start or a stop"
  | .group => []

/-- What only some kinds of clause have to be read. -/
def contentProblems (options : ClauseOptions) : List QueryError :=
  match options.kind with
  | .term => refusedWeights .invalidFuzziness options.fuzziness
  | .terms => refusals Operator.read options.operator
  | .range => []
  | .dateRange => []
  | .group => refusals Operator.read options.operator

def sharedProblems (options : ClauseOptions) : List QueryError :=
  refusals Exclusion.read options.exclusion ++ refusedWeights .invalidBoost options.boost

def contentFaults (options : ClauseOptions) : List Fault := options.contentProblems.map .refused

def sharedFaults (options : ClauseOptions) : List Fault := options.sharedProblems.map .refused

theorem required_stops {Value : Type} (options : ClauseOptions) (given : Option Value)
    (what : String) :
    StopsAtFirst (options.lacking given what) (options.required given what) := by
  cases given <;> exact rfl

theorem term_stops (options : ClauseOptions) (kind : options.kind = .term) :
    StopsAtFirst (options.missing ++ options.contentFaults) options.term := by
  simp only [missing, contentFaults, contentProblems, kind]
  refine (options.required_stops options.value "a value").bind fun value _ => ?_
  rw [Checked.of_query_eq_map_error]
  exact ((set_fuzziness_stops value.term options.fuzziness).map_error Fault.refused).map _

theorem terms_stops (options : ClauseOptions) (settings : Settings)
    (kind : options.kind = .terms) :
    StopsAtFirst (options.missing ++ options.contentFaults) (options.terms settings) := by
  simp only [missing, contentFaults, contentProblems, kind]
  refine (options.required_stops options.values "values").bind fun values _ => ?_
  rw [Checked.of_query_eq_map_error]
  have read := resolve_operator_stops options.operator settings.collectionOperator
  exact (read.map_error Fault.refused).map _

theorem range_stops (options : ClauseOptions) (format : BoundFormat) (now later : Timestamp) :
    StopsAtFirst (options.lacking (options.start.or options.stop) "a start or a stop")
      (options.range format now later) := by
  unfold range
  cases options.start <;> cases options.stop <;> exact rfl

theorem group_operator_stops (options : ClauseOptions) (settings : Settings)
    (kind : options.kind = .group) :
    StopsAtFirst (options.missing ++ options.contentFaults) (options.groupOperator settings) := by
  simp only [missing, contentFaults, contentProblems, kind, List.nil_append, groupOperator]
  rw [Checked.of_query_eq_map_error]
  exact (resolve_operator_stops options.operator settings.operator).map_error Fault.refused

theorem exclusion_stops (given : Option Text) :
    StopsAtFirst (refusals Exclusion.read given) (Exclusion.read (given.getD [])) := by
  have chosen : Exclusion.read (given.getD []) = given.elim (.ok .none) Exclusion.read := by
    cases given <;> rfl
  rw [chosen]
  exact .given Exclusion.read given .none

theorem decorate_stops (options : ClauseOptions) (settings : Settings) (node : Node) :
    StopsAtFirst options.sharedFaults (options.decorate settings node) := by
  rw [sharedFaults, sharedProblems, List.map_append]
  unfold decorate
  rw [Checked.of_query_eq_map_error]
  refine ((exclusion_stops options.exclusion).map_error Fault.refused).bind fun exclusion _ => ?_
  rw [Checked.of_query_eq_map_error]
  exact (set_boost_stops _ options.boost).map_error Fault.refused

end ClauseOptions

namespace Clause

/-- What lets nothing else about the clause be looked at. -/
def blocking (clause : Clause) : List Fault :=
  match clause.unaccepted with
  | [] => clause.options.missing
  | options => [.unaccepted clause.options.kind options]

/-- All that is wrong with a clause apart from the clauses in it. -/
def ownFaults (clause : Clause) : List Fault :=
  match clause.blocking with
  | [] => clause.options.contentFaults ++ clause.options.sharedFaults
  | faults => faults

mutual

/-- All that is wrong with a clause and with those nested in it, which are looked at before what
every kind of clause accepts. -/
def errors (position : Position) : Clause → List DocumentError
  | ⟨options, clauses⟩ =>
      match blocking ⟨options, clauses⟩ with
      | [] =>
          options.contentFaults.map (.clause position) ++
            (match clauses with
              | none => []
              | some nested =>
                  if options.kind = .group then errorsOfAll position 1 nested else []) ++
            options.sharedFaults.map (.clause position)
      | faults => faults.map (.clause position)

def errorsOfAll (position : Position) (number : Nat) : List Clause → List DocumentError
  | [] => []
  | clause :: later =>
      clause.errors (position ++ [number]) ++ errorsOfAll position (number + 1) later

end

def nestedErrors (position : Position) (clause : Clause) : List DocumentError :=
  if clause.options.kind = .group then errorsOfAll position 1 clause.nested else []

theorem errors_eq (position : Position) (clause : Clause) :
    clause.errors position =
      match clause.blocking with
      | [] =>
          clause.options.contentFaults.map (.clause position) ++ clause.nestedErrors position ++
            clause.options.sharedFaults.map (.clause position)
      | faults => faults.map (.clause position) := by
  obtain ⟨options, clauses⟩ := clause
  unfold errors
  cases clauses with
  | none => simp [nestedErrors, nested, errorsOfAll]
  | some nested => rfl

theorem check_options_stops (clause : Clause) :
    StopsAtFirst (if clause.unaccepted = [] then [] else clause.blocking) clause.checkOptions := by
  unfold checkOptions blocking
  cases clause.unaccepted <;> exact rfl

variable (settings : Settings) (clock : Clock)

theorem bare_stops (clause : Clause) (position : Position)
    (children : StopsAtFirst (errorsOfAll position 1 clause.nested)
      (buildAll settings clock position 1 clause.nested)) :
    StopsAtFirst
      ((clause.options.missing ++ clause.options.contentFaults).map (.clause position) ++
        clause.nestedErrors position)
      (clause.bare settings clock position) := by
  unfold bare nestedErrors
  simp only [Checked.at_eq_map_error]
  cases kind : clause.options.kind with
  | term => simpa using (clause.options.term_stops kind).map_error (DocumentError.clause position)
  | terms =>
      have terms := clause.options.terms_stops settings kind
      simpa using terms.map_error (DocumentError.clause position)
  | range =>
      have range := clause.options.range_stops .plain (clock.start position) (clock.stop position)
      simpa [ClauseOptions.missing, ClauseOptions.contentFaults, ClauseOptions.contentProblems,
        kind] using range.map_error (DocumentError.clause position)
  | dateRange =>
      have range := clause.options.range_stops .date (clock.start position) (clock.stop position)
      simpa [ClauseOptions.missing, ClauseOptions.contentFaults, ClauseOptions.contentProblems,
        kind] using range.map_error (DocumentError.clause position)
  | group =>
      have operator := clause.options.group_operator_stops settings kind
      exact (operator.map_error (DocumentError.clause position)).bind fun _ _ => children.map _

/-- The errors of a clause begin as the problems of its building do, step by step. -/
theorem errors_head_eq (clause : Clause) (position : Position) :
    (clause.errors position).head? =
      ((if clause.unaccepted = [] then [] else clause.blocking).map
          (DocumentError.clause position) ++
        (((clause.options.missing ++ clause.options.contentFaults).map
            (DocumentError.clause position) ++ clause.nestedErrors position) ++
          clause.options.sharedFaults.map (DocumentError.clause position))).head? := by
  rw [errors_eq]
  unfold blocking
  cases clause.unaccepted with
  | cons option others => simp
  | nil => cases clause.options.missing <;> simp

theorem build_all_stops (position : Position) (clauses : List Clause)
    (each : ∀ clause ∈ clauses, ∀ place,
      StopsAtFirst (clause.errors place) (clause.build settings clock place)) :
    ∀ number, StopsAtFirst (errorsOfAll position number clauses)
      (buildAll settings clock position number clauses) := by
  induction clauses with
  | nil =>
      intro number
      rw [errorsOfAll, buildAll]
      exact rfl
  | cons clause later induction =>
      intro number
      rw [errorsOfAll, buildAll]
      refine (each clause (by simp) _).bind fun node _ => ?_
      exact (induction (fun child member => each child (List.mem_cons_of_mem _ member)) _).map _

theorem build_stops (clause : Clause) :
    ∀ position, StopsAtFirst (clause.errors position) (clause.build settings clock position) := by
  induction clause with
  | clause options clauses induction =>
      intro position
      refine StopsAtFirst.of_head_eq ?_ (errors_head_eq ⟨options, clauses⟩ position)
      rw [build_eq, Checked.at_eq_map_error]
      refine ((check_options_stops _).map_error (DocumentError.clause position)).bind fun _ _ => ?_
      have children : StopsAtFirst (errorsOfAll position 1 (nested ⟨options, clauses⟩))
          (buildAll settings clock position 1 (nested ⟨options, clauses⟩)) :=
        build_all_stops settings clock position _ induction 1
      refine (bare_stops settings clock ⟨options, clauses⟩ position children).bind fun node _ => ?_
      rw [Checked.at_eq_map_error]
      exact (options.decorate_stops settings node).map_error (DocumentError.clause position)

end Clause

namespace Document

def errors (document : Document) : List DocumentError :=
  (refusals Operator.read document.operator).map .operator ++
    Clause.errorsOfAll [] 1 document.clauses

theorem build_stops (document : Document) (settings : Settings) (clock : Clock) :
    StopsAtFirst document.errors (document.build settings clock) := by
  have steps : document.build settings clock =
      ((resolveOperator document.operator settings.operator).mapError .operator >>=
        fun operator => Clause.buildAll settings clock [] 1 document.clauses >>=
          fun children => .ok { Query.ofOperator operator with children := children }) := by
    unfold build
    cases resolveOperator document.operator settings.operator <;> rfl
  rw [steps]
  have operator := resolve_operator_stops document.operator settings.operator
  refine (operator.map_error DocumentError.operator).bind fun _ _ => ?_
  refine (Clause.build_all_stops settings clock [] document.clauses ?_ 1).map _
  exact fun clause _ => clause.build_stops settings clock

end Document

end LuceneQuery
