import Mathlib.Data.List.Forall2
import LuceneQuery.Query

/-!
# Calls on a query

A query is built by calls, one after another. A call that succeeds adds one clause at the end or
sets the operator, and a clause that its caller then sets up is changed where it stands, behind
all others. A call that is refused, for a boost or a fuzziness that is no weight, leaves the query
as it was: it is refused before anything is added. So a query holds what it held before the calls
and, behind that, one clause for each call that added one.
-/

namespace LuceneQuery

set_option autoImplicit false

/-- A call that makes a clause of its own lets its caller set the clause up. A call that stores
bounds reads the clock for each of them. -/
inductive Call where
  | add (node : Node)
  | setOperator (operator : Operator)
  | createTerm (configure : Term → Term)
  | createRange (configure : Range → Range)
  | createDateRange (field : Option Text) (configure : Range → Range)
  | createTermGroup (operator : Operator) (configure : TermGroup → TermGroup)
  | createGroup (operator : Operator) (configure : Query → Query)
  | matchTerm (field : Option Text) (term : Term) (boost fuzziness : Option Float)
  | requireTerm (field : Option Text) (term : Term)
  | prohibitTerm (field : Option Text) (term : Term)
  | matchRange (now later : Timestamp) (field : Option Text) (start stop : Bound)
      (inclusive : Bool)
  | requireRange (now later : Timestamp) (field : Option Text) (start stop : Bound)
      (inclusive : Bool)
  | prohibitRange (now later : Timestamp) (field : Option Text) (start stop : Bound)
      (inclusive : Bool)
  | requireDateRange (now later : Timestamp) (field : Option Text) (start stop : Bound)
      (inclusive : Bool)
  | matchTermGroup (field : Option Text) (terms : List Term) (boost : Option Float)
      (operator : Operator)
  | requireTermGroup (field : Option Text) (terms : List Term) (operator : Operator)
  | prohibitTermGroup (field : Option Text) (terms : List Term) (operator : Operator)

namespace Query

theorem add_change_at (query : Query) (node : Node) (change : Node → Node) :
    (query.add node).changeAt query.children.length change = query.add (change node) := by
  simp [changeAt, add, List.modify_eq_take_drop]

/-- Between the two queries the last clause is changed, and nothing else. -/
structure LastChanged (change : Node → Node) (before after : Query) : Prop where
  operator : after.operator = before.operator
  decoration : after.decoration = before.decoration
  length : after.children.length = before.children.length
  others : ∀ index, index + 1 ≠ before.children.length →
    after.children[index]? = before.children[index]?
  last : after.children.getLast? = before.children.getLast?.map change

theorem last_changed_id (query : Query) : LastChanged id query query :=
  ⟨rfl, rfl, rfl, fun _ _ => rfl, by simp⟩

theorem last_changed_of_add (query : Query) (node : Node) (change : Node → Node) :
    LastChanged change (query.add node) (query.add (change node)) where
  operator := rfl
  decoration := rfl
  length := by simp [add]
  others index apart := by
    have apart : index ≠ query.children.length := by simpa [add] using apart
    rcases Nat.lt_or_gt_of_ne apart with held | behind
    · simp [add, List.getElem?_append_left held]
    · simp [add, List.getElem?_append_right (Nat.le_of_lt behind), Nat.sub_ne_zero_of_lt behind]
  last := by simp [add]

theorem create_term_eq (query : Query) (configure : Term → Term) :
    query.createTerm configure = query.add (.term (configure .unset)) :=
  query.add_change_at _ _

theorem create_range_eq (query : Query) (configure : Range → Range) :
    query.createRange configure = query.add (.range (configure (.unset .plain))) :=
  query.add_change_at _ _

/-- The field is set on the new clause before its caller gets hold of it. -/
theorem create_date_range_eq (query : Query) (field : Option Text) (configure : Range → Range) :
    query.createDateRange field configure =
      query.add (.range (configure (Decorated.setField (.unset .date) (field.getD [])))) := by
  change ((query.add _).changeAt query.children.length _).changeAt query.children.length _ = _
  rw [add_change_at, add_change_at]
  rfl

theorem create_term_group_eq (query : Query) (operator : Operator)
    (configure : TermGroup → TermGroup) :
    query.createTermGroup operator configure =
      query.add (.terms (configure (.ofOperator operator))) :=
  query.add_change_at _ _

theorem create_group_eq (query : Query) (operator : Operator) (configure : Query → Query) :
    query.createGroup operator configure =
      query.add (configure (.ofOperator operator)).toNode :=
  query.add_change_at _ _

end Query

namespace Call

abbrev Outcome := Except QueryError Unit

/-- What the caller of a call sees, and the query behind it. -/
def run (query : Query) : Call → Change Query
  | .add node => .made (query.add node)
  | .setOperator operator => .made (query.setOperator operator)
  | .createTerm configure => .made (query.createTerm configure)
  | .createRange configure => .made (query.createRange configure)
  | .createDateRange field configure => .made (query.createDateRange field configure)
  | .createTermGroup operator configure => .made (query.createTermGroup operator configure)
  | .createGroup operator configure => .made (query.createGroup operator configure)
  | .matchTerm field term boost fuzziness => query.matchTerm field term boost fuzziness
  | .requireTerm field term => .made (query.requireTerm field term)
  | .prohibitTerm field term => .made (query.prohibitTerm field term)
  | .matchRange now later field start stop inclusive =>
      .made (query.matchRange now field start stop inclusive later)
  | .requireRange now later field start stop inclusive =>
      .made (query.requireRange now field start stop inclusive later)
  | .prohibitRange now later field start stop inclusive =>
      .made (query.prohibitRange now field start stop inclusive later)
  | .requireDateRange now later field start stop inclusive =>
      .made (query.requireDateRange now field start stop inclusive later)
  | .matchTermGroup field terms boost operator => query.matchTermGroup field terms boost operator
  | .requireTermGroup field terms operator => .made (query.requireTermGroup field terms operator)
  | .prohibitTermGroup field terms operator =>
      .made (query.prohibitTermGroup field terms operator)

def runAll (query : Query) : List Call → List Outcome × Query
  | [] => ([], query)
  | call :: later =>
      let change := call.run query
      let (outcomes, last) := runAll change.after later
      (change.outcome :: outcomes, last)

/-- Below zero, infinite or no number at all. -/
def IsRefused (value : Float) : Prop := value.isFinite = false ∨ value < 0

/-- The calls that are refused, and what is reported: the fuzziness before the boost. -/
inductive Refuses : Call → QueryError → Prop
  | fuzziness (field : Option Text) (term : Term) (boost : Option Float) (value : Float)
      (refused : IsRefused value) :
      Refuses (.matchTerm field term boost (some value)) (.invalidFuzziness value)
  | boost (field : Option Text) (term : Term) (value : Float) (fuzziness : Option Float)
      (sound : ∀ other ∈ fuzziness, ¬ IsRefused other) (refused : IsRefused value) :
      Refuses (.matchTerm field term (some value) fuzziness) (.invalidBoost value)
  | groupBoost (field : Option Text) (terms : List Term) (value : Float) (operator : Operator)
      (refused : IsRefused value) :
      Refuses (.matchTermGroup field terms (some value) operator) (.invalidBoost value)

/-- A clause on a field, under a sign and without a boost. -/
def onField (field : Option Text) (exclusion : Exclusion) : Decoration :=
  ⟨field.getD [], exclusion, .zero⟩

/-- The clause that a call adds where it is not refused. A term that was prepared keeps what the
call says nothing about. -/
inductive Adds : Call → Node → Prop
  | add (node : Node) : Adds (.add node) node
  | createTerm (configure : Term → Term) :
      Adds (.createTerm configure) (.term (configure ⟨none, none, .plain⟩))
  | createRange (configure : Range → Range) :
      Adds (.createRange configure)
        (.range (configure ⟨.unbounded, .unbounded, true, .plain, .plain⟩))
  | createDateRange (field : Option Text) (configure : Range → Range) :
      Adds (.createDateRange field configure)
        (.range (configure ⟨.unbounded, .unbounded, true, .date, onField field .none⟩))
  | createTermGroup (operator : Operator) (configure : TermGroup → TermGroup) :
      Adds (.createTermGroup operator configure) (.terms (configure ⟨[], operator, .plain⟩))
  | createGroup (operator : Operator) (configure : Query → Query) :
      Adds (.createGroup operator configure) (configure ⟨operator, [], .plain⟩).toNode
  | matchTerm (field : Option Text) (term : Term) (boost fuzziness : Option Float)
      (weight : Weight) (fuzzy : Option Weight) (boosted : weight.value = boost.getD 0)
      (fuzzed : fuzzy.map Weight.value = fuzziness) :
      Adds (.matchTerm field term boost fuzziness)
        (.term ⟨term.value, fuzzy, ⟨field.getD [], term.decoration.exclusion, weight⟩⟩)
  | requireTerm (field : Option Text) (term : Term) :
      Adds (.requireTerm field term)
        (.term ⟨term.value, term.fuzziness, ⟨field.getD [], .require, term.decoration.boost⟩⟩)
  | prohibitTerm (field : Option Text) (term : Term) :
      Adds (.prohibitTerm field term)
        (.term ⟨term.value, term.fuzziness, ⟨field.getD [], .prohibit, term.decoration.boost⟩⟩)
  | matchRange (now later : Timestamp) (field : Option Text) (start stop : Bound)
      (inclusive : Bool) :
      Adds (.matchRange now later field start stop inclusive)
        (.range ⟨BoundFormat.plain.normalize now start, BoundFormat.plain.normalize later stop,
          inclusive, .plain, onField field .none⟩)
  | requireRange (now later : Timestamp) (field : Option Text) (start stop : Bound)
      (inclusive : Bool) :
      Adds (.requireRange now later field start stop inclusive)
        (.range ⟨BoundFormat.plain.normalize now start, BoundFormat.plain.normalize later stop,
          inclusive, .plain, onField field .require⟩)
  | prohibitRange (now later : Timestamp) (field : Option Text) (start stop : Bound)
      (inclusive : Bool) :
      Adds (.prohibitRange now later field start stop inclusive)
        (.range ⟨BoundFormat.plain.normalize now start, BoundFormat.plain.normalize later stop,
          inclusive, .plain, onField field .prohibit⟩)
  | requireDateRange (now later : Timestamp) (field : Option Text) (start stop : Bound)
      (inclusive : Bool) :
      Adds (.requireDateRange now later field start stop inclusive)
        (.range ⟨BoundFormat.date.normalize now start, BoundFormat.date.normalize later stop,
          inclusive, .date, onField field .require⟩)
  | matchTermGroup (field : Option Text) (terms : List Term) (boost : Option Float)
      (operator : Operator) (weight : Weight) (boosted : weight.value = boost.getD 0) :
      Adds (.matchTermGroup field terms boost operator)
        (.terms ⟨terms, operator, ⟨field.getD [], .none, weight⟩⟩)
  | requireTermGroup (field : Option Text) (terms : List Term) (operator : Operator) :
      Adds (.requireTermGroup field terms operator)
        (.terms ⟨terms, operator, onField field .require⟩)
  | prohibitTermGroup (field : Option Text) (terms : List Term) (operator : Operator) :
      Adds (.prohibitTermGroup field terms operator)
        (.terms ⟨terms, operator, onField field .prohibit⟩)

theorem Refuses.unique {call : Call} {problem other : QueryError} (first : Refuses call problem)
    (second : Refuses call other) : problem = other := by
  cases first <;> cases second <;> grind

theorem is_refused_iff (value : Float) : IsRefused value ↔ isWeight value = false := by
  cases finite : value.isFinite <;> simp [IsRefused, isWeight, finite]

/-- A weight is taken as it is given. -/
theorem weight_cases (value : Float) :
    (IsRefused value ∧ Weight.ofFloat? value = none) ∨
      (¬ IsRefused value ∧
        ∃ weight : Weight, weight.value = value ∧ Weight.ofFloat? value = some weight) := by
  rw [is_refused_iff]
  unfold Weight.ofFloat?
  split
  · next accepted => exact .inr ⟨by simp [accepted], ⟨value, accepted⟩, rfl, rfl⟩
  · next refused => exact .inl ⟨by simpa using refused, rfl⟩

theorem set_fuzziness_cases (term : Term) (fuzziness : Option Float) :
    (∃ value, fuzziness = some value ∧ IsRefused value ∧
      term.setFuzziness fuzziness = .refused (.invalidFuzziness value) term) ∨
    ((∀ value ∈ fuzziness, ¬ IsRefused value) ∧
      ∃ fuzzy : Option Weight, fuzzy.map Weight.value = fuzziness ∧
        term.setFuzziness fuzziness = .made { term with fuzziness := fuzzy }) := by
  cases fuzziness with
  | none => exact .inr ⟨by simp, none, rfl, rfl⟩
  | some value =>
      obtain ⟨refused, none_read⟩ | ⟨sound, weight, held, read⟩ := weight_cases value
      · exact .inl ⟨value, rfl, refused, by simp [Term.setFuzziness, none_read]⟩
      · exact .inr ⟨by simpa using sound, some weight, by simp [held],
          by simp [Term.setFuzziness, read]⟩

/-- A boost that is left out is zero, which is a weight. -/
theorem set_boost_cases {Clause : Type} [Decorated Clause] (clause : Clause)
    (boost : Option Float) :
    (∃ value, boost = some value ∧ IsRefused value ∧
      Decorated.setBoost clause (boost.getD 0) = .refused (.invalidBoost value) clause) ∨
    ((∀ value ∈ boost, ¬ IsRefused value) ∧
      ∃ weight : Weight, weight.value = boost.getD 0 ∧
        Decorated.setBoost clause (boost.getD 0) =
          .made (Decorated.redecorate clause
            { Decorated.decoration clause with boost := weight })) := by
  unfold Decorated.setBoost Decoration.withBoost
  cases boost with
  | none =>
      have zero : ¬ IsRefused 0 := by rw [is_refused_iff]; decide
      obtain ⟨refused, -⟩ | ⟨-, weight, held, read⟩ := weight_cases 0
      · exact absurd refused zero
      · exact .inr ⟨nofun, weight, held, by rw [Option.getD_none, read]; rfl⟩
  | some value =>
      obtain ⟨refused, none_read⟩ | ⟨sound, weight, held, read⟩ := weight_cases value
      · refine .inl ⟨value, rfl, refused, ?_⟩
        rw [Option.getD_some, none_read]
        exact congrArg _ (Decorated.redecorate_decoration clause)
      · exact .inr ⟨by simpa using sound, weight, held, by rw [Option.getD_some, read]; rfl⟩

/-- What one call does to any query. -/
theorem run_cases (query : Query) (call : Call) :
    (∃ problem, Refuses call problem ∧ run query call = .refused problem query) ∨
    ((∀ problem, ¬ Refuses call problem) ∧
      ((∃ operator, call = .setOperator operator ∧
        run query call = .made (query.setOperator operator)) ∨
      ∃ node, Adds call node ∧ run query call = .made (query.add node))) := by
  cases call with
  | setOperator operator => exact .inr ⟨nofun, .inl ⟨operator, rfl, rfl⟩⟩
  | createTerm configure =>
      exact .inr ⟨nofun, .inr ⟨_, .createTerm configure,
        congrArg Change.made (query.create_term_eq configure)⟩⟩
  | createRange configure =>
      exact .inr ⟨nofun, .inr ⟨_, .createRange configure,
        congrArg Change.made (query.create_range_eq configure)⟩⟩
  | createDateRange field configure =>
      exact .inr ⟨nofun, .inr ⟨_, .createDateRange field configure,
        congrArg Change.made (query.create_date_range_eq field configure)⟩⟩
  | createTermGroup operator configure =>
      exact .inr ⟨nofun, .inr ⟨_, .createTermGroup operator configure,
        congrArg Change.made (query.create_term_group_eq operator configure)⟩⟩
  | createGroup operator configure =>
      exact .inr ⟨nofun, .inr ⟨_, .createGroup operator configure,
        congrArg Change.made (query.create_group_eq operator configure)⟩⟩
  | matchTerm field term boost fuzziness =>
      -- The boost is looked at only behind a fuzziness that is sound.
      obtain ⟨value, rfl, refused, stopped⟩ | ⟨sharp, fuzzy, fuzzed, set⟩ :=
        set_fuzziness_cases term fuzziness
      · refine .inl ⟨_, .fuzziness field term boost value refused, ?_⟩
        rw [run, Query.matchTerm, stopped]
        rfl
      obtain ⟨value, rfl, refused, stopped⟩ | ⟨sound, weight, boosted, raised⟩ :=
        set_boost_cases { term with fuzziness := fuzzy } boost
      · refine .inl ⟨_, .boost field term value fuzziness sharp refused, ?_⟩
        rw [run, Query.matchTerm, set, Change.made_and_then, stopped]
        rfl
      · refine .inr ⟨fun problem refuses => ?_,
          .inr ⟨_, .matchTerm field term boost fuzziness weight fuzzy boosted fuzzed, ?_⟩⟩
        · cases refuses with
          | fuzziness _ _ _ value refused => exact sharp value rfl refused
          | boost _ _ value _ _ refused => exact sound value rfl refused
        · rw [run, Query.matchTerm, set, Change.made_and_then, raised]
          rfl
  | matchTermGroup field terms boost operator =>
      obtain ⟨value, rfl, refused, stopped⟩ | ⟨sound, weight, boosted, raised⟩ :=
        set_boost_cases (Query.termGroup field terms operator) boost
      · refine .inl ⟨_, .groupBoost field terms value operator refused, ?_⟩
        rw [run, Query.matchTermGroup, stopped]
        rfl
      · refine .inr ⟨fun problem refuses => ?_,
          .inr ⟨_, .matchTermGroup field terms boost operator weight boosted, ?_⟩⟩
        · cases refuses with
          | groupBoost _ _ value _ refused => exact sound value rfl refused
        · rw [run, Query.matchTermGroup, raised]
          rfl
  | _ => exact .inr ⟨nofun, .inr ⟨_, by constructor, rfl⟩⟩

theorem run_error_iff (query : Query) (call : Call) (problem : QueryError) :
    (run query call).outcome = .error problem ↔ Refuses call problem := by
  obtain ⟨given, refuses, ran⟩ | ⟨sound, ⟨_, _, ran⟩ | ⟨_, _, ran⟩⟩ := run_cases query call
  · rw [ran]
    exact ⟨fun same => Except.error.inj same ▸ refuses, fun other => refuses.unique other ▸ rfl⟩
  · simp [ran, sound problem]
  · simp [ran, sound problem]

theorem run_error_unchanged (query : Query) (call : Call) (problem : QueryError)
    (stopped : (run query call).outcome = .error problem) : (run query call).after = query := by
  obtain ⟨_, _, ran⟩ | ⟨_, ⟨_, _, ran⟩ | ⟨_, _, ran⟩⟩ := run_cases query call
  · rw [ran, Change.refused_after]
  · simp [ran] at stopped
  · simp [ran] at stopped

def operator? : Call → Option Operator
  | .setOperator operator => some operator
  | _ => none

/-- The calls that succeeded with something to add, in order. -/
def adding : List Call → List Outcome → List Call
  | call :: calls, outcome :: outcomes =>
      if outcome.isOk ∧ call.operator?.isNone then call :: adding calls outcomes
      else adding calls outcomes
  | _, _ => []

/-- The operator of the last call that set one. -/
def lastOperator (before : Operator) (calls : List Call) : Operator :=
  ((calls.filterMap operator?).getLast?).getD before

theorem last_operator_cons (before : Operator) (call : Call) (calls : List Call) :
    lastOperator before (call :: calls) =
      lastOperator ((call.operator?).getD before) calls := by
  cases set : call.operator? with
  | none => simp [lastOperator, set]
  | some operator => simp [lastOperator, set, List.getLast?_cons]

theorem Adds.operator_none {call : Call} {node : Node} (adds : Adds call node) :
    call.operator? = none := by
  cases adds <;> rfl

theorem Refuses.operator_none {call : Call} {problem : QueryError}
    (refuses : Refuses call problem) : call.operator? = none := by
  cases refuses <;> rfl

theorem run_all_length (initial : Query) (calls : List Call) :
    (runAll initial calls).1.length = calls.length := by
  induction calls generalizing initial with
  | nil => rfl
  | cons call later ih => simp [runAll, ih]

/-- Every run keeps what the query held, and adds behind it what the calls in it added. -/
theorem run_all_eq (initial : Query) (calls : List Call) :
    ∃ added, List.Forall₂ Adds (adding calls (runAll initial calls).1) added ∧
      (runAll initial calls).2 =
        ⟨lastOperator initial.operator calls, initial.children ++ added, initial.decoration⟩ := by
  induction calls generalizing initial with
  | nil => exact ⟨[], .nil, by simp [runAll, lastOperator]⟩
  | cons call later ih =>
      obtain ⟨added, adds, last⟩ := ih (run initial call).2
      rw [last_operator_cons]
      obtain ⟨_, refuses, ran⟩ | ⟨-, ⟨operator, rfl, ran⟩ | ⟨node, first, ran⟩⟩ :=
        run_cases initial call <;> rw [ran] at adds last
      · exact ⟨added, by simpa [runAll, ran, adding, Except.isOk, Except.toBool] using adds,
          by simpa [runAll, ran, refuses.operator_none] using last⟩
      · exact ⟨added, by simpa [runAll, ran, adding, operator?] using adds,
          by simpa [runAll, ran, operator?, Query.setOperator] using last⟩
      · exact ⟨node :: added,
          by simpa [runAll, ran, adding, first.operator_none, Except.isOk, Except.toBool] using
            ⟨first, adds⟩,
          by simpa [runAll, ran, first.operator_none, Query.add] using last⟩

/-- The call as it is when its caller leaves the new clause alone. -/
def unconfigured : Call → Call
  | .createTerm _ => .createTerm id
  | .createRange _ => .createRange id
  | .createDateRange field _ => .createDateRange field id
  | .createTermGroup operator _ => .createTermGroup operator id
  | .createGroup operator _ => .createGroup operator id
  | call => call

/-- What the caller of a call does to the new clause. -/
def configuration : Call → Node → Node
  | .createTerm configure => Query.onTerm configure
  | .createRange configure => Query.onRange configure
  | .createDateRange _ configure => Query.onRange configure
  | .createTermGroup _ configure => Query.onTerms configure
  | .createGroup _ configure => Query.onGroup configure
  | _ => id

theorem run_configured (query : Query) (call : Call) :
    Query.LastChanged call.configuration (run query call.unconfigured).after
      (run query call).after := by
  cases call with
  -- Both queries hold the new clause behind what was there, as it was made and as it was set up.
  | createTerm | createRange | createDateRange | createTermGroup | createGroup =>
      simp only [run, unconfigured, Change.made_after, Query.create_term_eq, Query.create_range_eq,
        Query.create_date_range_eq, Query.create_term_group_eq, Query.create_group_eq]
      exact query.last_changed_of_add _ _
  | _ => exact Query.last_changed_id _

/-- Calls one after another: in front what the query held, then one clause for each call that
succeeded in adding one, as that call describes it. A call fails just for a boost or a fuzziness
that is refused, the fuzziness first, and then it changes nothing. What a caller does to a new
clause changes the last clause alone. -/
theorem calls_append_successes (initial : Query) (calls : List Call) :
    (runAll initial calls).1.length = calls.length ∧
    (∃ added, List.Forall₂ Adds (adding calls (runAll initial calls).1) added ∧
      (runAll initial calls).2 =
        ⟨lastOperator initial.operator calls, initial.children ++ added, initial.decoration⟩) ∧
    (∀ query call problem,
      (run query call).outcome = .error problem ↔ Refuses call problem) ∧
    (∀ query call problem,
      (run query call).outcome = .error problem → (run query call).after = query) ∧
    ∀ query call, Query.LastChanged call.configuration (run query call.unconfigured).after
      (run query call).after :=
  ⟨run_all_length initial calls, run_all_eq initial calls, run_error_iff, run_error_unchanged,
    run_configured⟩

/-- A refused call leaves no trace, and a term that was prohibited is required by its call. -/
theorem mixed_calls_append :
    (run (.ofOperator .and) (.matchTerm none (.ofText "lost".toList) (some (-1)) none)).after =
        .ofOperator .and ∧
      ∃ added,
        List.Forall₂ Adds
          [.requireTerm (some "status".toList) ⟨"open".toList, none, ⟨[], .prohibit, .zero⟩⟩]
          added ∧
        (runAll (.ofOperator .and)
          [.matchTerm none (.ofText "lost".toList) (some (-1)) none, .setOperator .or,
            .requireTerm (some "status".toList)
              ⟨"open".toList, none, ⟨[], .prohibit, .zero⟩⟩]).2 = ⟨.or, added, .plain⟩ := by
  obtain ⟨-, run_all, -, unchanged, -⟩ := calls_append_successes (.ofOperator .and)
    [.matchTerm none (.ofText "lost".toList) (some (-1)) none, .setOperator .or,
      .requireTerm (some "status".toList) ⟨"open".toList, none, ⟨[], .prohibit, .zero⟩⟩]
  exact ⟨unchanged _ _ (.invalidBoost (-1)) rfl, run_all⟩

end Call

end LuceneQuery
