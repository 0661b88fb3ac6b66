import LuceneQuery.Proofs.BuiltNodes
import LuceneQuery.Proofs.Defaults

/-!
# Groups of terms spelled out

A clause that lists terms means the group of them: it can be replaced, wherever it stands, by a
group clause that has a clause of its own for each term. The query then shows the same, and where
the document is refused it is refused for the same reason in the same place.

Building is compared by what the nodes render to, since one tree has a group of terms where the
other has a group of clauses.
-/

namespace LuceneQuery

set_option autoImplicit false

/-- The clause of one term. Its field is none, whatever the default. -/
def Scalar.clause (scalar : Scalar) : Clause :=
  ⟨{ kind := .term, field := some [], value := some scalar }, none⟩

namespace ClauseOptions

/-- The operator between the terms of a clause. A text that is no operator is kept as it is. -/
def writtenOperator (options : ClauseOptions) (settings : Settings) : Text :=
  match resolveOperator options.operator settings.collectionOperator with
  | .ok operator => operator.keyword
  | .error _ => options.operator.getD []

def spelledOut (options : ClauseOptions) (settings : Settings) (values : List Scalar) : Clause :=
  ⟨{ kind := .group
     field := options.field
     exclusion := options.exclusion
     boost := options.boost
     operator := some (options.writtenOperator settings) },
    some (values.map Scalar.clause)⟩

theorem read_written_operator (options : ClauseOptions) (settings : Settings) :
    Operator.read (options.writtenOperator settings) =
      resolveOperator options.operator settings.collectionOperator := by
  unfold writtenOperator
  cases given : options.operator with
  | none => exact settings.collectionOperator.read_keyword
  | some text =>
      simp only [resolveOperator, Option.getD_some]
      cases read : Operator.read text with
      | ok operator => exact operator.read_keyword
      | error problem => exact read

end ClauseOptions

/-- The clauses with the one of that number changed. -/
def changeAt (change : Clause → Clause) (clauses : List Clause) : Nat → List Clause
  | 0 => clauses
  | index + 1 => clauses.modify index change

/-- The clause with another one in the place that the position leads to. -/
def Clause.replaceAt (replacement : Clause) : Position → Clause → Clause
  | [], _ => replacement
  | number :: inner, clause =>
      ⟨clause.options,
        clause.clauses.map fun nested => changeAt (replaceAt replacement inner) nested number⟩

def Document.replaceAt (document : Document) (text : String) (replacement : Clause) : Document :=
  match Position.ofText text with
  | [] => document
  | number :: inner =>
      { document with
        clauses := changeAt (Clause.replaceAt replacement inner) document.clauses number }

theorem pick_change_at (change : Clause → Clause) (clauses : List Clause) (number : Nat) :
    pick (changeAt change clauses number) number = (pick clauses number).map change := by
  cases number with
  | zero => rfl
  | succ index =>
      rw [changeAt, pick, pick, List.getElem?_modify_eq]
      rfl

theorem Clause.reach_replace_at (replacement found : Clause) (inner : Position) :
    ∀ clause : Clause, clause.reach inner = some found →
      (replaceAt replacement inner clause).reach inner = some replacement := by
  induction inner with
  | nil =>
      intro clause _
      rfl
  | cons number inner induction =>
      intro clause reached
      obtain ⟨child, picked, deeper⟩ := Option.bind_eq_some_iff.mp reached
      obtain ⟨options, _ | nested⟩ := clause
      · cases number <;> cases picked
      · have moved : pick (changeAt (replaceAt replacement inner) nested number) number =
            some (replaceAt replacement inner child) := by
          rw [pick_change_at]
          exact congrArg (Option.map _) picked
        change (pick _ number).bind _ = _
        exact (congrArg (Option.bind · _) moved).trans (induction child deeper)

/-- The replacement stands where the clause stood. -/
theorem Document.clause_at_replace_at (document : Document) (position : String)
    (replacement found : Clause) (met : document.clauseAt position = some found) :
    (document.replaceAt position replacement).clauseAt position = some replacement := by
  unfold clauseAt at met ⊢
  unfold replaceAt
  cases spelled : Position.ofText position with
  | nil =>
      rw [spelled] at met
      cases met
  | cons number inner =>
      rw [spelled] at met
      obtain ⟨outer, picked, reached⟩ := Option.bind_eq_some_iff.mp met
      have deeper := Clause.reach_replace_at replacement found inner outer reached
      have moved : pick (changeAt (Clause.replaceAt replacement inner) document.clauses number)
          number = some (Clause.replaceAt replacement inner outer) := by
        rw [pick_change_at, picked]
        rfl
      exact (congrArg (Option.bind · _) moved).trans deeper

/-- What a query shows to one who does not look into its tree. -/
structure Summary where
  rendering : Text
  empty : Bool
  length : Nat

def Query.summary (query : Query) : Summary :=
  ⟨query.render, query.isEmpty, query.children.length⟩

namespace Node

theorem render_redecorate (node : Node) (decoration : Decoration) :
    (node.redecorate decoration).render = decoration.apply node.content := by
  cases node <;> rfl

theorem content_terms (terms : List Term) (operator : Operator) (decoration : Decoration) :
    (Node.terms ⟨terms, operator, decoration⟩).content =
      (Node.group operator (terms.map Node.term) decoration).content := by
  rw [content, content, TermGroup.content, render_all_eq_map, List.map_map]
  rfl

theorem content_group_of_renderings (operator : Operator) (first second : List Node)
    (decoration : Decoration) (same : first.map render = second.map render) :
    (Node.group operator first decoration).content =
      (Node.group operator second decoration).content := by
  rw [content, content, render_all_eq_map, render_all_eq_map, same]

end Node

theorem Query.summary_of_renderings (operator : Operator) (first second : List Node)
    (decoration : Decoration) (same : first.map Node.render = second.map Node.render) :
    summary ⟨operator, first, decoration⟩ = summary ⟨operator, second, decoration⟩ := by
  have rendering :
      render ⟨operator, first, decoration⟩ = render ⟨operator, second, decoration⟩ := by
    simp only [render, toNode, Node.render, Node.render_all_eq_map, same]
  have every : ∀ nodes : List Node, (nodes.all fun node => node.render.isEmpty) =
      (nodes.map Node.render).all List.isEmpty := by
    intro nodes
    rw [List.all_map]
    rfl
  have empty : isEmpty ⟨operator, first, decoration⟩ = isEmpty ⟨operator, second, decoration⟩ := by
    simp only [isEmpty, toNode, Node.isEmpty, every, same]
  have length : first.length = second.length := by
    rw [← List.length_map Node.render, same, List.length_map]
  rw [summary, summary, rendering, empty, length]

theorem ClauseOptions.decorate_renderings (options other : ClauseOptions) (settings : Settings)
    (position : Position) (first second : Node)
    (marks : options.decoration settings first.decoration =
      other.decoration settings second.decoration)
    (content : first.content = second.content) :
    ((options.decorate settings first).at position).map Node.render =
      ((other.decorate settings second).at position).map Node.render := by
  rw [decorate_eq, decorate_eq, marks]
  cases other.decoration settings second.decoration with
  | error fault => rfl
  | ok decoration =>
      change Except.ok _ = Except.ok _
      rw [Node.render_redecorate, Node.render_redecorate, content]

namespace Clause

variable (settings : Settings) (clock : Clock)

/-- Built in any one place the clauses render alike, or are refused alike. -/
def Alike (first second : Clause) : Prop :=
  ∀ position, (first.build settings clock position).map Node.render =
    (second.build settings clock position).map Node.render

theorem build_term_clause (scalar : Scalar) (position : Position) :
    scalar.clause.build settings clock position = .ok (.term scalar.term) := by
  have zero : Weight.ofFloat? 0 = some .zero := weight_of_float 0 Weight.zero.accepted
  have boosted : Decoration.plain.withBoost 0 = .made .plain := by
    rw [Decoration.withBoost, zero]
    rfl
  have unmarked : scalar.clause.options.decoration settings .plain = .ok .plain := by
    unfold ClauseOptions.decoration
    simp only [bind_eq_ok, Checked.of_query_eq_ok]
    exact ⟨.none, rfl, congrArg Change.result boosted⟩
  have decorated : scalar.clause.options.decorate settings (.term scalar.term) =
      .ok (.term scalar.term) := by
    rw [ClauseOptions.decorate_eq]
    exact congrArg (Except.map _) unmarked
  rw [build_eq]
  exact congrArg (Checked.at · position) decorated

theorem build_term_clauses (values : List Scalar) (position : Position) : ∀ number,
    buildAll settings clock position number (values.map Scalar.clause) =
      .ok (values.map fun value => .term value.term) := by
  induction values with
  | nil =>
      intro number
      rfl
  | cons value later induction =>
      intro number
      rw [List.map_cons, buildAll, build_term_clause, induction (number + 1)]
      rfl

/-- The group with a clause for each term is built as the group of terms is. -/
theorem spelled_out_alike (clause : Clause) (values : List Scalar)
    (kind : clause.options.kind = .terms) (held : clause.options.values = some values)
    (accepted : clause.unaccepted = []) :
    (clause.options.spelledOut settings values).Alike settings clock clause := by
  intro position
  have checked := (check_options_eq_ok clause).mpr accepted
  have operators := clause.options.read_written_operator settings
  have made : clause.bare settings clock position =
      (Checked.ofQuery (Operator.read (clause.options.writtenOperator settings))).at position >>=
        fun operator => .ok
          (.terms ((TermGroup.ofOperator operator).addAll (values.map Scalar.term))) := by
    rw [operators]
    unfold bare
    simp only [kind, ClauseOptions.terms, held]
    cases resolveOperator clause.options.operator settings.collectionOperator <;> rfl
  have spelled : (clause.options.spelledOut settings values).bare settings clock position =
      (Checked.ofQuery (Operator.read (clause.options.writtenOperator settings))).at position >>=
        fun operator => .ok (.group operator (values.map fun value => .term value.term) .plain) := by
    have children := build_term_clauses settings clock values position 1
    change (_ >>= fun operator =>
      buildAll settings clock position 1 (values.map Scalar.clause) >>= _) = _
    rw [children]
    rfl
  rw [build_eq, build_eq, checked, made, spelled]
  cases Operator.read (clause.options.writtenOperator settings) with
  | error problem => rfl
  | ok operator =>
      refine ClauseOptions.decorate_renderings _ _ settings position _ _ rfl ?_
      have listed := Node.content_terms (values.map Scalar.term) operator .plain
      rw [List.map_map] at listed
      exact listed.symm

/-- What the clauses of a list render to, or the first error among them. -/
def renderings (position : Position) (number : Nat) (clauses : List Clause) :
    Except DocumentError (List Text) :=
  (buildAll settings clock position number clauses).map (List.map Node.render)

theorem renderings_cons (position : Position) (number : Nat) (clause : Clause)
    (later : List Clause) :
    renderings settings clock position number (clause :: later) = (do
      let first ← (clause.build settings clock (position ++ [number])).map Node.render
      let rest ← renderings settings clock position (number + 1) later
      return first :: rest) := by
  unfold renderings
  rw [buildAll]
  cases clause.build settings clock (position ++ [number]) with
  | error problem => rfl
  | ok node => cases buildAll settings clock position (number + 1) later <;> rfl

theorem renderings_modify (change : Clause → Clause) (clauses : List Clause)
    (position : Position) : ∀ (index number : Nat),
      (∀ clause, clauses[index]? = some clause → (change clause).Alike settings clock clause) →
        renderings settings clock position number (clauses.modify index change) =
          renderings settings clock position number clauses := by
  induction clauses with
  | nil =>
      intro index number _
      rw [List.modify_nil]
  | cons clause later induction =>
      intro index number alike
      cases index with
      | zero =>
          have here := alike clause rfl (position ++ [number])
          rw [List.modify_zero_cons, renderings_cons, renderings_cons, here]
      | succ index =>
          rw [List.modify_succ_cons, renderings_cons, renderings_cons,
            induction index (number + 1) alike]

theorem renderings_change_at (change : Clause → Clause) (clauses : List Clause)
    (position : Position) (number : Nat)
    (alike : ∀ clause, pick clauses number = some clause →
      (change clause).Alike settings clock clause) :
    renderings settings clock position 1 (changeAt change clauses number) =
      renderings settings clock position 1 clauses := by
  cases number with
  | zero => rfl
  | succ index => exact renderings_modify settings clock change clauses position index 1 alike

/-- Only a group is built from the clauses in it, and only from what they render to. -/
theorem nested_alike (options : ClauseOptions) (nested other : List Clause)
    (same : ∀ position, renderings settings clock position 1 other =
      renderings settings clock position 1 nested) :
    Alike settings clock ⟨options, some other⟩ ⟨options, some nested⟩ := by
  intro position
  have checked : checkOptions ⟨options, some other⟩ = checkOptions ⟨options, some nested⟩ := rfl
  rw [build_eq, build_eq, checked]
  cases checkOptions ⟨options, some nested⟩ with
  | error fault => rfl
  | ok _ =>
      -- The nested clauses of any other kind are not built at all.
      by_cases group : options.kind = .group
      · simp only [bare, group, Clause.nested, Option.getD_some]
        cases (options.groupOperator settings).at position with
        | error problem => rfl
        | ok operator =>
            change Except.map _ ((_ >>= fun _ => .ok _) >>= _) =
              Except.map _ ((_ >>= fun _ => .ok _) >>= _)
            rw [bind_assoc, bind_assoc]
            apply map_bind_eq_of_alike (same position)
            intro first second alike
            refine ClauseOptions.decorate_renderings _ _ settings position _ _ rfl ?_
            exact Node.content_group_of_renderings operator first second .plain alike
      · have unchanged : bare settings clock position ⟨options, some other⟩ =
            bare settings clock position ⟨options, some nested⟩ := by
          unfold bare
          cases kind : options.kind <;> first | rfl | exact absurd kind group
        rw [unchanged]

theorem replace_at_alike (replacement found : Clause)
    (alike : replacement.Alike settings clock found) (inner : Position) : ∀ clause : Clause,
      clause.reach inner = some found →
        (replaceAt replacement inner clause).Alike settings clock clause := by
  -- Down the position: a group on the way differs in the one clause that leads on.
  induction inner with
  | nil =>
      intro clause reached
      obtain rfl : clause = found := Option.some.inj reached
      exact alike
  | cons number inner induction =>
      intro clause reached
      obtain ⟨child, picked, deeper⟩ := Option.bind_eq_some_iff.mp reached
      obtain ⟨options, _ | nested⟩ := clause
      · cases number <;> cases picked
      · apply nested_alike
        intro position
        apply renderings_change_at settings clock _ nested position number
        intro met same
        obtain rfl : child = met := Option.some.inj (picked.symm.trans same)
        exact induction child deeper

end Clause

namespace Document

/-- Replaced by a clause that builds alike, a clause leaves no trace in what the query shows. -/
theorem summary_of_replaced (document : Document) (settings : Settings) (clock : Clock)
    (position : String) (replacement found : Clause)
    (met : document.clauseAt position = some found)
    (alike : replacement.Alike settings clock found) :
    ((document.replaceAt position replacement).build settings clock).map Query.summary =
      (document.build settings clock).map Query.summary := by
  unfold clauseAt at met
  cases spelled : Position.ofText position with
  | nil =>
      rw [spelled] at met
      cases met
  | cons number inner =>
      rw [spelled] at met
      obtain ⟨outer, picked, reached⟩ := Option.bind_eq_some_iff.mp met
      have replaced : ∀ clause, pick document.clauses number = some clause →
          (Clause.replaceAt replacement inner clause).Alike settings clock clause := by
        intro clause same
        obtain rfl : outer = clause := Option.some.inj (picked.symm.trans same)
        exact Clause.replace_at_alike settings clock replacement found alike inner outer reached
      have listed :=
        Clause.renderings_change_at settings clock _ document.clauses [] number replaced
      unfold replaceAt build
      rw [spelled]
      cases resolveOperator document.operator settings.operator with
      | error problem => rfl
      | ok operator =>
          apply map_bind_eq_of_alike listed
          intro first second same
          exact congrArg Except.ok (Query.summary_of_renderings operator first second .plain same)

/-- A clause that lists terms means the group of them, at the top or in any group. -/
theorem terms_clause_is_group (document : Document) (settings : Settings) (clock : Clock)
    (position : String) (clause : Clause) (values : List Scalar)
    (found : document.clauseAt position = some clause) (kind : clause.options.kind = .terms)
    (held : clause.options.values = some values) (accepted : clause.unaccepted = []) :
    let group := clause.options.spelledOut settings values
    (document.replaceAt position group).clauseAt position = some group ∧
      ((document.replaceAt position group).build settings clock).map Query.summary =
        (document.build settings clock).map Query.summary := by
  intro group
  have alike : group.Alike settings clock clause :=
    Clause.spelled_out_alike settings clock clause values kind held accepted
  constructor
  · exact document.clause_at_replace_at position group clause found
  · exact document.summary_of_replaced settings clock position group clause found alike

/-- Terms in a group, one of them blank, under an operator of their own. -/
def nestedTerms : Document :=
  ⟨none,
    [⟨{ kind := .group },
      some
        [⟨{ kind := .term, value := some (.text ['a']) }, none⟩,
          ⟨{ kind := .terms, exclusion := some ['-'], operator := some "or".toList,
             values := some [.integer 3, .text [' '], .float 0.5, .text ['b', ' ', 'c']] },
            none⟩]⟩]⟩

theorem nested_terms_are_group :
    ∃ clause values, nestedTerms.clauseAt "1.2" = some clause ∧
      clause.options.values = some values ∧
      ((nestedTerms.replaceAt "1.2" (clause.options.spelledOut {} values)).build
          {} (.still ⟨0, 0, 0⟩)).map Query.summary =
        .ok ⟨"(a AND -(3 OR 0.5 OR \"b c\"))".toList, false, 1⟩ := by
  refine ⟨_, _, rfl, rfl, ?_⟩
  have same :=
    terms_clause_is_group nestedTerms {} (.still ⟨0, 0, 0⟩) "1.2" _ _ rfl rfl rfl (by decide)
  exact same.2.trans rfl

end Document

end LuceneQuery
