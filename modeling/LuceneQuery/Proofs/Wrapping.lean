import LuceneQuery.Proofs.BoundText
import LuceneQuery.Proofs.Token
import LuceneQuery.Node

/-!
# Groups around one clause

A group that shows no marks of its own and has one child that shows renders to the trimmed text of
that child, however many such groups stand around each other. Nothing is trimmed off a rendering
but white space at the start of a field's name, and only where no sign stands before the name and
the name needs no quotes.
-/

namespace LuceneQuery

set_option autoImplicit false

namespace Text

theorem trim_trim (text : Text) : trim (trim text) = trim text :=
  trim_of_ends _ (starts_blank_trim text) (ends_blank_trim text)

theorem starts_blank_append (text rest : Text) (filled : text ≠ []) :
    startsBlank (text ++ rest) = startsBlank text := by
  obtain ⟨c, later, rfl⟩ := List.exists_cons_of_ne_nil filled
  rfl

/-- A text that ends in no white space is trimmed at its start alone. -/
theorem trim_eq_self_iff (text : Text) (ends : endsBlank text = false) :
    trim text = text ↔ startsBlank text = false := by
  constructor
  · intro same
    rw [← same]
    exact starts_blank_trim text
  · exact fun starts => trim_of_ends text starts ends

end Text

namespace Decoration

/-- Nothing of the decoration shows. -/
structure Bare (decoration : Decoration) : Prop where
  field : decoration.field = []
  exclusion : decoration.exclusion = .none
  boost : decoration.boost.isPositive = false

theorem apply_of_bare (decoration : Decoration) (bare : decoration.Bare) (content : Text) :
    decoration.apply content = Text.trim content := by
  unfold apply
  split
  · next empty => rw [empty]
  · simp [signText, fieldText, boostText, bare.field, bare.exclusion, bare.boost, Exclusion.sign]

/-- White space opens the rendering: it is that of a field's name without a sign or a quote in
front. -/
def OpensBlank (decoration : Decoration) : Prop :=
  decoration.exclusion = .none ∧ Text.startsBlank decoration.field = true ∧
    needsQuotes decoration.field = false

instance (decoration : Decoration) : Decidable decoration.OpensBlank :=
  inferInstanceAs (Decidable (_ ∧ _ ∧ _))

theorem apply_eq_nil_iff (decoration : Decoration) (content : Text) :
    decoration.apply content = [] ↔ Text.trim content = [] := by
  unfold apply
  split
  · next empty => simp [empty]
  · next filled =>
      have shown : Text.trim content ≠ [] := filled
      simp [shown]

theorem ends_blank_boost_text (decoration : Decoration) :
    Text.endsBlank decoration.boostText = false := by
  unfold boostText
  split
  · next shown =>
      have number := plain_bound_of_number _ (decoration.boost.text_number_of_positive shown.2)
      exact Text.ends_blank_cons_of_solid '^' _ (by decide) (Text.ends_blank_of_all_solid _
        fun c member => bound_char_not_blank c (number.2 c member))
  · rfl

theorem ends_blank_apply (decoration : Decoration) (content : Text) :
    Text.endsBlank (decoration.apply content) = false := by
  unfold apply
  split
  · rfl
  · next filled =>
      apply Text.ends_blank_append_of_solid _ _ _ decoration.ends_blank_boost_text
      obtain ⟨c, rest, same⟩ := List.exists_cons_of_ne_nil filled
      rw [same, Text.ends_blank_append_cons, ← same]
      exact Text.ends_blank_trim content

theorem starts_blank_field_text (decoration : Decoration) (rest : Text)
    (solid : Text.startsBlank rest = false) :
    Text.startsBlank (decoration.fieldText ++ rest) = true ↔
      Text.startsBlank decoration.field = true ∧ needsQuotes decoration.field = false := by
  unfold fieldText
  split
  · next unset =>
      have empty : decoration.field = [] := by simpa using unset
      have none : Text.startsBlank [] = false := rfl
      simp [empty, solid, none]
  · next set =>
      have named : decoration.field ≠ [] := by simpa using set
      cases quotes : needsQuotes decoration.field with
      | true =>
          rw [escape_token_of_quotes _ quotes]
          simp [Text.startsBlank, Text.isBlank]
      | false =>
          rw [escape_token_of_bare _ quotes, List.append_assoc, Text.starts_blank_append _ _ named]
          simp

theorem starts_blank_apply_iff (decoration : Decoration) (content : Text) :
    Text.startsBlank (decoration.apply content) = true ↔
      Text.trim content ≠ [] ∧ decoration.OpensBlank := by
  unfold apply
  split
  · next empty => simp [empty, Text.startsBlank]
  · next filled =>
      have shown : Text.trim content ≠ [] := filled
      have solid : Text.startsBlank (Text.trim content ++ decoration.boostText) = false := by
        rw [Text.starts_blank_append _ _ filled]
        exact Text.starts_blank_trim content
      rw [List.append_assoc, List.append_assoc]
      rw [and_iff_right shown, OpensBlank]
      cases mode : decoration.exclusion with
      | none =>
          simpa [signText, mode, Exclusion.sign] using decoration.starts_blank_field_text _ solid
      | require => simp [signText, mode, Exclusion.sign, Text.startsBlank, Text.isBlank]
      | prohibit => simp [signText, mode, Exclusion.sign, Text.startsBlank, Text.isBlank]

end Decoration

/-- Where all other children render to nothing a group is its one child. -/
theorem join_rendered_single (operator : Operator) (before after : List Text) (single : Text)
    (blank : ∀ sibling ∈ before ++ after, sibling = []) :
    joinRendered operator (before ++ single :: after) = single := by
  have gone : ∀ siblings : List Text, (∀ sibling ∈ siblings, sibling ∈ before ++ after) →
      siblings.filter (fun text => !text.isEmpty) = [] := by
    intro siblings among
    rw [List.filter_eq_nil_iff]
    intro sibling member
    simp [blank sibling (among sibling member)]
  have front := gone before fun _ member => List.mem_append_left _ member
  have back := gone after fun _ member => List.mem_append_right _ member
  unfold joinRendered
  rw [List.filter_append, List.filter_cons, front, back]
  cases single <;> rfl

/-- A group around one clause: it shows no marks, and its other children render to nothing. -/
structure Wrapper where
  operator : Operator
  before : List Node
  after : List Node
  decoration : Decoration
  blank : ∀ sibling ∈ before ++ after, sibling.render = []
  bare : decoration.Bare

namespace Wrapper

def around (wrapper : Wrapper) (node : Node) : Node :=
  .group wrapper.operator (wrapper.before ++ node :: wrapper.after) wrapper.decoration

/-- The first wrapper is the outermost. -/
def aroundAll (wrappers : List Wrapper) (node : Node) : Node := wrappers.foldr around node

theorem render_around (wrapper : Wrapper) (node : Node) :
    (wrapper.around node).render = Text.trim node.render := by
  have blank : ∀ sibling ∈ wrapper.before.map Node.render ++ wrapper.after.map Node.render,
      sibling = [] := by
    rw [← List.map_append]
    exact List.forall_mem_map.mpr wrapper.blank
  rw [around, Node.render, Node.render_all_eq_map, List.map_append, List.map_cons,
    join_rendered_single _ _ _ _ blank, wrapper.decoration.apply_of_bare wrapper.bare]

/-- One group trims, and those around it find nothing more to trim. -/
theorem render_around_all (outer : Wrapper) (inner : List Wrapper) (node : Node) :
    (aroundAll (outer :: inner) node).render = Text.trim node.render := by
  induction inner generalizing outer with
  | nil => exact outer.render_around node
  | cons next later induction =>
      have inside := induction next
      rw [aroundAll, List.foldr_cons, render_around, ← aroundAll, inside, Text.trim_trim]

end Wrapper

/-- A group of terms around one term, in the same way. -/
structure TermWrapper where
  operator : Operator
  before : List Term
  after : List Term
  decoration : Decoration
  blank : ∀ sibling ∈ before ++ after, sibling.render = []
  bare : decoration.Bare

namespace TermWrapper

def around (wrapper : TermWrapper) (term : Term) : TermGroup :=
  ⟨wrapper.before ++ term :: wrapper.after, wrapper.operator, wrapper.decoration⟩

theorem render_around (wrapper : TermWrapper) (term : Term) :
    (wrapper.around term).render = Text.trim term.render := by
  have blank : ∀ sibling ∈ wrapper.before.map Term.render ++ wrapper.after.map Term.render,
      sibling = [] := by
    rw [← List.map_append]
    exact List.forall_mem_map.mpr wrapper.blank
  rw [around, TermGroup.render, TermGroup.content, List.map_append, List.map_cons,
    join_rendered_single _ _ _ _ blank, wrapper.decoration.apply_of_bare wrapper.bare]

end TermWrapper

namespace Node

theorem trim_render_eq_self_iff (node : Node) :
    Text.trim node.render = node.render ↔
      ¬ (node.render ≠ [] ∧ node.decoration.OpensBlank) := by
  have ends := node.decoration.ends_blank_apply node.content
  have starts := node.decoration.starts_blank_apply_iff node.content
  have empty := node.decoration.apply_eq_nil_iff node.content
  rw [← render_eq_apply] at ends starts empty
  rw [Text.trim_eq_self_iff _ ends, Ne, empty, ← Ne, ← starts, Bool.not_eq_true]

/-- Wrapped in groups without marks a clause renders as it does alone, but for white space at the
start of a name of a field that nothing stands before. -/
theorem wrapping_transparent_iff (node : Node) (outer : Wrapper) (inner : List Wrapper)
    (term : Term) (wrapper : TermWrapper) :
    ((Wrapper.aroundAll (outer :: inner) node).render = node.render ↔
        ¬ (node.render ≠ [] ∧ node.decoration.OpensBlank)) ∧
      ((wrapper.around term).render = term.render ↔
        ¬ (term.render ≠ [] ∧ term.decoration.OpensBlank)) := by
  constructor
  · rw [Wrapper.render_around_all]
    exact node.trim_render_eq_self_iff
  · rw [wrapper.render_around]
    exact (Node.term term).trim_render_eq_self_iff

/-- A wrapper with a clause of each kind that shows nothing. -/
def blankClauses : Wrapper where
  operator := .or
  before := [.term .unset, .range (.unset .date)]
  after := [.terms (.ofOperator .and), .group .and [.term (.ofText [' '])] .plain]
  decoration := .plain
  blank := by
    simp only [List.cons_append, List.nil_append, List.forall_mem_cons]
    exact ⟨rfl, rfl, rfl, rfl, nofun⟩
  bare := ⟨rfl, rfl, by decide⟩

/-- A blank term shows nothing under a sign either. -/
def blankTerms : TermWrapper where
  operator := .and
  before := [.unset]
  after := [⟨some ['\t'], none, ⟨['t'], .prohibit, .zero⟩⟩]
  decoration := .plain
  blank := by
    simp only [List.cons_append, List.nil_append, List.forall_mem_cons]
    exact ⟨rfl, rfl, nofun⟩
  bare := ⟨rfl, rfl, by decide⟩

/-- Under a sign or in quotes a field keeps white space in front of its name. -/
theorem wrapped_names_kept :
    let signed : Node := .term ⟨some ['x'], none, ⟨['\t', 't'], .prohibit, .zero⟩⟩
    let quoted : Term := ⟨some ['x'], none, ⟨[' ', 't'], .none, .zero⟩⟩
    (Wrapper.aroundAll [blankClauses, blankClauses] signed).render = signed.render ∧
      (blankTerms.around quoted).render = quoted.render := by
  intro signed quoted
  obtain ⟨clause, term⟩ :=
    wrapping_transparent_iff signed blankClauses [blankClauses] quoted blankTerms
  refine ⟨clause.mpr ?_, term.mpr ?_⟩
  · rintro ⟨_, unsigned, _⟩
    cases unsigned
  · rintro ⟨_, _, _, unquoted⟩
    cases unquoted

/-- A group takes the white space off the name of its one child's field. -/
theorem tab_in_name_lost :
    let named : Node := .term ⟨some ['x'], none, ⟨['\t', 't'], .none, .zero⟩⟩
    named.render = ['\t', 't', ':', 'x'] ∧
      (Node.group .and [named] .plain).render = ['t', ':', 'x'] := by
  decide

end Node

end LuceneQuery
