import LuceneQuery.Proofs.BuiltNodes
import LuceneQuery.Proofs.Emptiness

/-!
# Ranges that show

What a node renders to stands in the rendering of every tree around it, up to white space at its
ends. A range of a document shows there just when one of its bounds says something: a bound that
is blank text is given, and is open all the same.
-/

namespace LuceneQuery

set_option autoImplicit false

namespace Text

theorem trim_start_append (text rest : Text) (filled : rest ≠ [])
    (starts : startsBlank rest = false) : trimStart (text ++ rest) = trimStart text ++ rest := by
  obtain ⟨c, later, rfl⟩ := List.exists_cons_of_ne_nil filled
  have solid : isBlank c = false := by simpa [startsBlank] using starts
  exact trim_start_append_cons text later c solid

theorem trim_end_append (text rest : Text) (filled : text ≠ []) (ends : endsBlank text = false) :
    trimEnd (text ++ rest) = text ++ trimEnd rest := by
  have reversed :
      trimStart (rest.reverse ++ text.reverse) = trimStart rest.reverse ++ text.reverse :=
    trim_start_append _ _ (by simpa using filled) (by simpa [startsBlank, endsBlank] using ends)
  unfold trimEnd
  rw [List.reverse_append, ← trimStart, reversed, List.reverse_append, List.reverse_reverse]
  rfl

/-- Trimming takes nothing off a part that is trimmed itself. -/
theorem infix_trim (part text : Text) (filled : part ≠ []) (trimmed : trim part = part)
    (inside : part <:+: text) : part <:+: trim text := by
  obtain ⟨before, after, rfl⟩ := inside
  have starts : startsBlank (part ++ after) = false := by
    rw [starts_blank_append part after filled, ← trimmed]
    exact starts_blank_trim part
  have ends : endsBlank (trimStart before ++ part) = false := by
    obtain ⟨c, rest, same⟩ := List.exists_cons_of_ne_nil filled
    rw [same, ends_blank_append_cons, ← same, ← trimmed]
    exact ends_blank_trim part
  rw [trim, List.append_assoc, trim_start_append before _ (by simp [filled]) starts,
    ← List.append_assoc, trim_end_append _ after (by simp [filled]) ends]
  exact ⟨trimStart before, trimEnd after, rfl⟩

end Text

theorem infix_intercalate (between : Text) (parts : List Text) (part : Text)
    (member : part ∈ parts) : part <:+: List.intercalate between parts := by
  induction parts with
  | nil => cases member
  | cons first later induction =>
      cases later with
      | nil =>
          rw [List.mem_singleton] at member
          have alone : part = List.intercalate between [first] := by
            rw [member, List.intercalate_singleton]
          exact alone ▸ List.infix_rfl
      | cons second rest =>
          rw [List.intercalate_cons_cons, List.append_assoc]
          cases member with
          | head => exact (List.prefix_append part _).isInfix
          | tail _ behind =>
              have deeper := (induction behind).trans (List.suffix_append between _).isInfix
              exact deeper.trans (List.suffix_append first _).isInfix

/-- Whatever shows among the children of a group stands in what they are joined to. -/
theorem infix_join_rendered (operator : Operator) (rendered : List Text) (text : Text)
    (filled : text ≠ []) (member : text ∈ rendered) : text <:+: joinRendered operator rendered := by
  have shown : text ∈ rendered.filter fun text => !text.isEmpty :=
    List.mem_filter.mpr ⟨member, by simpa using filled⟩
  unfold joinRendered
  split
  · next none => simp [none] at shown
  · next single only =>
      obtain rfl : text = single := by simpa [only] using shown
      exact List.infix_rfl
  · next several _ _ =>
      have inside := infix_intercalate (' ' :: operator.keyword ++ [' ']) _ text shown
      exact inside.trans ⟨['('], [')'], rfl⟩

theorem Decoration.trim_infix_apply (decoration : Decoration) (content : Text) :
    Text.trim content <:+: decoration.apply content := by
  unfold apply
  split
  · next empty => simp [empty]
  · exact ⟨decoration.signText ++ decoration.fieldText, decoration.boostText, rfl⟩

namespace Node

theorem infix_render_of_child (node child : Node) (member : child ∈ node.children) (part : Text)
    (filled : part ≠ []) (trimmed : Text.trim part = part) (inside : part <:+: child.render) :
    part <:+: node.render := by
  cases node with
  | term => cases member
  | range => cases member
  | terms => cases member
  | group operator children decoration =>
      have shows : child.render ≠ [] := by
        intro empty
        rw [empty, List.infix_nil] at inside
        exact filled inside
      have joined := infix_join_rendered operator (renderAll children) child.render shows
        (by rw [render_all_eq_map]; exact List.mem_map_of_mem member)
      rw [render]
      exact (Text.infix_trim part _ filled trimmed (inside.trans joined)).trans
        (decoration.trim_infix_apply _)

theorem infix_render_of_reach (position : Position) : ∀ (node below : Node) (part : Text),
    part ≠ [] → Text.trim part = part → node.reach position = some below →
      part <:+: below.render → part <:+: node.render := by
  induction position with
  | nil =>
      intro node below part _ _ reached inside
      obtain rfl : node = below := by simpa [reach] using reached
      exact inside
  | cons number inner induction =>
      intro node below part filled trimmed reached inside
      obtain ⟨child, counted, deeper⟩ := Option.bind_eq_some_iff.mp reached
      exact node.infix_render_of_child child (node.child_mem child number counted) part filled
        trimmed (induction child below part filled trimmed deeper inside)

end Node

namespace Decoration

/-- No sign is lost to trimming: only white space of the field's name is. -/
theorem sign_prefix_trim_apply (decoration : Decoration) (content : Text)
    (filled : Text.trim content ≠ []) :
    decoration.signText <+: Text.trim (decoration.apply content) := by
  by_cases unsigned : decoration.exclusion = .none
  · have none : decoration.signText = [] := by simp [signText, unsigned, Exclusion.sign]
    rw [none]
    exact List.nil_prefix
  · have solid : Text.startsBlank (decoration.apply content) = false := by
      rw [← Bool.not_eq_true, starts_blank_apply_iff]
      exact fun opens => unsigned opens.2.1
    rw [Text.trim_of_ends _ solid (decoration.ends_blank_apply content)]
    unfold apply
    split
    · next empty => exact absurd empty filled
    · rw [List.append_assoc, List.append_assoc]
      exact List.prefix_append _ _

end Decoration

namespace Range

/-- The range stands in the text with its brackets, and behind its sign if it has one. White space
that opens the name of a field without a sign may be missing. -/
structure ShowsIn (range : Range) (text : Text) : Prop where
  filled : range.content ≠ []
  content : range.content <:+: Text.trim range.render
  signed : range.decoration.signText <+: Text.trim range.render
  inside : Text.trim range.render <:+: text

theorem trim_content (range : Range) : Text.trim range.content = range.content := by
  have solid : ∀ inclusive : Bool, Text.isBlank (if inclusive then '[' else '\x7b') = false ∧
      Text.isBlank (if inclusive then ']' else '\x7d') = false := by decide
  unfold content
  split
  · rfl
  · apply Text.trim_of_ends
    · simpa [Text.startsBlank, opening] using (solid range.inclusive).1
    · rw [Text.ends_blank_append_cons]
      simpa [Text.endsBlank, closing] using (solid range.inclusive).2

theorem content_eq_nil_iff (range : Range) : range.content = [] ↔ range.isEmpty = true := by
  unfold content
  split <;> simp_all

/-- Wherever a range that is not open at both ends is reached in a tree, it shows. -/
theorem shows_in_iff (range : Range) (node : Node) (position : Position)
    (reached : node.reach position = some (.range range)) :
    range.ShowsIn node.render ↔ range.isEmpty = false := by
  constructor
  · intro shows
    rw [← Bool.not_eq_true, ← content_eq_nil_iff]
    exact shows.filled
  · intro held
    have filled : range.content ≠ [] := by
      rw [Ne, content_eq_nil_iff, held]
      exact Bool.false_ne_true
    have kept : Text.trim range.content ≠ [] := by rwa [trim_content]
    have inside : range.content <:+: range.render := by
      have applied := range.decoration.trim_infix_apply range.content
      rwa [trim_content] at applied
    have content := Text.infix_trim _ _ filled range.trim_content inside
    refine ⟨filled, content, range.decoration.sign_prefix_trim_apply _ kept, ?_⟩
    apply node.infix_render_of_reach position _ _ ?_ (Text.trim_trim _) reached
    · exact Text.trim_infix_self _
    · intro empty
      rw [empty, List.infix_nil] at content
      exact filled content

end Range

/-- White space, or no character at all. -/
def Scalar.IsBlank (scalar : Scalar) : Prop :=
  ∃ given, scalar = .text given ∧ ∀ c ∈ given, Text.isBlank c = true

theorem BoundFormat.normalize_open_iff (format : BoundFormat) (now : Timestamp)
    (given : Option Scalar) :
    format.normalize now (ClauseOptions.boundOf given) = .unbounded ↔
      ∀ scalar ∈ given, scalar.IsBlank := by
  cases given with
  | none => simp [ClauseOptions.boundOf, normalize]
  | some scalar =>
      cases scalar with
      | integer value => simp [ClauseOptions.boundOf, Scalar.bound, normalize, Scalar.IsBlank]
      | float value => simp [ClauseOptions.boundOf, Scalar.bound, normalize, Scalar.IsBlank]
      | text given =>
          have blank : (∀ scalar ∈ some (Scalar.text given), scalar.IsBlank) ↔
              Text.trim given = [] := by
            simp [Scalar.IsBlank, Text.trim_eq_nil_iff]
          rw [blank]
          simp only [ClauseOptions.boundOf, Scalar.bound, normalize, List.isEmpty_iff]
          split
          · next empty => simp [empty]
          · next filled => split <;> simp [filled]

namespace ClauseOptions

/-- Some bound is given that is not blank text. -/
def HasBound (options : ClauseOptions) : Prop :=
  ∃ scalar, (options.start = some scalar ∨ options.stop = some scalar) ∧ ¬ scalar.IsBlank

theorem not_has_bound_iff (options : ClauseOptions) :
    ¬ options.HasBound ↔
      (∀ scalar ∈ options.start, scalar.IsBlank) ∧ ∀ scalar ∈ options.stop, scalar.IsBlank := by
  simp [HasBound, or_imp, forall_and]

theorem range_is_empty_iff (options : ClauseOptions) (format : BoundFormat)
    (now later : Timestamp) (node : Node) (made : options.range format now later = .ok node) :
    ∃ held : Range, node = .range held ∧ (held.isEmpty = false ↔ options.HasBound) := by
  unfold range at made
  split at made
  · cases made
  · cases made
    refine ⟨_, rfl, ?_⟩
    rw [← Bool.not_eq_true, Range.is_empty_iff, not_iff_comm, not_has_bound_iff,
      ← BoundFormat.normalize_open_iff format now, ← BoundFormat.normalize_open_iff format later]
    rfl

end ClauseOptions

/-- What a range clause becomes, and when it is open at both ends. -/
theorem Clause.becomes_range (settings : Settings) (clock : Clock) (clause : Clause)
    (ranged : clause.options.kind = .range ∨ clause.options.kind = .dateRange) (node : Node)
    (becomes : clause.Becomes settings clock node) :
    ∃ held : Range, node = .range held ∧
      Exclusion.read (clause.options.exclusion.getD []) = .ok held.decoration.exclusion ∧
      (held.isEmpty = false ↔ clause.options.HasBound) := by
  obtain ⟨position, built⟩ := becomes
  rw [build_eq] at built
  simp only [bind_eq_ok, Checked.at_eq_ok] at built
  obtain ⟨_, _, bare, made, decorated⟩ := built
  have signed := clause.options.decorate_exclusion settings bare node decorated
  obtain ⟨decoration, rfl⟩ := clause.options.decorate_eq_ok settings bare node decorated
  have ranges : ∃ held : Range, bare = .range held ∧
      (held.isEmpty = false ↔ clause.options.HasBound) := by
    unfold Clause.bare at made
    rcases ranged with kind | kind
    · simp only [kind, Checked.at_eq_ok] at made
      exact clause.options.range_is_empty_iff .plain _ _ bare made
    · simp only [kind, Checked.at_eq_ok] at made
      exact clause.options.range_is_empty_iff .date _ _ bare made
  obtain ⟨held, rfl, empty⟩ := ranges
  exact ⟨{ held with decoration := decoration }, rfl, signed, empty⟩

namespace Document

/-- Each range clause that is accepted becomes a range, in its place and under its sign. It shows
in the query just when some bound is given that is not blank text; otherwise it is empty. -/
theorem range_clause_shown_iff (document : Document) (settings : Settings) (clock : Clock)
    (query : Query) (built : document.build settings clock = .ok query) (position : String)
    (clause : Clause) (found : document.clauseAt position = some clause)
    (ranged : clause.options.kind = .range ∨ clause.options.kind = .dateRange) :
    ∃ held : Range, query.nodeAt position = some (.range held) ∧
      Exclusion.read (clause.options.exclusion.getD []) = .ok held.decoration.exclusion ∧
      (held.isEmpty = false ↔ clause.options.HasBound) ∧
      (held.ShowsIn query.render ↔ clause.options.HasBound) := by
  obtain ⟨node, placed, becomes⟩ :=
    document.becomes_node_at settings clock query built position clause found
  obtain ⟨held, rfl, signed, empty⟩ := clause.becomes_range settings clock ranged node becomes
  refine ⟨held, placed, signed, empty, ?_⟩
  rw [← empty]
  unfold Query.nodeAt at placed
  split at placed
  · cases placed
  · exact held.shows_in_iff query.toNode _ placed

/-- A prohibited range in a group, open at its blank start and bounded at its end. -/
def halfBlankRange : Document :=
  ⟨none,
    [⟨{ kind := .group },
      some
        [⟨{ kind := .range, exclusion := some ['-'], start := some (.text [' ']),
            stop := some (.integer 3) }, none⟩]⟩]⟩

theorem half_blank_range_shown :
    ∃ query, halfBlankRange.build {} (.still ⟨0, 0, 0⟩) = .ok query ∧
      query.render = "-[* TO 3]".toList ∧
      ∃ held : Range, query.nodeAt "1.1" = some (.range held) ∧ held.ShowsIn query.render := by
  obtain ⟨held, placed, _, _, shown⟩ :=
    range_clause_shown_iff halfBlankRange {} (.still ⟨0, 0, 0⟩) _ rfl "1.1" _ rfl (.inl rfl)
  refine ⟨_, rfl, by decide, held, placed, shown.mpr ?_⟩
  exact ⟨.integer 3, .inr rfl, fun ⟨_, text, _⟩ => nomatch text⟩

/-- A bound that is blank text passes for a bound, and the range that it leaves open is gone. -/
theorem blank_range_vanishes :
    ∃ query held,
      build ⟨none,
        [⟨{ kind := .range, exclusion := some ['-'], start := some (.text []) }, none⟩]⟩
        {} (.still ⟨0, 0, 0⟩) = .ok query ∧
      query.nodeAt "1" = some (.range held) ∧ held.decoration.exclusion = .prohibit ∧
      held.isEmpty = true ∧ query.render = [] :=
  ⟨_, _, rfl, rfl, rfl, rfl, by decide⟩

end Document

end LuceneQuery
