import LuceneQuery.Proofs.Pieces

/-!
# Trees with other texts

A tree with one text in every place that holds one: each value that is set, and each field name
that is set. Two trees are assignments of texts to one tree when this makes them the same. Texts
that are not blank show in the same places whatever they are.
-/

namespace LuceneQuery

set_option autoImplicit false

def Decoration.fill (token : Text) (decoration : Decoration) : Decoration :=
  if decoration.field.isEmpty then decoration else decoration.withField token

def Term.fill (token : Text) (term : Term) : Term :=
  { term with
    value := term.value.map fun _ => token
    decoration := term.decoration.fill token }

namespace Node

mutual

def fill (token : Text) : Node → Node
  | .term held => .term (held.fill token)
  | .range held => .range { held with decoration := held.decoration.fill token }
  | .terms held =>
      .terms ⟨held.terms.map (Term.fill token), held.operator, held.decoration.fill token⟩
  | .group operator children decoration =>
      .group operator (fillAll token children) (decoration.fill token)

def fillAll (token : Text) : List Node → List Node
  | [] => []
  | child :: later => child.fill token :: fillAll token later

end

theorem fill_all_eq_map (token : Text) (children : List Node) :
    fillAll token children = children.map (fill token) := by
  induction children with
  | nil => rfl
  | cons child later induction => simp [fillAll, induction]

/-- Both are one tree up to the texts in it. -/
def SameTree (first second : Node) : Prop := first.fill ['x'] = second.fill ['x']

/-- The texts that a node holds itself. -/
def ownTexts (node : Node) : List Text :=
  (if node.decoration.field.isEmpty then [] else [node.decoration.field]) ++
    match node with
    | .term held => held.value.toList
    | _ => []

def Nonblank (node : Node) : Prop :=
  ∀ inner ∈ node.nodes, ∀ text ∈ inner.ownTexts, Text.trim text ≠ []

instance (node : Node) : Decidable node.Nonblank :=
  inferInstanceAs (Decidable (∀ inner ∈ node.nodes, ∀ text ∈ inner.ownTexts, Text.trim text ≠ []))

end Node

def Mark.fill (token : Text) : Mark → Mark
  | .field _ => .field token
  | sign => sign

def Leaf.fill (token : Text) : Leaf → Leaf
  | .term _ fuzziness => .term token fuzziness
  | .range inclusive start stop => .range inclusive start stop

namespace Reading

mutual

def fill (token : Text) : Reading → Reading
  | .leaf marks held boosts => .leaf (marks.map (Mark.fill token)) (held.fill token) boosts
  | .group marks operator children boosts =>
      .group (marks.map (Mark.fill token)) operator (fillAll token children) boosts

def fillAll (token : Text) : List Reading → List Reading
  | [] => []
  | child :: later => child.fill token :: fillAll token later

end

theorem fill_all_eq_map (token : Text) (children : List Reading) :
    fillAll token children = children.map (fill token) := by
  induction children with
  | nil => rfl
  | cons child later induction => simp [fillAll, induction]

theorem marks_pieces_fill (token : Text) (marks : List Mark) :
    (marks.map (Mark.fill token)).flatMap Mark.pieces =
      (marks.flatMap Mark.pieces).map (Piece.fill token) := by
  induction marks with
  | nil => rfl
  | cons mark later induction =>
      rw [List.map_cons, List.flatMap_cons, List.flatMap_cons, List.map_append, induction]
      cases mark <;> rfl

theorem boost_pieces_fill (token : Text) (boosts : List Text) :
    (boostPieces boosts).map (Piece.fill token) = boostPieces boosts := by
  simp [boostPieces, Piece.fill]

theorem map_intercalate {First Second : Type} (change : First → Second) (between : List First)
    (parts : List (List First)) :
    (List.intercalate between parts).map change =
      List.intercalate (between.map change) (parts.map (List.map change)) := by
  induction parts with
  | nil => rfl
  | cons first later induction =>
      cases later with
      | nil => simp
      | cons second rest => simpa [List.intercalate] using induction

theorem pieces_fill (token : Text) (reading : Reading) :
    (reading.fill token).pieces = reading.pieces.map (Piece.fill token) := by
  induction reading with
  | leaf marks held boosts =>
      have core : (held.fill token).pieces = held.pieces.map (Piece.fill token) := by
        cases held with
        | term value fuzziness => cases fuzziness <;> rfl
        | range inclusive start stop => rfl
      simp only [fill, pieces, List.map_append, marks_pieces_fill, boost_pieces_fill, core]
  | group marks operator children boosts induction =>
      have parts : (children.map (fill token)).map pieces =
          (children.map pieces).map (List.map (Piece.fill token)) := by
        simpa using induction
      simp only [fill, pieces, fill_all_eq_map, pieces_of_all_eq, parts, List.map_append,
        List.map_cons, marks_pieces_fill, boost_pieces_fill, map_intercalate, List.map_nil,
        Piece.fill]

end Reading

section Filled

variable (token : Text) (filled : token ≠ []) (trimmed : Text.trim token = token)

include filled in
theorem Decoration.surround_fill (decoration : Decoration) (reading : Reading) :
    (decoration.fill token).surround (reading.fill token) =
      (decoration.surround reading).fill token := by
  have marks : (decoration.fill token).marks = decoration.marks.map (Mark.fill token) := by
    rcases decoration with ⟨field, exclusion, boost⟩
    cases field with
    | nil => cases exclusion <;> rfl
    | cons c rest => cases exclusion <;> simp [fill, marks, withField, Mark.fill, filled]
  have boosts : (decoration.fill token).boosts = decoration.boosts := by
    unfold fill boosts
    by_cases unset : decoration.field.isEmpty = true <;> simp [unset, withField]
  unfold surround
  rw [marks, boosts]
  cases reading <;> simp [Reading.surround, Reading.fill]

include trimmed in
theorem Reading.trimmed_fill (reading : Reading) :
    (reading.fill token).trimmed = reading.trimmed.fill token := by
  have start : Text.trimStart token = token := by
    apply Text.trim_start_of_starts
    rw [← trimmed]
    exact Text.starts_blank_trim token
  have first : ∀ mark : Mark, (mark.fill token).trimmed = mark.trimmed.fill token := by
    intro mark
    cases mark with
    | required => rfl
    | prohibited => rfl
    | field name => simp [Mark.fill, Mark.trimmed, start]
  cases reading with
  | leaf marks held boosts =>
      cases marks with
      | nil => rfl
      | cons mark later => simp [Reading.fill, Reading.trimmed, Reading.marks, withMarks, first]
  | group marks operator children boosts =>
      cases marks with
      | nil => rfl
      | cons mark later => simp [Reading.fill, Reading.trimmed, Reading.marks, withMarks, first]

theorem Reading.join_fill (operator : Operator) (children : List Reading) :
    Reading.join operator (children.map (Reading.fill token)) =
      (Reading.join operator children).map (Reading.fill token) := by
  rcases children with _ | ⟨first, _ | ⟨second, rest⟩⟩ <;>
    simp [Reading.join, Reading.fill, Reading.fill_all_eq_map]

include filled trimmed in
theorem Term.reading_fill (term : Term) (nonblank : (Node.term term).Nonblank) :
    (term.fill token).reading = term.reading.map (Reading.fill token) := by
  have leaf : (term.fill token).leaf? = term.leaf?.map (Leaf.fill token) := by
    unfold leaf? fill
    cases value : term.value with
    | none => rfl
    | some given =>
        have shown : Text.trim given ≠ [] :=
          nonblank (.term term) (Node.self_mem_nodes _) given (by simp [Node.ownTexts, value])
        simp only [Option.map_some, Option.getD_some, trimmed]
        rfl
  have surround : ∀ held : Leaf,
      (term.decoration.fill token).surround (.leaf [] (held.fill token) []) =
        (term.decoration.surround (.leaf [] held [])).fill token :=
    fun held => term.decoration.surround_fill token filled (.leaf [] held [])
  unfold reading
  rw [leaf]
  cases term.leaf? with
  | none => rfl
  | some held => exact congrArg some (surround held)

include filled in
theorem Range.reading_fill (range : Range) :
    Range.reading { range with decoration := range.decoration.fill token } =
      range.reading.map (Reading.fill token) := by
  have surround : ∀ held : Leaf,
      (range.decoration.fill token).surround (.leaf [] (held.fill token) []) =
        (range.decoration.surround (.leaf [] held [])).fill token :=
    fun held => range.decoration.surround_fill token filled (.leaf [] held [])
  unfold reading leaf?
  cases unbounded : range.isEmpty with
  | true =>
      have same : Range.isEmpty { range with decoration := range.decoration.fill token } = true :=
        unbounded
      simp [same]
  | false =>
      have same : Range.isEmpty { range with decoration := range.decoration.fill token } = false :=
        unbounded
      simp only [same, Bool.false_eq_true, if_false, Option.map_some]
      exact congrArg some (surround (.range range.inclusive _ _))

include filled trimmed in
theorem Decoration.adopt_fill (decoration : Decoration) (operator : Operator)
    (children : List Reading) :
    (Reading.join operator (children.map (Reading.fill token))).map (fun reading =>
        (decoration.fill token).surround reading.trimmed) =
      ((Reading.join operator children).map fun reading =>
        decoration.surround reading.trimmed).map (Reading.fill token) := by
  rw [Reading.join_fill, Option.map_map, Option.map_map]
  congr 1
  funext reading
  simp only [Function.comp_apply, Reading.trimmed_fill token trimmed,
    Decoration.surround_fill token filled]

include filled trimmed in
/-- Texts that are not blank show where they stand, and nothing else changes. -/
theorem Node.outline_fill (node : Node) (nonblank : node.Nonblank) :
    (node.fill token).outline = node.outline.map (Reading.fill token) := by
  induction node with
  | term held => exact held.reading_fill token filled trimmed nonblank
  | range held => exact held.reading_fill token filled
  | terms held =>
      have parts : (held.terms.map (Term.fill token)).filterMap Term.reading =
          (held.terms.filterMap Term.reading).map (Reading.fill token) := by
        rw [List.filterMap_map, List.map_filterMap]
        apply List.filterMap_congr
        intro term member
        apply term.reading_fill token filled trimmed
        intro inner self
        rw [nodes, List.mem_singleton] at self
        exact self ▸ nonblank _ (term_mem_nodes held term member)
      rw [fill, outline, readingBy, parts]
      exact held.decoration.adopt_fill token filled trimmed _ _
  | group operator children decoration induction =>
      have parts : (children.map (fill token)).filterMap outline =
          (children.filterMap outline).map (Reading.fill token) := by
        rw [List.filterMap_map, List.map_filterMap]
        apply List.filterMap_congr
        intro child member
        exact induction child member fun inner deep => nonblank inner
          (child_nodes_subset operator children decoration child inner member deep)
      rw [fill, fill_all_eq_map, outline, readingBy, readings_by_eq]
      rw [show readingBy Reading.trimmed = outline from rfl, parts]
      rw [decoration.adopt_fill token filled trimmed, outline, readingBy, readings_by_eq]
      rfl

end Filled

theorem Decoration.fill_fill (first second : Text) (filled : first ≠ []) (decoration : Decoration) :
    (decoration.fill first).fill second = decoration.fill second := by
  rcases decoration with ⟨field, exclusion, boost⟩
  cases field with
  | nil => rfl
  | cons c rest => simp [fill, withField, filled]

theorem Term.fill_fill (first second : Text) (filled : first ≠ []) (term : Term) :
    (term.fill first).fill second = term.fill second := by
  simp [fill, Decoration.fill_fill first second filled, Function.comp_def]

namespace Node

/-- The last texts given are the ones that stay. -/
theorem fill_fill (first second : Text) (filled : first ≠ []) (node : Node) :
    (node.fill first).fill second = node.fill second := by
  induction node with
  | term held => simp [fill, held.fill_fill first second filled]
  | range held => simp [fill, Decoration.fill_fill first second filled]
  | terms held =>
      simp [fill, Decoration.fill_fill first second filled, Term.fill_fill first second filled]
  | group operator children decoration induction =>
      simp only [fill, fill_all_eq_map, List.map_map, Decoration.fill_fill first second filled]
      congr 1
      exact List.map_congr_left induction

theorem nodes_fill (token : Text) (node : Node) :
    (node.fill token).nodes = node.nodes.map (fill token) := by
  induction node with
  | term held => rfl
  | range held => rfl
  | terms held => simp [fill, nodes]
  | group operator children decoration induction =>
      have below : (children.map (fill token)).flatMap nodes =
          (children.flatMap nodes).map (fill token) := by
        rw [List.flatMap_map, List.map_flatMap]
        exact List.flatMap_congr induction
      simp [fill, fill_all_eq_map, nodes, nodes_of_all_eq, below]

theorem own_texts_fill (token : Text) (node : Node) :
    ∀ text ∈ (node.fill token).ownTexts, text = token := by
  have decorated : (node.fill token).decoration = node.decoration.fill token := by
    cases node <;> rfl
  intro text own
  rcases List.mem_append.mp own with field | value
  · rw [decorated] at field
    generalize node.decoration = decoration at field
    rcases decoration with ⟨name, exclusion, boost⟩
    cases name with
    | nil => simp [Decoration.fill] at field
    | cons c rest =>
        by_cases empty : token = [] <;>
          simp_all [Decoration.fill, Decoration.withField]
  · cases node with
    | term held =>
        obtain ⟨_, _, rfl⟩ : ∃ given, held.value = some given ∧ token = text := by
          simpa [fill, Term.fill] using value
        rfl
    | range held => cases value
    | terms held => cases value
    | group operator children decoration => cases value

theorem fill_nonblank (token : Text) (solid : Text.trim token ≠ []) (node : Node) :
    (node.fill token).Nonblank := by
  intro inner member text own
  rw [nodes_fill] at member
  obtain ⟨source, _, rfl⟩ := List.mem_map.mp member
  rwa [source.own_texts_fill token text own]

/-- The pieces that a tree is written in. -/
def pieces (node : Node) : List Piece := (node.outline.map Reading.pieces).getD []

theorem write_all_pieces (node : Node) : Piece.writeAll node.pieces = node.render := by
  rw [render_eq_shown, pieces]
  cases node.outline with
  | none => rfl
  | some reading => exact reading.write_all_pieces

theorem chain_pieces (node : Node) : node.pieces.IsChain Piece.Meets := by
  unfold pieces
  cases node.outline with
  | none => exact .nil
  | some reading =>
      have chain := reading.chain_pieces [] .nil (by simp [Piece.RestOpens])
      rwa [List.append_nil] at chain

theorem pieces_fill (token : Text) (filled : token ≠ []) (trimmed : Text.trim token = token)
    (node : Node) (nonblank : node.Nonblank) :
    (node.fill token).pieces = node.pieces.map (Piece.fill token) := by
  rw [pieces, pieces, node.outline_fill token filled trimmed nonblank]
  cases node.outline with
  | none => rfl
  | some reading => exact reading.pieces_fill token

end Node

namespace Reading

@[simp] theorem given_mem_mark (token : Text) (mark : Mark) :
    .given token ∈ mark.pieces ↔ mark = .field token := by
  cases mark <;> simp [Mark.pieces, eq_comm]

theorem given_mem_pieces (token : Text) (reading : Reading) :
    .given token ∈ reading.pieces ↔
      .field token ∈ reading.marks ∨ .given token ∈ (reading.withMarks []).pieces := by
  cases reading <;> simp [pieces, withMarks, marks]

theorem given_mem_surround (token : Text) (front : List Mark) (back : List Text)
    (reading : Reading) :
    .given token ∈ (reading.surround front back).pieces ↔
      .field token ∈ front ∨ .given token ∈ reading.pieces := by
  have boosts : ∀ boosts, .given token ∉ boostPieces boosts := by simp [boostPieces]
  cases reading <;> simp [surround, pieces, boosts]

theorem given_mem_trimmed (token : Text) (reading : Reading)
    (member : .given token ∈ reading.trimmed.pieces) :
    ∃ source, .given source ∈ reading.pieces ∧
      (token = source ∨ token = Text.trimStart source) := by
  unfold trimmed at member
  split at member
  · exact ⟨token, member, Or.inl rfl⟩
  · next mark later marked =>
      have kept : (reading.withMarks (mark.trimmed :: later)).withMarks [] =
          reading.withMarks [] := by
        cases reading <;> rfl
      have changed : (reading.withMarks (mark.trimmed :: later)).marks = mark.trimmed :: later := by
        cases reading <;> rfl
      rw [given_mem_pieces, kept, changed, List.mem_cons] at member
      rcases member with (first | behind) | core
      · cases mark with
        | required => cases first
        | prohibited => cases first
        | field name =>
            have source : .given name ∈ reading.pieces :=
              (given_mem_pieces name reading).mpr (Or.inl (by simp [marked]))
            simp only [Mark.trimmed, Mark.field.injEq] at first
            refine ⟨name, source, ?_⟩
            split at first
            · exact Or.inl first
            · exact Or.inr first
      · have source : .given token ∈ reading.pieces :=
          (given_mem_pieces token reading).mpr (Or.inl (by simp [marked, behind]))
        exact ⟨token, source, Or.inl rfl⟩
      · exact ⟨token, (given_mem_pieces token reading).mpr (Or.inr core), Or.inl rfl⟩

theorem given_mem_join (token : Text) (operator : Operator) (children : List Reading)
    (joined : Reading) (found : join operator children = some joined)
    (member : .given token ∈ joined.pieces) :
    ∃ child ∈ children, .given token ∈ child.pieces := by
  unfold join at found
  split at found
  · cases found
  · cases found
    exact ⟨joined, by simp, member⟩
  · cases found
    have inside : .given token ∈
        List.intercalate [.fixed (separator operator)] (children.map pieces) := by
      simpa [pieces, pieces_of_all_eq, boostPieces] using member
    obtain ⟨part, listed, here⟩ :=
      (Piece.mem_intercalate _ _ _ inside).resolve_left (by simp)
    obtain ⟨child, among, rfl⟩ := List.mem_map.mp listed
    exact ⟨child, among, here⟩

end Reading

theorem Decoration.field_mem_marks (decoration : Decoration) (name : Text)
    (member : .field name ∈ decoration.marks) :
    decoration.field = name ∧ decoration.field.isEmpty = false := by
  unfold marks at member
  cases unset : decoration.field.isEmpty <;> cases mode : decoration.exclusion <;>
    simp_all

namespace Node

/-- A text that shows is one that the tree holds, but for white space around it. -/
theorem given_nonblank (node : Node) (nonblank : node.Nonblank) (token : Text)
    (member : .given token ∈ node.pieces) : Text.trim token ≠ [] := by
  have field : ∀ inner ∈ node.nodes, ∀ name, .field name ∈ inner.decoration.marks →
      Text.trim name ≠ [] := by
    intro inner inside name marked
    obtain ⟨rfl, set⟩ := inner.decoration.field_mem_marks name marked
    exact nonblank inner inside _ (by simp [ownTexts, set])
  have shown : ∀ reading, node.outline = some reading →
      ∀ token, .given token ∈ reading.pieces → Text.trim token ≠ [] := by
    refine node.reading_by_induct Reading.trimmed ?_ ?_ ?_
    · intro held inside leaf shows token member
      rcases (Reading.given_mem_surround _ _ _ _).mp member with front | core
      · exact field _ inside token front
      · have proper : leaf.Proper Text.Solid fun _ => True := held.leaf_proper leaf shows
        cases leaf with
        | term value fuzziness =>
            obtain rfl : token = value := by
              cases fuzziness <;> simpa [Reading.pieces, Leaf.pieces, boostPieces] using core
            rw [Text.trim_of_ends token proper.1.2.1 proper.1.2.2]
            exact proper.1.1
        | range inclusive start stop => simp [Reading.pieces, Leaf.pieces, boostPieces] at core
    · intro held inside leaf shows token member
      rcases (Reading.given_mem_surround _ _ _ _).mp member with front | core
      · exact field _ inside token front
      · unfold Range.leaf? at shows
        split at shows
        · cases shows
        · cases shows
          simp [Reading.pieces, Leaf.pieces, boostPieces] at core
    · intro inner inside operator children joined each parts token member
      rcases (Reading.given_mem_surround _ _ _ _).mp member with front | core
      · exact field _ inside token front
      · obtain ⟨source, among, either⟩ := Reading.given_mem_trimmed token joined core
        obtain ⟨child, one, here⟩ :=
          Reading.given_mem_join source operator children joined parts among
        have solid := each child one source here
        rcases either with rfl | rfl
        · exact solid
        · rwa [Text.trim_trim_start]
  unfold pieces at member
  cases outline : node.outline with
  | none => simp [outline] at member
  | some reading =>
      rw [outline] at member
      exact shown reading outline token member

end Node

end LuceneQuery
