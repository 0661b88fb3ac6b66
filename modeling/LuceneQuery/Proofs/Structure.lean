import LuceneQuery.Proofs.Assignment

/-!
# Structure under other texts

Two trees that differ in nothing but their values and field names should render to texts of one
skeleton. They do where every text that shows is inert and none of them is met inside of quotes
that the bound of a range has left open, and both conditions are needed.
-/

namespace LuceneQuery

set_option autoImplicit false

namespace Piece

/-- No given text is met inside of quotes. -/
def MeetsOutside : Lexer → List Piece → Prop
  | _, [] => True
  | lexer, .fixed text :: rest => MeetsOutside (lexer.after text) rest
  | lexer, .given _ :: rest => lexer = .between ∧ MeetsOutside lexer rest

/-- What a lexer makes of pieces when each given text is on its own. -/
def seen : Lexer → List Piece → List Lexeme
  | lexer, [] => lexer.pending
  | lexer, .fixed text :: rest => lexer.emitted text ++ seen (lexer.after text) rest
  | lexer, .given token :: rest => skeleton (escapeToken token) ++ seen lexer rest

theorem rest_opens_of_given (token : Text) (rest : List Piece)
    (chain : (given token :: rest).IsChain Meets) : RestOpens rest := by
  intro next head
  exact ((List.isChain_cons.mp chain).1 next head).resolve_left fun closes => closes

theorem rest_opens_fill (token : Text) (rest : List Piece) (opens : RestOpens rest) :
    RestOpens (rest.map (fill token)) := by
  cases rest with
  | nil => simp [RestOpens]
  | cons next later =>
      have first := opens next (by simp)
      cases next with
      | fixed text => simpa [RestOpens, fill] using first
      | given other => exact first.elim

theorem starts_boundary_of_opens (rest : List Piece) (opens : RestOpens rest) :
    StartsBoundary (writeAll rest) := by
  cases rest with
  | nil => simp [StartsBoundary]
  | cons next later =>
      have first := opens next (by simp)
      cases next with
      | given other => exact first.elim
      | fixed text =>
          obtain ⟨c, head, boundary⟩ := first
          cases text with
          | nil => simp at head
          | cons start more =>
              obtain rfl : start = c := by simpa using head
              simpa [StartsBoundary, write] using boundary

theorem lex_eq_seen (lexer : Lexer) (pieces : List Piece) (chain : pieces.IsChain Meets)
    (outside : MeetsOutside lexer pieces) : lexer.lex (writeAll pieces) = seen lexer pieces := by
  induction pieces generalizing lexer with
  | nil => rfl
  | cons piece rest induction =>
      have further := (List.isChain_cons.mp chain).2
      cases piece with
      | fixed text =>
          rw [write_all_cons, write, Lexer.lex_append, seen, induction _ further outside]
      | given token =>
          obtain ⟨rfl, later⟩ := outside
          have split := skeleton_escape_append token (writeAll rest)
            (starts_boundary_of_opens rest (rest_opens_of_given token rest chain))
          rw [write_all_cons, write, seen, ← induction _ further later]
          exact split

/-- Where the texts of one side are inert, the other side shows no less, and the same only where
its texts are inert as well. -/
theorem seen_of_inert (lexer : Lexer) (first second : List Piece) (model : Text)
    (alike : first.map (fill model) = second.map (fill model))
    (inert : ∀ token, given token ∈ first → Inert token)
    (filled : ∀ token, given token ∈ second → skeleton (escapeToken token) ≠ []) :
    (seen lexer first).length ≤ (seen lexer second).length ∧
      (seen lexer first = seen lexer second ↔ ∀ token, given token ∈ second → Inert token) := by
  induction first generalizing lexer second with
  | nil =>
      obtain rfl : second = [] := by simpa using alike.symm
      simp
  | cons piece rest induction =>
      cases second with
      | nil => simp at alike
      | cons other later =>
          obtain ⟨heads, tails⟩ := List.cons.inj alike
          have further := fun lexer => induction lexer later tails
            (fun token member => inert token (List.mem_cons_of_mem _ member))
            (fun token member => filled token (List.mem_cons_of_mem _ member))
          cases piece with
          | fixed text =>
              cases other with
              | given token => cases heads
              | fixed same =>
                  obtain rfl : text = same := by simpa [fill] using heads
                  simpa [seen] using further (lexer.after text)
          | given token =>
              cases other with
              | fixed text => cases heads
              | given token' =>
                  obtain ⟨shorter, same⟩ := further lexer
                  have one := (skeleton_escape_token_iff token).mpr (inert token (by simp))
                  have some := List.length_pos_iff.mpr (filled token' (by simp))
                  simp only [seen, one, List.length_append, List.length_singleton]
                  refine ⟨by omega, ?_⟩
                  constructor
                  · intro equal
                    have lengths := congrArg List.length equal
                    simp only [List.length_append, List.length_singleton] at lengths
                    obtain ⟨inertHead, tail⟩ :=
                      List.append_inj equal (by simp only [List.length_singleton]; omega)
                    intro inner member
                    rcases List.mem_cons.mp member with head | behind
                    · cases head
                      exact (skeleton_escape_token_iff _).mp inertHead.symm
                    · exact same.mp tail inner behind
                  · intro all
                    rw [(skeleton_escape_token_iff token').mpr (all token' (by simp)),
                      same.mpr fun inner member => all inner (List.mem_cons_of_mem _ member)]

theorem after_of_closes (lexer : Lexer) (text : Text) (closes : (fixed text).Closes) :
    lexer.after text = .between ∨ lexer.after text = .quoted := by
  obtain ⟨c, last, boundary, quote, backslash⟩ := closes
  obtain ⟨before, rfl⟩ := List.getLast?_eq_some_iff.mp last
  rw [Lexer.after_append]
  generalize lexer.after before = state
  have stepped : (state.step c).2 = .between ∨ (state.step c).2 = .quoted := by
    simp only [isBoundary, Bool.or_eq_true] at boundary
    cases state <;> simp only [Lexer.step, Lexer.stepOpen, if_neg quote, if_neg backslash] <;>
      by_cases separates : isSeparator c = true <;> simp_all
  exact stepped

def spacedText : Text := ['x', ' ', 'y']

/-- A text between quotes shows three tokens where a bare one shows none, when both are met
inside of quotes. -/
theorem quotes_show (lexer : Lexer) (pieces : List Piece) (chain : pieces.IsChain Meets)
    (settled : ∀ token, given token ∈ pieces.head? → lexer = .between ∨ lexer = .quoted) :
    (lexer.lex (writeAll (pieces.map (fill ['x'])))).length ≤
        (lexer.lex (writeAll (pieces.map (fill spacedText)))).length ∧
      ((lexer.lex (writeAll (pieces.map (fill ['x'])))).length =
        (lexer.lex (writeAll (pieces.map (fill spacedText)))).length →
          MeetsOutside lexer pieces) := by
  induction pieces generalizing lexer with
  | nil => exact ⟨Nat.le_refl _, fun _ => trivial⟩
  | cons piece rest induction =>
      obtain ⟨meets, further⟩ := List.isChain_cons.mp chain
      simp only [List.map_cons, write_all_cons]
      cases piece with
      | fixed text =>
          have next := induction (lexer.after text) further fun token head =>
            after_of_closes lexer text ((meets _ head).resolve_right fun opens => opens)
          simp only [fill, write, Lexer.lex_append, List.length_append]
          refine ⟨by omega, ?_⟩
          intro same
          exact next.2 (by omega)
      | given token =>
          have opens := rest_opens_of_given token rest chain
          have later := induction lexer further fun inner head => (opens _ head).elim
          simp only [fill, write]
          -- Inside of quotes the ones of the spaced text close what is open and open it again.
          rcases settled token rfl with rfl | rfl
          · have alone : ∀ text, Lexer.between.lex
                (escapeToken text ++ writeAll (rest.map (fill text))) =
                skeleton (escapeToken text) ++
                  Lexer.between.lex (writeAll (rest.map (fill text))) :=
              fun text => skeleton_escape_append text _
                (starts_boundary_of_opens _ (rest_opens_fill text rest opens))
            have plain : skeleton (escapeToken ['x']) = [.token] := by decide
            have spaced : skeleton (escapeToken spacedText) = [.token] := by decide
            simp only [alone, plain, spaced, List.length_append]
            refine ⟨by omega, ?_⟩
            intro same
            exact ⟨rfl, later.2 (by omega)⟩
          · have plain : Lexer.quoted.emitted (escapeToken ['x']) = [] ∧
                Lexer.quoted.after (escapeToken ['x']) = .quoted := by decide
            have spaced : Lexer.quoted.emitted (escapeToken spacedText) =
                  [.token, .token, .token] ∧
                Lexer.quoted.after (escapeToken spacedText) = .quoted := by decide
            simp only [Lexer.lex_append, plain, spaced, List.length_append, List.length_nil,
              List.length_cons]
            refine ⟨by omega, ?_⟩
            intro same
            omega

theorem meets_outside_fill (lexer : Lexer) (token : Text) (pieces : List Piece) :
    MeetsOutside lexer (pieces.map (fill token)) ↔ MeetsOutside lexer pieces := by
  induction pieces generalizing lexer with
  | nil => rfl
  | cons piece rest induction =>
      cases piece with
      | fixed text => exact induction (lexer.after text)
      | given other => exact and_congr_right fun _ => induction lexer

theorem meets_outside_of_unquoted (lexer : Lexer) (pieces : List Piece)
    (chain : pieces.IsChain Meets) (unquoted : ∀ text, fixed text ∈ pieces → '"' ∉ text)
    (outside : lexer.Outside) (settled : ∀ token, given token ∈ pieces.head? → lexer = .between) :
    MeetsOutside lexer pieces := by
  induction pieces generalizing lexer with
  | nil => trivial
  | cons piece rest induction =>
      obtain ⟨meets, further⟩ := List.isChain_cons.mp chain
      have later := fun text member => unquoted text (List.mem_cons_of_mem _ member)
      cases piece with
      | fixed text =>
          have kept := lexer.after_outside text outside (unquoted text (by simp))
          refine induction _ further later kept ?_
          intro token head
          have closes : (fixed text).Closes := (meets _ head).resolve_right fun opens => opens
          refine (after_of_closes lexer text closes).resolve_right ?_
          intro quoted
          rw [quoted] at kept
          exact kept
      | given token =>
          have opens := rest_opens_of_given token rest chain
          exact ⟨settled token rfl,
            induction lexer further later outside fun inner head => (opens _ head).elim⟩

end Piece

theorem numeric_unquoted (text : Text) (numeric : NumericText text) : '"' ∉ text := by
  intro member
  exact absurd (numeric '"' member) (by decide)

theorem fixed_mem_boosts (text : Text) (boosts : List Text)
    (numbers : ∀ boost ∈ boosts, IsNumber boost) (member : .fixed text ∈ boostPieces boosts) :
    '"' ∉ text := by
  obtain ⟨boost, inside, same⟩ := List.mem_map.mp member
  cases same
  simp [numeric_unquoted boost (number_is_numeric boost (numbers boost inside))]

theorem fixed_mem_leaf (text : Text) (held : Leaf)
    (core : held.Proper Text.Solid fun bound => '"' ∉ bound)
    (member : .fixed text ∈ held.pieces) : '"' ∉ text := by
  cases held with
  | term value fuzziness =>
      cases fuzziness with
      | none => simp [Leaf.pieces] at member
      | some number =>
          obtain rfl : text = '~' :: number := by simpa [Leaf.pieces] using member
          simp [numeric_unquoted number (weight_text_numeric number (core.2 number rfl))]
  | range inclusive start stop =>
      obtain rfl : text = (Leaf.range inclusive start stop).write := by
        simpa [Leaf.pieces] using member
      cases inclusive <;> simp [Leaf.write, core.1, core.2]

/-- Quotes come from the bounds of ranges only. -/
theorem Reading.fixed_unquoted (reading : Reading)
    (proper : reading.Proper Text.Solid fun bound => '"' ∉ bound) :
    ∀ text, .fixed text ∈ reading.pieces → '"' ∉ text := by
  have mark : ∀ (marks : List Mark) (text : Text), .fixed text ∈ marks.flatMap Mark.pieces →
      '"' ∉ text := by
    intro marks text member
    obtain ⟨mark, _, here⟩ := List.mem_flatMap.mp member
    cases mark <;> simp_all [Mark.pieces]
  induction reading with
  | leaf marks held boosts =>
      cases proper with
      | leaf _ _ _ core numbers =>
          intro text member
          simp only [pieces, List.mem_append] at member
          rcases member with (front | inside) | back
          · exact mark marks text front
          · exact fixed_mem_leaf text held core inside
          · exact fixed_mem_boosts text boosts numbers back
  | group marks operator children boosts induction =>
      cases proper with
      | group _ _ _ _ several each numbers =>
          intro text member
          simp only [pieces, List.mem_append, List.mem_cons, pieces_of_all_eq] at member
          rcases member with (front | opening | inside) | closing | back
          · exact mark marks text front
          · cases opening
            decide
          · rcases Piece.mem_intercalate _ _ _ inside with between | ⟨part, listed, here⟩
            · cases between
              cases operator <;> decide
            · obtain ⟨child, among, rfl⟩ := List.mem_map.mp listed
              exact induction child among (each child among) text here
          · cases closing
            decide
          · exact fixed_mem_boosts text boosts numbers back

namespace Node

/-- The values and the field names that are written, as they are before they are escaped. -/
def shownTexts (node : Node) : List Text :=
  node.pieces.filterMap fun piece =>
    match piece with
    | .fixed _ => none
    | .given token => some token

def TextsInert (node : Node) : Prop := ∀ token ∈ node.shownTexts, Inert token

instance (node : Node) : Decidable node.TextsInert :=
  inferInstanceAs (Decidable (∀ token ∈ node.shownTexts, Inert token))

theorem mem_shown_texts (node : Node) (token : Text) :
    token ∈ node.shownTexts ↔ .given token ∈ node.pieces := by
  rw [shownTexts, List.mem_filterMap]
  constructor
  · rintro ⟨piece, member, same⟩
    cases piece with
    | fixed text => cases same
    | given other =>
        cases same
        exact member
  · intro member
    exact ⟨.given token, member, rfl⟩

/-- No text that shows is met inside of quotes that a bound has left open, whatever the texts of
the tree are. -/
def TextsOutside (node : Node) : Prop := Piece.MeetsOutside .between (node.fill ['x']).pieces

variable (tree : Node)

/-- Every text is met outside of quotes where the bounds of ranges hold none. -/
theorem texts_outside_of_bounds
    (bounds : ∀ inner ∈ tree.nodes, ∀ text ∈ inner.boundTexts, '"' ∉ text) :
    tree.TextsOutside := by
  have filled : ∀ inner ∈ (tree.fill ['x']).nodes, ∀ text ∈ inner.boundTexts, '"' ∉ text := by
    intro inner member
    rw [nodes_fill] at member
    obtain ⟨source, inside, rfl⟩ := List.mem_map.mp member
    have same : (source.fill ['x']).boundTexts = source.boundTexts := by
      cases source <;> rfl
    rw [same]
    exact bounds source inside
  apply Piece.meets_outside_of_unquoted .between _ (chain_pieces _) _ trivial (fun _ _ => rfl)
  intro text member
  unfold pieces at member
  cases found : (tree.fill ['x']).outline with
  | none => simp [found] at member
  | some reading =>
      rw [found] at member
      have proper := (tree.fill ['x']).outline_proper filled reading found
      exact reading.fixed_unquoted proper text member

theorem same_tree_pieces (node : Node) (nonblank : node.Nonblank) (same : node.SameTree tree) :
    node.pieces.map (Piece.fill ['x']) = (tree.fill ['x']).pieces := by
  rw [← node.pieces_fill ['x'] (by decide) (by decide) nonblank, same]

theorem skeleton_eq_seen (node : Node) (nonblank : node.Nonblank) (same : node.SameTree tree)
    (outside : tree.TextsOutside) : skeleton node.render = Piece.seen .between node.pieces := by
  have own : Piece.MeetsOutside .between node.pieces := by
    rw [← Piece.meets_outside_fill _ ['x'], tree.same_tree_pieces node nonblank same]
    exact outside
  rw [← write_all_pieces]
  exact Piece.lex_eq_seen .between node.pieces node.chain_pieces own

theorem structure_of_outside (outside : tree.TextsOutside) (first second : Node)
    (firstSame : first.SameTree tree) (secondSame : second.SameTree tree)
    (firstFilled : first.Nonblank) (secondFilled : second.Nonblank) (inert : first.TextsInert) :
    skeleton first.render = skeleton second.render ↔ second.TextsInert := by
  rw [tree.skeleton_eq_seen first firstFilled firstSame outside,
    tree.skeleton_eq_seen second secondFilled secondSame outside]
  have alike : first.pieces.map (Piece.fill ['x']) = second.pieces.map (Piece.fill ['x']) := by
    rw [tree.same_tree_pieces first firstFilled firstSame,
      tree.same_tree_pieces second secondFilled secondSame]
  have shown := (Piece.seen_of_inert .between first.pieces second.pieces ['x'] alike
    (fun token member => inert token ((first.mem_shown_texts token).mpr member))
    fun token member =>
      skeleton_escape_token_ne_nil token (second.given_nonblank secondFilled token member)).2
  rw [shown]
  exact forall_congr' fun token => imp_congr_left (second.mem_shown_texts token).symm

theorem fill_same_tree (token : Text) (filled : token ≠ []) : (tree.fill token).SameTree tree :=
  tree.fill_fill token ['x'] filled

theorem fill_inert (token : Text) (solid : Text.trim token = token) (filled : token ≠ [])
    (inert : Inert token) : (tree.fill token).TextsInert := by
  have nonblank := fill_nonblank token (by rwa [solid]) tree
  intro shown listed
  have member := (mem_shown_texts _ shown).mp listed
  rw [← tree.fill_fill token token filled,
    (tree.fill token).pieces_fill token filled solid nonblank] at member
  obtain ⟨piece, _, same⟩ := List.mem_map.mp member
  cases piece with
  | fixed text => cases same
  | given other =>
      cases same
      exact inert

/-- Texts keep the structure of a tree when they are inert, and nothing less will do: another
assignment has the skeleton of an inert one just when it is inert as well, on the trees that show
no text inside of quotes. On every other tree two inert assignments differ. -/
theorem structure_kept_iff :
    (∀ first second : Node, first.SameTree tree → second.SameTree tree → first.Nonblank →
      second.Nonblank → first.TextsInert →
        (skeleton first.render = skeleton second.render ↔ second.TextsInert)) ↔
      tree.TextsOutside := by
  constructor
  · intro kept
    -- One tree twice, with two inert texts of which only the second is put between quotes.
    have plainFilled : (tree.fill ['x']).Nonblank := fill_nonblank _ (by decide) tree
    have spacedFilled : (tree.fill Piece.spacedText).Nonblank := fill_nonblank _ (by decide) tree
    have plainInert := tree.fill_inert ['x'] (by decide) (by decide) (by decide)
    have spacedInert := tree.fill_inert Piece.spacedText (by decide) (by decide) (by decide)
    have same := (kept _ _ (tree.fill_same_tree ['x'] (by decide))
      (tree.fill_same_tree Piece.spacedText (by decide)) plainFilled spacedFilled
      plainInert).mpr spacedInert
    have plainPieces : (tree.fill ['x']).pieces =
        (tree.fill ['x']).pieces.map (Piece.fill ['x']) := by
      rw [← (tree.fill ['x']).pieces_fill ['x'] (by decide) (by decide) plainFilled,
        tree.fill_fill ['x'] ['x'] (by decide)]
    have spacedPieces : (tree.fill Piece.spacedText).pieces =
        (tree.fill ['x']).pieces.map (Piece.fill Piece.spacedText) := by
      rw [← (tree.fill ['x']).pieces_fill Piece.spacedText (by decide) (by decide) plainFilled,
        tree.fill_fill ['x'] Piece.spacedText (by decide)]
    rw [← write_all_pieces, ← write_all_pieces, plainPieces, spacedPieces] at same
    exact (Piece.quotes_show .between (tree.fill ['x']).pieces (tree.fill ['x']).chain_pieces
      fun _ _ => Or.inl rfl).2 (congrArg List.length same)
  · intro outside first second firstSame secondSame firstFilled secondFilled inert
    exact tree.structure_of_outside outside first second firstSame secondSame firstFilled
      secondFilled inert

/-- A labelled term beside a range. -/
def labelled (label value : Text) : Node :=
  .group .or
    [.term ⟨some value, none, ⟨label, .prohibit, .zero⟩⟩,
      .range ((Range.unset .plain).setRange ⟨0, 0, 0⟩ (.text ['a', ' ', ']']) .unbounded)]
    .plain

theorem quoted_texts_keep_structure :
    skeleton (labelled ['t'] ['x']).render =
      skeleton (labelled ['t', ':'] ['a', ' ', 'O', 'R', ' ', '"']).render := by
  let plain := labelled ['t'] ['x']
  let quoted := labelled ['t', ':'] ['a', ' ', 'O', 'R', ' ', '"']
  have outside : plain.TextsOutside := plain.texts_outside_of_bounds (by decide)
  have plainInert : plain.TextsInert := by decide
  have quotedInert : quoted.TextsInert := by decide
  exact ((structure_kept_iff plain).mpr outside plain quoted rfl rfl (by decide) (by decide)
    plainInert).mpr quotedInert

/-- A keyword is written as it is, and a lexer does not take it for a token. -/
theorem keyword_changes_structure :
    (Node.term (.ofText ['x'])).SameTree (.term (.ofText ['A', 'N', 'D'])) ∧
      (Node.term (.ofText ['x'])).Nonblank ∧ (Node.term (.ofText ['A', 'N', 'D'])).Nonblank ∧
        skeleton (Node.term (.ofText ['x'])).render ≠
          skeleton (Node.term (.ofText ['A', 'N', 'D'])).render :=
  ⟨rfl, by decide, by decide, by decide⟩

end Node

end LuceneQuery
