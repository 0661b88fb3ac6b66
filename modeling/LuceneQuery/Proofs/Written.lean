import LuceneQuery.Proofs.BoundText
import LuceneQuery.Proofs.Reading

/-!
# A rendering is a written reading

Every node renders to the text of its outline, and to nothing when it has none. The readings of
nodes are proper: their values are trimmed, their boosts are numbers, and their groups have two
children or more.
-/

namespace LuceneQuery

set_option autoImplicit false

/-- The texts that the bounds of a range are written as, whether the range shows or not. -/
def Node.boundTexts : Node → List Text
  | .range held => [held.boundText held.start, held.boundText held.stop]
  | _ => []

/-- A text that trimming leaves as it is, and leaves something of. -/
def Text.Solid (text : Text) : Prop :=
  text ≠ [] ∧ startsBlank text = false ∧ endsBlank text = false

def Leaf.Proper (value bound : Text → Prop) : Leaf → Prop
  | .term given fuzziness => value given ∧ ∀ text ∈ fuzziness, WeightText text
  | .range _ start stop => bound start ∧ bound stop

inductive Reading.Proper (value bound : Text → Prop) : Reading → Prop
  | leaf (marks : List Mark) (held : Leaf) (boosts : List Text) (core : held.Proper value bound)
      (numbers : ∀ boost ∈ boosts, IsNumber boost) :
      Proper value bound (.leaf marks held boosts)
  | group (marks : List Mark) (operator : Operator) (children : List Reading)
      (boosts : List Text) (several : 2 ≤ children.length)
      (each : ∀ child ∈ children, Proper value bound child)
      (numbers : ∀ boost ∈ boosts, IsNumber boost) :
      Proper value bound (.group marks operator children boosts)

theorem Leaf.Proper.mono {value value' bound bound' : Text → Prop} (held : Leaf)
    (proper : held.Proper value bound) (values : ∀ text, value text → value' text)
    (bounds : ∀ text, bound text → bound' text) : held.Proper value' bound' := by
  cases held with
  | term given fuzziness => exact ⟨values given proper.1, proper.2⟩
  | range inclusive start stop => exact ⟨bounds start proper.1, bounds stop proper.2⟩

theorem Reading.Proper.mono {value value' bound bound' : Text → Prop} (reading : Reading)
    (proper : reading.Proper value bound) (values : ∀ text, value text → value' text)
    (bounds : ∀ text, bound text → bound' text) : reading.Proper value' bound' := by
  induction proper with
  | leaf marks held boosts core numbers =>
      exact .leaf _ _ _ (core.mono held values bounds) numbers
  | group marks operator children boosts several each numbers induction =>
      exact .group _ _ _ _ several induction numbers

theorem numeric_not_blank (c : Char) (numeric : isNumeric c = true) :
    Text.isBlank c = false := by
  apply bound_char_not_blank
  simp only [isNumeric, Bool.or_eq_true, beq_iff_eq] at numeric
  rcases numeric with (digit | rfl) | rfl
  · exact bound_char_of_digit c digit
  · decide
  · decide

theorem ends_blank_numeric (text : Text) (numeric : NumericText text) :
    Text.endsBlank text = false :=
  Text.ends_blank_of_all_solid text fun c member => numeric_not_blank c (numeric c member)

variable {bound : Text → Prop}

namespace Leaf

theorem starts_blank_write (held : Leaf) (proper : held.Proper Text.Solid bound) :
    Text.startsBlank held.write = false := by
  cases held with
  | term value fuzziness =>
      obtain ⟨⟨filled, starts, _⟩, _⟩ := proper
      have token := starts_blank_escape_token value starts
      have written : escapeToken value ≠ [] := by
        rwa [Ne, escape_token_eq_nil]
      cases fuzziness with
      | none => exact token
      | some text =>
          obtain ⟨c, rest, same⟩ := List.exists_cons_of_ne_nil written
          simp only [write, same, List.cons_append] at token ⊢
          exact token
  | range inclusive start stop => cases inclusive <;> rfl

theorem ends_blank_write (held : Leaf) (proper : held.Proper Text.Solid bound) :
    Text.endsBlank held.write = false := by
  cases held with
  | term value fuzziness =>
      obtain ⟨⟨_, _, ends⟩, weights⟩ := proper
      cases fuzziness with
      | none => exact ends_blank_escape_token value ends
      | some text =>
          rw [write, Text.ends_blank_append_cons]
          exact Text.ends_blank_cons_of_solid _ _ (by decide)
            (ends_blank_numeric text (weight_text_numeric text (weights text rfl)))
  | range inclusive start stop =>
      cases inclusive <;> (simp only [write]; rw [Text.ends_blank_append_cons]; rfl)

theorem write_ne_nil (held : Leaf) (proper : held.Proper Text.Solid bound) : held.write ≠ [] := by
  cases held with
  | term value fuzziness =>
      have written : escapeToken value ≠ [] := by
        rw [Ne, escape_token_eq_nil]
        exact proper.1.1
      cases fuzziness <;> simp [write, written]
  | range inclusive start stop => cases inclusive <;> simp [write]

end Leaf

theorem ends_blank_write_boosts (boosts : List Text)
    (numbers : ∀ boost ∈ boosts, IsNumber boost) :
    Text.endsBlank (writeBoosts boosts) = false := by
  apply Text.ends_blank_of_all_solid
  intro c member
  obtain ⟨boost, inside, place⟩ := List.mem_flatMap.mp member
  rcases List.mem_cons.mp place with rfl | rest
  · decide
  · exact numeric_not_blank c (number_is_numeric boost (numbers boost inside) c rest)

namespace Reading

theorem write_surround (front : List Mark) (back : List Text) (reading : Reading) :
    (reading.surround front back).write =
      writeMarks front ++ reading.write ++ writeBoosts back := by
  cases reading <;> simp [surround, write, writeMarks, writeBoosts]

theorem surround_proper (front : List Mark) (back : List Text) (reading : Reading)
    (proper : reading.Proper Text.Solid bound) (numbers : ∀ boost ∈ back, IsNumber boost) :
    (reading.surround front back).Proper Text.Solid bound := by
  cases proper with
  | leaf marks held boosts core own =>
      refine .leaf _ _ _ core ?_
      intro boost member
      exact (List.mem_append.mp member).elim (own boost) (numbers boost)
  | group marks operator children boosts several each own =>
      refine .group _ _ _ _ several each ?_
      intro boost member
      exact (List.mem_append.mp member).elim (own boost) (numbers boost)

theorem with_marks_proper (changed : List Mark) (reading : Reading)
    (proper : reading.Proper Text.Solid bound) :
    (reading.withMarks changed).Proper Text.Solid bound := by
  cases proper with
  | leaf marks held boosts core numbers => exact .leaf _ _ _ core numbers
  | group marks operator children boosts several each numbers =>
      exact .group _ _ _ _ several each numbers

theorem trimmed_proper (reading : Reading) (proper : reading.Proper Text.Solid bound) :
    reading.trimmed.Proper Text.Solid bound := by
  unfold trimmed
  split
  · exact proper
  · exact with_marks_proper _ _ proper

/-- The core of a reading with its boosts: what stands behind the marks. -/
def body (reading : Reading) : Text := (reading.withMarks []).write

theorem write_eq_marks_body (reading : Reading) :
    reading.write = writeMarks reading.marks ++ reading.body := by
  cases reading <;> simp [write, body, withMarks, marks, writeMarks]

theorem write_with_marks (changed : List Mark) (reading : Reading) :
    (reading.withMarks changed).write = writeMarks changed ++ reading.body := by
  cases reading <;> simp [write, body, withMarks, writeMarks]

theorem body_ne_nil (reading : Reading) (proper : reading.Proper Text.Solid bound) :
    reading.body ≠ [] := by
  cases proper with
  | leaf marks held boosts core numbers =>
      simp [body, withMarks, write, held.write_ne_nil core]
  | group marks operator children boosts several each numbers => simp [body, withMarks, write]

theorem starts_blank_body (reading : Reading) (proper : reading.Proper Text.Solid bound) :
    Text.startsBlank reading.body = false := by
  cases proper with
  | leaf marks held boosts core numbers =>
      have starts := held.starts_blank_write core
      obtain ⟨c, rest, same⟩ := List.exists_cons_of_ne_nil (held.write_ne_nil core)
      simp only [body, withMarks, write, writeMarks, List.flatMap_nil, List.nil_append, same,
        List.cons_append] at starts ⊢
      exact starts
  | group marks operator children boosts several each numbers => rfl

theorem ends_blank_body (reading : Reading) (proper : reading.Proper Text.Solid bound) :
    Text.endsBlank reading.body = false := by
  cases proper with
  | leaf marks held boosts core numbers =>
      simp only [body, withMarks, write, writeMarks, List.flatMap_nil, List.nil_append]
      exact Text.ends_blank_append_of_solid _ _ (held.ends_blank_write core)
        (ends_blank_write_boosts boosts numbers)
  | group marks operator children boosts several each numbers =>
      simp only [body, withMarks, write, Text.ends_blank_append_cons]
      exact Text.ends_blank_cons_of_solid _ _ (by decide) (ends_blank_write_boosts boosts numbers)

theorem write_ne_nil (reading : Reading) (proper : reading.Proper Text.Solid bound) :
    reading.write ≠ [] := by
  rw [write_eq_marks_body]
  simp [body_ne_nil reading proper]

theorem ends_blank_write (reading : Reading) (proper : reading.Proper Text.Solid bound) :
    Text.endsBlank reading.write = false := by
  obtain ⟨c, rest, same⟩ := List.exists_cons_of_ne_nil (body_ne_nil reading proper)
  rw [write_eq_marks_body, same, Text.ends_blank_append_cons, ← same]
  exact ends_blank_body reading proper

theorem trim_start_write_mark (mark : Mark) (rest : Text) :
    Text.trimStart (mark.write ++ rest) = mark.trimmed.write ++ rest := by
  cases mark with
  | required => rfl
  | prohibited => rfl
  | field name =>
      simp only [Mark.write, Mark.trimmed, List.append_assoc, List.cons_append, List.nil_append]
      cases quotes : needsQuotes name with
      | true =>
          simp only [if_true, escape_token_of_quotes name quotes]
          apply Text.trim_start_of_starts
          rfl
      | false =>
          have bare := (needs_quotes_false_iff name).mp quotes
          have kept : needsQuotes (Text.trimStart name) = false := by
            rw [needs_quotes_false_iff]
            intro c member
            exact bare c (List.dropWhile_subset _ member)
          simp only [Bool.false_eq_true, if_false]
          rw [escape_token_of_bare name quotes, escape_token_of_bare _ kept]
          exact Text.trim_start_append_cons name rest ':' (by decide)

/-- Only the first mark can lose anything. -/
theorem trim_write (reading : Reading) (proper : reading.Proper Text.Solid bound) :
    Text.trim reading.write = reading.trimmed.write := by
  have trimmedEnds := ends_blank_write _ (trimmed_proper reading proper)
  have front : Text.trimStart reading.write = reading.trimmed.write := by
    unfold trimmed
    rw [write_eq_marks_body]
    split
    · next empty =>
        rw [write_eq_marks_body, empty]
        exact Text.trim_start_of_starts _ (starts_blank_body reading proper)
    · next mark later marked =>
        rw [write_with_marks, marked]
        simp only [writeMarks, List.flatMap_cons, List.append_assoc]
        exact trim_start_write_mark mark _
  rw [Text.trim, front, Text.trim_end_of_ends _ trimmedEnds]

/-- The text of a clause that shows nothing is empty. -/
def shown : Option Reading → Text
  | none => []
  | some reading => reading.write

theorem join_proper (operator : Operator) (children : List Reading)
    (each : ∀ child ∈ children, child.Proper Text.Solid bound) (reading : Reading)
    (joined : join operator children = some reading) : reading.Proper Text.Solid bound := by
  unfold join at joined
  split at joined
  · cases joined
  · cases joined
    exact each reading (by simp)
  · next none one =>
      cases joined
      refine .group _ _ _ _ ?_ each (by simp)
      rcases children with _ | ⟨first, _ | ⟨second, rest⟩⟩
      · exact absurd rfl none
      · exact absurd rfl (one first)
      · simp

theorem shown_join (operator : Operator) (found : List (Option Reading))
    (proper : ∀ reading, some reading ∈ found → reading.Proper Text.Solid bound) :
    joinRendered operator (found.map shown) = shown (join operator (found.filterMap id)) := by
  have filled : (found.map shown).filter (fun text => !text.isEmpty) =
      (found.filterMap id).map write := by
    induction found with
    | nil => rfl
    | cons first later induction =>
        have rest := induction fun reading member => proper reading (by simp [member])
        cases first with
        | none => simpa [shown] using rest
        | some reading =>
            have text := write_ne_nil reading (proper reading (by simp))
            simpa [shown, text] using rest
  unfold joinRendered
  rw [filled]
  rcases found.filterMap id with _ | ⟨first, _ | ⟨second, rest⟩⟩
  · rfl
  · rfl
  · simp [join, shown, write, write_all_eq_map, separator, writeMarks, writeBoosts]

end Reading

namespace Decoration

theorem write_marks (decoration : Decoration) :
    writeMarks decoration.marks = decoration.signText ++ decoration.fieldText := by
  unfold marks signText fieldText
  cases decoration.exclusion <;>
    by_cases unset : decoration.field.isEmpty = true <;>
    simp [unset, writeMarks, Mark.write, Exclusion.sign]

theorem write_boosts (decoration : Decoration) :
    writeBoosts decoration.boosts = decoration.boostText := by
  unfold boosts boostText
  split <;> simp [writeBoosts]

/-- A boost is shown where it is above zero, so that its text has no sign. -/
theorem boosts_numbers (decoration : Decoration) : ∀ boost ∈ decoration.boosts, IsNumber boost := by
  intro boost member
  unfold boosts at member
  split at member
  · next shown =>
      rw [List.mem_singleton.mp member]
      exact decoration.boost.text_number_of_positive shown.2
  · cases member

theorem surround_proper (decoration : Decoration) (reading : Reading)
    (proper : reading.Proper Text.Solid bound) :
    (decoration.surround reading).Proper Text.Solid bound :=
  Reading.surround_proper _ _ reading proper decoration.boosts_numbers

theorem surround_leaf_proper (decoration : Decoration) (held : Leaf)
    (core : held.Proper Text.Solid bound) :
    (decoration.surround (.leaf [] held [])).Proper Text.Solid bound :=
  decoration.surround_proper _ (.leaf [] held [] core (by simp))

theorem apply_shown (decoration : Decoration) (found : Option Reading)
    (proper : ∀ reading, found = some reading → reading.Proper Text.Solid bound) :
    decoration.apply (Reading.shown found) =
      Reading.shown (found.map fun reading => decoration.surround reading.trimmed) := by
  cases found with
  | none => rfl
  | some reading =>
      have own := proper reading rfl
      have trimmedOwn := Reading.trimmed_proper reading own
      obtain ⟨c, rest, same⟩ :=
        List.exists_cons_of_ne_nil (Reading.write_ne_nil _ trimmedOwn)
      simp only [apply, Reading.shown, Option.map_some, Reading.trim_write reading own,
        surround, Reading.write_surround, write_marks, write_boosts, same]

theorem apply_leaf (decoration : Decoration) (found : Option Leaf)
    (proper : ∀ held, found = some held → held.Proper Text.Solid bound) :
    decoration.apply (Reading.shown (found.map fun held => .leaf [] held [])) =
      Reading.shown (found.map fun held => decoration.surround (.leaf [] held [])) := by
  rw [apply_shown, Option.map_map]
  · rfl
  · intro reading shows
    obtain ⟨held, leaf, rfl⟩ := Option.map_eq_some_iff.mp shows
    exact .leaf [] held [] (proper held leaf) (by simp)

theorem apply_join (decoration : Decoration) (operator : Operator)
    (found : List (Option Reading))
    (proper : ∀ reading, some reading ∈ found → reading.Proper Text.Solid bound) :
    decoration.apply (joinRendered operator (found.map Reading.shown)) =
      Reading.shown ((Reading.join operator (found.filterMap id)).map fun reading =>
        decoration.surround reading.trimmed) := by
  rw [Reading.shown_join operator found proper]
  apply apply_shown
  apply Reading.join_proper
  intro child member
  obtain ⟨place, inside, same⟩ := List.mem_filterMap.mp member
  exact proper child (by rwa [← show place = some child from same])

end Decoration

namespace Term

theorem leaf_proper (term : Term) (held : Leaf) (found : term.leaf? = some held) :
    held.Proper Text.Solid bound := by
  unfold leaf? at found
  split at found
  · cases found
  · next filled =>
      cases found
      refine ⟨⟨filled, Text.starts_blank_trim _, Text.ends_blank_trim _⟩, ?_⟩
      intro text member
      obtain ⟨weight, _, rfl⟩ := Option.map_eq_some_iff.mp member
      exact weight.text_weight

theorem content_eq_shown (term : Term) :
    term.content = Reading.shown (term.leaf?.map fun held => .leaf [] held []) := by
  unfold content leaf? fuzzinessText
  cases term.value with
  | none => rfl
  | some value =>
      simp only [Option.getD_some]
      cases trimmed : Text.trim value with
      | nil => rfl
      | cons c rest =>
          have filled : escapeToken (c :: rest) ≠ [] := by simp [escape_token_eq_nil]
          obtain ⟨first, later, same⟩ := List.exists_cons_of_ne_nil filled
          cases term.fuzziness <;>
            simp [same, Reading.shown, Reading.write, writeMarks, writeBoosts, Leaf.write]

theorem reading_proper (term : Term) (reading : Reading) (found : term.reading = some reading) :
    reading.Proper Text.Solid bound := by
  obtain ⟨held, leaf, rfl⟩ := Option.map_eq_some_iff.mp found
  exact term.decoration.surround_leaf_proper held (term.leaf_proper held leaf)

theorem render_eq_shown (term : Term) : term.render = Reading.shown term.reading := by
  have proper : ∀ held, term.leaf? = some held → held.Proper Text.Solid fun _ => True :=
    fun held leaf => term.leaf_proper held leaf
  rw [render, content_eq_shown, Decoration.apply_leaf _ _ proper, reading]

end Term

namespace Range

theorem leaf_proper (range : Range) (bounds : ∀ text ∈ (Node.range range).boundTexts, bound text)
    (held : Leaf) (found : range.leaf? = some held) : held.Proper Text.Solid bound := by
  unfold leaf? at found
  split at found
  · cases found
  · cases found
    exact ⟨bounds _ (by simp [Node.boundTexts]), bounds _ (by simp [Node.boundTexts])⟩

theorem content_eq_shown (range : Range) :
    range.content = Reading.shown (range.leaf?.map fun held => .leaf [] held []) := by
  unfold content leaf? opening closing
  cases range.isEmpty <;> cases range.inclusive <;>
    simp [Reading.shown, Reading.write, writeMarks, writeBoosts, Leaf.write]

theorem render_eq_shown (range : Range) : range.render = Reading.shown range.reading := by
  have proper : ∀ held, range.leaf? = some held → held.Proper Text.Solid fun _ => True :=
    fun held leaf => range.leaf_proper (by simp) held leaf
  rw [render, content_eq_shown, Decoration.apply_leaf _ _ proper, reading]

end Range

namespace Node

theorem reading_by_proper (adopt : Reading → Reading)
    (keeps : ∀ reading : Reading,
      reading.Proper Text.Solid bound → (adopt reading).Proper Text.Solid bound)
    (node : Node) (bounds : ∀ inner ∈ node.nodes, ∀ text ∈ inner.boundTexts, bound text) :
    ∀ reading, node.readingBy adopt = some reading → reading.Proper Text.Solid bound := by
  refine node.reading_by_induct adopt ?_ ?_ ?_
  · intro held _ leaf shows
    exact held.decoration.surround_leaf_proper leaf (held.leaf_proper leaf shows)
  · intro held member leaf shows
    exact held.decoration.surround_leaf_proper leaf
      (held.leaf_proper (bounds _ member) leaf shows)
  · intro inner _ operator children joined each parts
    exact inner.decoration.surround_proper _
      (keeps _ (Reading.join_proper operator children each joined parts))

theorem outline_proper (node : Node)
    (bounds : ∀ inner ∈ node.nodes, ∀ text ∈ inner.boundTexts, bound text) (reading : Reading)
    (found : node.outline = some reading) : reading.Proper Text.Solid bound :=
  node.reading_by_proper Reading.trimmed Reading.trimmed_proper bounds reading found

/-- A tree renders to what its outline is written as. -/
theorem render_eq_shown (node : Node) : node.render = Reading.shown node.outline := by
  induction node with
  | term held => exact held.render_eq_shown
  | range held => exact held.render_eq_shown
  | terms held =>
      have parts : held.terms.map Term.render =
          (held.terms.map Term.reading).map Reading.shown := by
        simp [Term.render_eq_shown]
      have proper : ∀ reading, some reading ∈ held.terms.map Term.reading →
          reading.Proper Text.Solid fun _ => True := by
        intro reading member
        obtain ⟨term, _, shows⟩ := List.mem_map.mp member
        exact term.reading_proper reading shows
      rw [render, TermGroup.render, TermGroup.content, parts,
        Decoration.apply_join _ _ _ proper, List.filterMap_map]
      rfl
  | group operator children decoration induction =>
      have parts : children.map render = (children.map outline).map Reading.shown := by
        simpa using induction
      have proper : ∀ reading, some reading ∈ children.map outline →
          reading.Proper Text.Solid fun _ => True := by
        intro reading member
        obtain ⟨child, _, shows⟩ := List.mem_map.mp member
        exact child.outline_proper (by simp) reading shows
      rw [render, render_all_eq_map, parts, Decoration.apply_join _ _ _ proper,
        List.filterMap_map, outline, readingBy, readings_by_eq]
      rfl

theorem reading_by_none (adopt other : Reading → Reading) (node : Node) :
    node.readingBy adopt = none ↔ node.readingBy other = none := by
  induction node with
  | term held => rfl
  | range held => rfl
  | terms held => simp [readingBy]
  | group operator children decoration induction =>
      have empty : readingsBy adopt children = [] ↔ readingsBy other children = [] := by
        simp only [readings_by_eq, List.filterMap_eq_nil_iff]
        exact forall₂_congr induction
      simp only [readingBy, Option.map_eq_none_iff, Reading.join_eq_none_iff, empty]

/-- A reading drops just the nodes that render to nothing. -/
theorem reading_eq_none_iff (node : Node) : node.reading = none ↔ node.render = [] := by
  rw [reading, node.reading_by_none id Reading.trimmed, ← outline, render_eq_shown]
  cases found : node.outline with
  | none => simp [Reading.shown]
  | some reading =>
      have proper : reading.Proper Text.Solid fun _ => True :=
        node.outline_proper (by simp) reading found
      simp [Reading.shown, reading.write_ne_nil proper]

end Node

end LuceneQuery
