import LuceneQuery.Proofs.UniqueReading
import LuceneQuery.Proofs.WordBounds

/-!
# The grammar of clauses

A clause has at most one sign, one field and one boost, in the order sign, field, body, boost. A
body is a token, fuzzy or not, a range, or a group of two clauses or more under one operator.

A group with one child that shows is written as the child, with the marks of both. A tree is
written in the grammar just when this leaves no clause with more marks than one node can have.
-/

namespace LuceneQuery

set_option autoImplicit false

inductive IsToken : Text → Prop
  | bare (word : Text) (filled : word ≠ []) (plain : ∀ c ∈ word, isBare c = true) : IsToken word
  | quoted (value : Text) (needed : needsQuotes value = true) :
      IsToken ('"' :: (value.flatMap escapeChar ++ ['"']))

/-- A sign, a field, both in this order, or nothing. -/
inductive IsFront : Text → Prop
  | plain (sign : Text) (known : sign ∈ [[], ['+'], ['-']]) : IsFront sign
  | fielded (sign field : Text) (known : sign ∈ [[], ['+'], ['-']]) (name : IsToken field) :
      IsFront (sign ++ (field ++ [':']))

/-- Nothing, or a number behind its mark. -/
inductive IsSuffix (mark : Char) : Text → Prop
  | absent : IsSuffix mark []
  | number (text : Text) (spelled : IsNumber text) : IsSuffix mark (mark :: text)

/-- What a range can hold for a bound. -/
def IsValue (text : Text) : Prop := text ≠ [] ∧ Unbroken text

inductive IsClause : Text → Prop
  | term (front token fuzziness boost : Text) (leads : IsFront front) (named : IsToken token)
      (fuzzy : IsSuffix '~' fuzziness) (boosted : IsSuffix '^' boost) :
      IsClause (front ++ (token ++ fuzziness) ++ boost)
  | range (front : Text) (inclusive : Bool) (start stop boost : Text) (leads : IsFront front)
      (lower : IsValue start) (upper : IsValue stop) (boosted : IsSuffix '^' boost) :
      IsClause (front ++ (Leaf.range inclusive start stop).write ++ boost)
  | group (front : Text) (operator : Operator) (clauses : List Text) (boost : Text)
      (leads : IsFront front) (several : 2 ≤ clauses.length)
      (each : ∀ clause ∈ clauses, IsClause clause) (boosted : IsSuffix '^' boost) :
      IsClause (front ++ '(' :: List.intercalate (separator operator) clauses ++ ')' :: boost)

/-- The marks that one node can put in front of its content. -/
inductive RegularMarks : List Mark → Prop
  | plain (signs : List Mark) (known : signs ∈ [[], [.required], [.prohibited]]) :
      RegularMarks signs
  | fielded (signs : List Mark) (name : Text) (known : signs ∈ [[], [.required], [.prohibited]])
      (filled : name ≠ []) : RegularMarks (signs ++ [.field name])

/-- Negative zero is not written as a number. -/
def Leaf.Regular : Leaf → Prop
  | .term _ (some fuzziness) => fuzziness ≠ ['-', '0']
  | _ => True

inductive Reading.Regular : Reading → Prop
  | leaf (marks : List Mark) (held : Leaf) (boosts : List Text) (front : RegularMarks marks)
      (core : held.Regular) (single : boosts.length ≤ 1) : Regular (.leaf marks held boosts)
  | group (marks : List Mark) (operator : Operator) (children : List Reading)
      (boosts : List Text) (front : RegularMarks marks)
      (each : ∀ child ∈ children, Regular child) (single : boosts.length ≤ 1) :
      Regular (.group marks operator children boosts)

theorem is_token_iff (text : Text) :
    IsToken text ↔ ∃ value, Filled value ∧ escapeToken value = text := by
  constructor
  · rintro (⟨_, filled, plain⟩ | ⟨value, needed⟩)
    · exact ⟨text, filled, escape_token_of_bare text ((needs_quotes_false_iff text).mpr plain)⟩
    · refine ⟨value, ?_, escape_token_of_quotes value needed⟩
      rintro rfl
      simp [needsQuotes] at needed
  · rintro ⟨value, filled, rfl⟩
    cases quotes : needsQuotes value with
    | true =>
        rw [escape_token_of_quotes value quotes]
        exact .quoted value quotes
    | false =>
        rw [escape_token_of_bare value quotes]
        exact .bare value filled ((needs_quotes_false_iff value).mp quotes)

theorem is_sign_iff (sign : Text) :
    sign ∈ [[], ['+'], ['-']] ↔
      ∃ signs, signs ∈ [[], [.required], [.prohibited]] ∧ writeMarks signs = sign := by
  have written : [[], ['+'], ['-']] = [[], [.required], [.prohibited]].map writeMarks := rfl
  rw [written, List.mem_map]

theorem is_front_iff (front : Text) :
    IsFront front ↔ ∃ marks, RegularMarks marks ∧ writeMarks marks = front := by
  constructor
  · rintro (⟨_, known⟩ | ⟨sign, field, known, name⟩)
    · obtain ⟨signs, listed, same⟩ := (is_sign_iff front).mp known
      exact ⟨signs, .plain signs listed, same⟩
    · obtain ⟨signs, listed, rfl⟩ := (is_sign_iff sign).mp known
      obtain ⟨value, filled, rfl⟩ := (is_token_iff field).mp name
      exact ⟨signs ++ [.field value], .fielded signs value listed filled,
        by simp [writeMarks, Mark.write]⟩
  · rintro ⟨marks, ⟨_, known⟩ | ⟨signs, name, known, filled⟩, rfl⟩
    · exact .plain _ ((is_sign_iff _).mpr ⟨marks, known, rfl⟩)
    · have named : IsToken (escapeToken name) := (is_token_iff _).mpr ⟨name, filled, rfl⟩
      have front := IsFront.fielded _ _ ((is_sign_iff _).mpr ⟨signs, known, rfl⟩) named
      simpa [writeMarks, Mark.write] using front

theorem is_boost_iff (boost : Text) :
    IsSuffix '^' boost ↔
      ∃ boosts : List Text, boosts.length ≤ 1 ∧ (∀ text ∈ boosts, IsNumber text) ∧
        writeBoosts boosts = boost := by
  constructor
  · rintro (_ | ⟨text, spelled⟩)
    · exact ⟨[], by simp [writeBoosts]⟩
    · exact ⟨[text], by simp [writeBoosts, spelled]⟩
  · rintro ⟨boosts, single, numbers, rfl⟩
    rcases boosts with _ | ⟨text, _ | ⟨second, more⟩⟩
    · exact .absent
    · have suffix : IsSuffix '^' ('^' :: text) := .number text (numbers text (by simp))
      simpa [writeBoosts] using suffix
    · simp at single

theorem is_term_iff (text : Text) :
    (∃ token fuzziness, IsToken token ∧ IsSuffix '~' fuzziness ∧ token ++ fuzziness = text) ↔
      ∃ value fuzzy, (Leaf.term value fuzzy).Proper Filled IsValue ∧
        (Leaf.term value fuzzy).Regular ∧ (Leaf.term value fuzzy).write = text := by
  constructor
  · rintro ⟨token, fuzziness, named, fuzzy, rfl⟩
    obtain ⟨value, filled, rfl⟩ := (is_token_iff token).mp named
    rcases fuzzy with _ | ⟨number, spelled⟩
    · exact ⟨value, none, ⟨filled, by simp⟩, trivial, by simp [Leaf.write]⟩
    · have weights : ∀ text ∈ some number, WeightText text := by
        intro text member
        cases member
        exact Or.inl spelled
      refine ⟨value, some number, ⟨filled, weights⟩, ?_, by simp [Leaf.write]⟩
      rintro rfl
      exact signed_not_number _ spelled
  · rintro ⟨value, fuzzy, proper, regular, rfl⟩
    have named : IsToken (escapeToken value) := (is_token_iff _).mpr ⟨value, proper.1, rfl⟩
    cases fuzzy with
    | none => exact ⟨_, [], named, .absent, by simp [Leaf.write]⟩
    | some number =>
        have spelled : IsNumber number := (proper.2 number rfl).resolve_right regular
        exact ⟨_, _, named, .number number spelled, by simp [Leaf.write]⟩

namespace Reading

theorem clause_of_regular (reading : Reading) (proper : reading.Proper Filled IsValue)
    (regular : reading.Regular) : IsClause reading.write := by
  induction reading with
  | leaf marks held boosts =>
      cases proper with
      | leaf _ _ _ core numbers =>
          cases regular with
          | leaf _ _ _ front sound single =>
              have leads := (is_front_iff _).mpr ⟨marks, front, rfl⟩
              have boosted := (is_boost_iff _).mpr ⟨boosts, single, numbers, rfl⟩
              rw [write]
              cases held with
              | term value fuzzy =>
                  obtain ⟨token, fuzziness, named, fuzzed, same⟩ :=
                    (is_term_iff _).mpr ⟨value, fuzzy, core, sound, rfl⟩
                  rw [← same]
                  exact .term _ token fuzziness _ leads named fuzzed boosted
              | range inclusive start stop =>
                  exact .range _ inclusive start stop _ leads core.1 core.2 boosted
  | group marks operator children boosts induction =>
      cases proper with
      | group _ _ _ _ several each numbers =>
          cases regular with
          | group _ _ _ _ front sound single =>
              rw [write, write_all_eq_map]
              refine .group _ operator _ _ ((is_front_iff _).mpr ⟨marks, front, rfl⟩)
                (by simpa using several) ?_ ((is_boost_iff _).mpr ⟨boosts, single, numbers, rfl⟩)
              intro clause member
              obtain ⟨child, inside, rfl⟩ := List.mem_map.mp member
              exact induction child inside (each child inside) (sound child inside)

/-- Every clause of the grammar is a reading written down. -/
theorem exists_regular_of_clause (text : Text) (clause : IsClause text) :
    ∃ reading : Reading,
      reading.Proper Filled IsValue ∧ reading.Regular ∧ reading.write = text := by
  induction clause with
  | term front token fuzziness boost leads named fuzzy boosted =>
      obtain ⟨marks, regular, rfl⟩ := (is_front_iff front).mp leads
      obtain ⟨boosts, single, numbers, rfl⟩ := (is_boost_iff boost).mp boosted
      obtain ⟨value, weight, proper, sound, same⟩ :=
        (is_term_iff _).mp ⟨token, fuzziness, named, fuzzy, rfl⟩
      exact ⟨.leaf marks (.term value weight) boosts, .leaf _ _ _ proper numbers,
        .leaf _ _ _ regular sound single, by rw [write, same]⟩
  | range front inclusive start stop boost leads lower upper boosted =>
      obtain ⟨marks, regular, rfl⟩ := (is_front_iff front).mp leads
      obtain ⟨boosts, single, numbers, rfl⟩ := (is_boost_iff boost).mp boosted
      exact ⟨.leaf marks (.range inclusive start stop) boosts, .leaf _ _ _ ⟨lower, upper⟩ numbers,
        .leaf _ _ _ regular trivial single, rfl⟩
  | group front operator clauses boost leads several each boosted induction =>
      obtain ⟨marks, regular, rfl⟩ := (is_front_iff front).mp leads
      obtain ⟨boosts, single, numbers, rfl⟩ := (is_boost_iff boost).mp boosted
      -- Each clause has a reading of its own; they are gathered along the list.
      have listed : ∃ children : List Reading, (∀ child ∈ children, child.Proper Filled IsValue) ∧
          (∀ child ∈ children, child.Regular) ∧ children.map write = clauses := by
        clear each several
        induction clauses with
        | nil => exact ⟨[], by simp⟩
        | cons first later further =>
            obtain ⟨child, proper, sound, same⟩ := induction first (by simp)
            obtain ⟨children, propers, sounds, sames⟩ :=
              further fun clause member => induction clause (List.mem_cons_of_mem _ member)
            exact ⟨child :: children, List.forall_mem_cons.mpr ⟨proper, propers⟩,
              List.forall_mem_cons.mpr ⟨sound, sounds⟩, by rw [List.map_cons, same, sames]⟩
      obtain ⟨children, propers, sounds, rfl⟩ := listed
      exact ⟨.group marks operator children boosts,
        .group _ _ _ _ (by simpa using several) propers numbers,
        .group _ _ _ _ regular sounds single, by rw [write, write_all_eq_map]⟩

/-- Clauses are told apart by their texts, so that none but a regular one is in the grammar. -/
theorem clause_iff_regular (reading : Reading) (proper : reading.Proper Filled IsValue) :
    IsClause reading.write ↔ reading.Regular := by
  constructor
  · intro clause
    obtain ⟨other, otherProper, regular, same⟩ := exists_regular_of_clause _ clause
    have told : ∀ reading : Reading, reading.Proper Filled IsValue →
        reading.Proper Filled Unbroken := fun reading proper =>
      proper.mono reading (fun _ filled => filled) fun _ value => value.2
    rwa [← write_injective other reading (told other otherProper) (told reading proper) same]
  · exact reading.clause_of_regular proper

end Reading

namespace Node

/-- No clause that shows has more marks than one node can put there. -/
def Regular (node : Node) : Prop := ∀ reading, node.outline = some reading → reading.Regular

theorem in_grammar_iff (node : Node) (words : node.WordBounds) :
    node.render = [] ∨ IsClause node.render ↔ node.Regular := by
  rw [render_eq_shown, Regular]
  cases found : node.outline with
  | none => simp [Reading.shown]
  | some reading =>
      have values : ∀ inner ∈ node.nodes, ∀ text ∈ inner.boundTexts, IsValue text := by
        intro inner member text bound
        have plain := node.bound_texts_plain words inner member text bound
        exact ⟨plain.1, unbroken_of_plain text plain⟩
      have solid := node.outline_proper values reading found
      have proper := solid.mono reading (fun _ solid => solid.1) fun _ value => value
      have filled := reading.write_ne_nil solid
      simp [Reading.shown, filled, reading.clause_iff_regular proper]

/-- Rendering stays in the grammar just where no group hands its marks to a child that has marks
of the same kind: of every tree whose text bounds are words, and so of every query that is built
from a document, whatever its fields and values and the settings are. -/
theorem rendering_in_grammar_iff (node : Node) (document : Document) (settings : Settings)
    (clock : Clock) :
    (node.WordBounds → (node.render = [] ∨ IsClause node.render ↔ node.Regular)) ∧
    (document.WordBounds → ∀ query, document.build settings clock = .ok query →
      (query.render = [] ∨ IsClause query.render ↔ query.toNode.Regular)) := by
  refine ⟨node.in_grammar_iff, ?_⟩
  intro words query built
  exact query.toNode.in_grammar_iff (document.build_word_bounds settings clock words query built)

/-- A range from a word on, with a sign and a field of its own. -/
def openRange : Document :=
  ⟨none, [⟨{ kind := .range, field := some ['a', 'g', 'e'], exclusion := some ['+'],
             start := some (.text ['o', 'l', 'd']) }, none⟩]⟩

theorem open_range_in_grammar :
    ∃ query, openRange.WordBounds ∧ openRange.build {} (.still ⟨0, 0, 0⟩) = .ok query ∧
      query.toNode.WordBounds ∧ (query.toNode.render = [] ∨ IsClause query.toNode.render) ∧
        (query.render = [] ∨ IsClause query.render) := by
  let range : Range :=
    ⟨.text ['o', 'l', 'd'], .unbounded, true, .plain, ⟨['a', 'g', 'e'], .require, .zero⟩⟩
  let query : Query := ⟨.and, [.range range], .plain⟩
  have words : openRange.WordBounds := by
    intro options member
    obtain rfl : options = _ := List.mem_singleton.mp member
    have word : IsWord ['o', 'l', 'd'] := by decide
    exact ⟨word, trivial⟩
  have built : openRange.build {} (.still ⟨0, 0, 0⟩) = .ok query := rfl
  have bounds := openRange.build_word_bounds {} (.still ⟨0, 0, 0⟩) words query built
  have regular : query.toNode.Regular := by
    intro reading found
    cases found
    have named : range.decoration.field ≠ [] := by decide
    exact .leaf _ _ _ (.fielded [.required] _ (by simp) named) trivial (by decide)
  obtain ⟨tree, queries⟩ := rendering_in_grammar_iff query.toNode openRange {} (.still ⟨0, 0, 0⟩)
  exact ⟨query, words, built, bounds, (tree bounds).mpr regular,
    (queries words query built).mpr regular⟩

/-- A term in a group of its own. -/
def groupedTerm : Document :=
  ⟨none, [⟨{ kind := .group }, some [⟨{ kind := .term, value := some (.text ['x']) }, none⟩]⟩]⟩

def titleSettings : Settings := { defaultField := ['t', 'i', 't', 'l', 'e'] }

/-- The default field goes to the group and to the term in it, and both show. -/
theorem default_field_written_twice :
    ∃ query, groupedTerm.WordBounds ∧
      groupedTerm.build titleSettings (.still ⟨0, 0, 0⟩) = .ok query ∧
      query.render = "title:title:x".toList ∧ ¬ (query.render = [] ∨ IsClause query.render) := by
  let titled : Decoration := ⟨titleSettings.defaultField, .none, .zero⟩
  let query : Query :=
    ⟨.and, [.group .and [.term ⟨some ['x'], none, titled⟩] titled], .plain⟩
  have words : groupedTerm.WordBounds := by
    intro options member
    simp only [groupedTerm, List.flatMap_cons, List.flatMap_nil, Clause.allOptions,
      Clause.optionsOfAll, List.append_nil, List.mem_cons, List.not_mem_nil, or_false] at member
    rcases member with rfl | rfl <;> exact ⟨trivial, trivial⟩
  have built : groupedTerm.build titleSettings (.still ⟨0, 0, 0⟩) = .ok query := rfl
  have bounds := groupedTerm.build_word_bounds titleSettings (.still ⟨0, 0, 0⟩) words query built
  have twice : ¬ RegularMarks [.field titled.field, .field titled.field] := by
    intro regular
    generalize same : [Mark.field titled.field, .field titled.field] = marks at regular
    rcases regular with ⟨_, known⟩ | ⟨signs, name, known, _⟩
    · simp [← same] at known
    · simp only [List.mem_cons, List.not_mem_nil, or_false] at known
      rcases known with rfl | rfl | rfl <;> simp at same
  refine ⟨query, words, built, by decide, ?_⟩
  intro inside
  have regular := (query.toNode.in_grammar_iff bounds).mp inside
  cases regular _ rfl with
  | leaf _ _ _ front _ _ => exact twice front

end Node

end LuceneQuery
