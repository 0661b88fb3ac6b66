import LuceneQuery.Operator
import LuceneQuery.Proofs.Outcome
import LuceneQuery.Proofs.Trim

/-!
# Spellings of a keyword

A keyword is read up to white space around it and ASCII case, so that two texts are read alike when
they are one word, spelled in two ways. What is refused is refused alike, but the hint for it is
looked up by the text as it was given: white space around the word hides the hint.
-/

namespace LuceneQuery

set_option autoImplicit false

namespace Text

theorem letters_not_blank (c : Char) (range : 65 ≤ c.toNat ∧ c.toNat ≤ 122) :
    isBlank c = false := by
  simp only [isBlank, Bool.or_eq_false_iff, Bool.and_eq_false_iff, decide_eq_false_iff_not,
    beq_eq_false_iff_ne]
  omega

/-- Folding takes letters to letters, and none of them is white space. -/
theorem is_blank_to_lower (c : Char) : isBlank c.toLower = isBlank c := by
  by_cases upper : c.val ≥ 'A'.val ∧ c.val ≤ 'Z'.val
  · have bounds : 65 ≤ c.toNat ∧ c.toNat ≤ 90 := upper
    have lowered : c.toLower.toNat = c.toNat + 32 := by
      unfold Char.toLower
      rw [dif_pos upper]
      change (c.toNat + 32) % 2 ^ 32 = c.toNat + 32
      omega
    rw [letters_not_blank c (by omega), letters_not_blank c.toLower (by omega)]
  · unfold Char.toLower
    rw [dif_neg upper]

theorem lower_trim_start (text : Text) :
    lowerAscii (trimStart text) = trimStart (lowerAscii text) := by
  have same : isBlank ∘ Char.toLower = isBlank := funext is_blank_to_lower
  rw [trimStart, trimStart, lowerAscii, lowerAscii, List.dropWhile_map, same]

theorem lower_trim (text : Text) : lowerAscii (trim text) = trim (lowerAscii text) := by
  have reversed : ∀ text : Text, lowerAscii text.reverse = (lowerAscii text).reverse :=
    fun text => List.map_reverse
  have ending : ∀ text : Text, lowerAscii (trimEnd text) = trimEnd (lowerAscii text) := by
    intro text
    rw [trimEnd, trimEnd, ← trimStart, ← trimStart, reversed, lower_trim_start, reversed]
  rw [trim, trim, ending, lower_trim_start]

theorem trim_end_append_blank (text back : Text) (after : ∀ c ∈ back, isBlank c = true) :
    trimEnd (text ++ back) = trimEnd text := by
  unfold trimEnd
  rw [List.reverse_append, List.dropWhile_append_of_pos (by simpa using after)]

theorem trim_padded (front text back : Text) (before : ∀ c ∈ front, isBlank c = true)
    (after : ∀ c ∈ back, isBlank c = true) : trim (front ++ text ++ back) = trim text := by
  have opened : trimStart (front ++ (text ++ back)) = trimStart (text ++ back) :=
    List.dropWhile_append_of_pos before
  rw [List.append_assoc, trim, opened]
  unfold trimStart
  rw [List.dropWhile_append]
  split
  · next empty =>
    have gone : trimStart text = [] := by simpa [trimStart] using empty
    rw [List.dropWhile_eq_nil_iff.mpr after, trim, gone]
  · exact trim_end_append_blank _ back after

/-- White space, the core, and white space again. -/
def Pads (core text : Text) : Prop :=
  ∃ front back, (∀ c ∈ front, isBlank c = true) ∧ (∀ c ∈ back, isBlank c = true) ∧
    text = front ++ core ++ back

/-- The texts are one word but for the case of its letters and the white space around it. -/
def SameWord (text other : Text) : Prop :=
  ∃ core letters, Pads core text ∧ Pads letters other ∧ lowerAscii letters = lowerAscii core

theorem SameWord.keyword_eq {text other : Text} (same : SameWord text other) :
    keyword other = keyword text := by
  obtain ⟨core, letters, ⟨front, back, before, after, rfl⟩, ⟨opening, closing, first, last, rfl⟩,
    folded⟩ := same
  rw [keyword, keyword, trim_padded _ _ _ first last, trim_padded _ _ _ before after, lower_trim,
    folded, lower_trim]

theorem SameWord.of_padded (text front core back : Text) (before : ∀ c ∈ front, isBlank c = true)
    (after : ∀ c ∈ back, isBlank c = true) (letters : lowerAscii core = lowerAscii text) :
    SameWord text (front ++ core ++ back) :=
  ⟨text, core, ⟨[], [], by simp⟩, ⟨front, back, before, after, rfl⟩, letters⟩

/-- A text is a word as it stands when it is trimmed and is read as the word. -/
theorem lower_eq_iff (text word : Text) (trimmed : trim word = word) :
    lowerAscii text = word ↔ keyword text = word ∧ trim text = text := by
  constructor
  · rintro rfl
    have kept : lowerAscii (trim text) = lowerAscii text := (lower_trim text).trans trimmed
    have length : (trim text).length = text.length := by
      simpa [lowerAscii] using congrArg List.length kept
    exact ⟨kept, (trim_infix_self text).eq_of_length length⟩
  · rintro ⟨spelled, same⟩
    rwa [keyword, same] at spelled

/-- Padding never makes a trimmed word, and takes the case of the letters as it is. -/
theorem lower_padded_iff (text front core back word : Text) (trimmed : trim word = word)
    (before : ∀ c ∈ front, isBlank c = true) (after : ∀ c ∈ back, isBlank c = true)
    (letters : lowerAscii core = lowerAscii text) :
    lowerAscii (front ++ core ++ back) = word ↔
      lowerAscii text = word ∧ front = [] ∧ back = [] := by
  constructor
  · intro spelled
    have whole := ((lower_eq_iff _ word trimmed).mp spelled).2
    rw [trim_padded front core back before after] at whole
    have length := (trim_infix_self core).length_le
    rw [whole, List.length_append, List.length_append] at length
    obtain rfl : front = [] := List.eq_nil_of_length_eq_zero (by omega)
    obtain rfl : back = [] := List.eq_nil_of_length_eq_zero (by omega)
    rw [List.nil_append, List.append_nil, letters] at spelled
    exact ⟨spelled, rfl, rfl⟩
  · rintro ⟨spelled, rfl, rfl⟩
    rw [List.nil_append, List.append_nil, letters, spelled]

end Text

/-- The operator that a query does not have. -/
def negation : Text := ['n', 'o', 't']

namespace QueryError

/-- The refused text is the negation with white space around it. -/
def HidesHint : QueryError → Prop
  | .invalidOperator text => Text.keyword text = negation ∧ Text.trim text ≠ text
  | _ => False

/-- Refusals of one kind, and of the same word where a text was refused. -/
inductive Alike : QueryError → QueryError → Prop
  | operator (text other : Text) (same : Text.SameWord text other) :
      Alike (.invalidOperator text) (.invalidOperator other)
  | exclusion (text other : Text) (same : Text.SameWord text other) :
      Alike (.invalidExclusion text) (.invalidExclusion other)
  | same (problem : QueryError) : Alike problem problem

theorem operator_suggestion_eq (text : Text) :
    (invalidOperator text).suggestion =
      if Text.lowerAscii text = negation then
        some "Negate a clause with a prohibit exclusion instead of a NOT operator"
      else none :=
  if_congr beq_iff_eq rfl rfl

theorem Alike.suggestion_eq_iff {problem other : QueryError} (alike : problem.Alike other) :
    problem.suggestion = other.suggestion ↔ (problem.HidesHint ↔ other.HidesHint) := by
  cases alike with
  | operator text other same =>
      have trimmed : Text.trim negation = negation := by decide
      simp only [operator_suggestion_eq, Text.lower_eq_iff _ negation trimmed, HidesHint,
        same.keyword_eq]
      by_cases negated : Text.keyword text = negation <;>
        by_cases first : Text.trim text = text <;> by_cases second : Text.trim other = other <;>
        simp [negated, first, second]
  | exclusion text other _ => exact ⟨fun _ => .rfl, fun _ => rfl⟩
  | same => exact ⟨fun _ => .rfl, fun _ => rfl⟩

theorem padded_suggestion_eq_iff (text front core back : Text)
    (before : ∀ c ∈ front, Text.isBlank c = true) (after : ∀ c ∈ back, Text.isBlank c = true)
    (letters : Text.lowerAscii core = Text.lowerAscii text) :
    (invalidOperator text).suggestion = (invalidOperator (front ++ core ++ back)).suggestion ↔
      (Text.lowerAscii text = negation → front = [] ∧ back = []) := by
  have padded :=
    Text.lower_padded_iff text front core back negation (by decide) before after letters
  simp only [operator_suggestion_eq, padded]
  by_cases spelled : Text.lowerAscii text = negation <;>
    by_cases bare : front = [] ∧ back = [] <;> simp [spelled, bare]

end QueryError

theorem Operator.read_error (text : Text) (problem : QueryError)
    (unread : read text = .error problem) : problem = .invalidOperator text := by
  unfold read at unread
  split at unread
  · cases unread
  · cases unread
  · exact (Except.error.inj unread).symm

theorem Exclusion.read_error (text : Text) (problem : QueryError)
    (unread : read text = .error problem) : problem = .invalidExclusion text := by
  unfold read at unread
  simp only at unread
  split at unread
  · cases unread
  · split at unread
    · cases unread
    · split at unread
      · cases unread
      · exact (Except.error.inj unread).symm

theorem Operator.read_alike {text other : Text} (same : Text.SameWord text other) :
    EndsAlike QueryError.Alike (read text) (read other) := by
  unfold read
  rw [same.keyword_eq]
  split
  · exact rfl
  · exact rfl
  · exact .operator text other same

theorem Exclusion.read_alike {text other : Text} (same : Text.SameWord text other) :
    EndsAlike QueryError.Alike (read text) (read other) := by
  unfold read
  simp only [same.keyword_eq]
  split
  · exact rfl
  · split
    · exact rfl
    · split
      · exact rfl
      · exact .exclusion text other same

end LuceneQuery
