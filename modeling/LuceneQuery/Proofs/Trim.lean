import Mathlib.Data.List.TakeWhile
import LuceneQuery.Decoration

/-!
# Trimmed texts and runs

A text is trimmed when white space stands at neither end. Content that is trimmed already goes
through a decoration as it is. A run of one class of characters ends where the class does.
-/

namespace LuceneQuery

set_option autoImplicit false

namespace Text

def startsBlank (text : Text) : Bool := text.head?.any isBlank

def endsBlank (text : Text) : Bool := text.getLast?.any isBlank

theorem trim_start_of_starts (text : Text) (starts : startsBlank text = false) :
    trimStart text = text := by
  cases text with
  | nil => rfl
  | cons c rest =>
      have solid : isBlank c = false := by simpa [startsBlank] using starts
      simp [trimStart, solid]

theorem trim_end_of_ends (text : Text) (ends : endsBlank text = false) :
    trimEnd text = text := by
  have reversed : trimStart text.reverse = text.reverse := by
    apply trim_start_of_starts
    simpa [startsBlank, endsBlank] using ends
  unfold trimEnd
  rw [trimStart] at reversed
  rw [reversed, List.reverse_reverse]

theorem trim_of_ends (text : Text) (starts : startsBlank text = false)
    (ends : endsBlank text = false) : trim text = text := by
  rw [trim, trim_start_of_starts text starts, trim_end_of_ends text ends]

theorem starts_blank_trim_start (text : Text) : startsBlank (trimStart text) = false := by
  induction text with
  | nil => rfl
  | cons c rest induction =>
      by_cases blank : isBlank c = true
      · simpa [trimStart, blank] using induction
      · simp [trimStart, startsBlank, blank]

theorem ends_blank_trim_end (text : Text) : endsBlank (trimEnd text) = false := by
  have reversed := starts_blank_trim_start text.reverse
  simpa [trimEnd, trimStart, startsBlank, endsBlank] using reversed

/-- What is left of a text at its end keeps the start that the text has. -/
theorem starts_blank_trim_end (text : Text) (starts : startsBlank text = false) :
    startsBlank (trimEnd text) = false := by
  cases text with
  | nil => rfl
  | cons c rest =>
      have solid : isBlank c = false := by simpa [startsBlank] using starts
      have kept : trimEnd (c :: rest) = c :: trimEnd rest := by
        unfold trimEnd
        rw [List.reverse_cons, List.dropWhile_append]
        split
        · next empty =>
          have gone : List.dropWhile isBlank rest.reverse = [] := by simpa using empty
          simp [gone, solid]
        · simp
      simp [kept, startsBlank, solid]

theorem starts_blank_trim (text : Text) : startsBlank (trim text) = false :=
  starts_blank_trim_end _ (starts_blank_trim_start text)

theorem ends_blank_trim (text : Text) : endsBlank (trim text) = false :=
  ends_blank_trim_end _

theorem trim_trim_start (text : Text) : trim (trimStart text) = trim text := by
  rw [trim, trim_start_of_starts _ (starts_blank_trim_start text), ← trim]

/-- A character that is not white space keeps all that follows it. -/
theorem trim_start_append_cons (text rest : Text) (c : Char) (solid : isBlank c = false) :
    trimStart (text ++ c :: rest) = trimStart text ++ c :: rest := by
  induction text with
  | nil => simp [trimStart, solid]
  | cons first later induction =>
      by_cases blank : isBlank first = true
      · simpa [trimStart, blank] using induction
      · simp [trimStart, blank]

theorem ends_blank_append_cons (text rest : Text) (c : Char) :
    endsBlank (text ++ c :: rest) = endsBlank (c :: rest) := by
  simp only [endsBlank, List.getLast?_append, List.getLast?_cons, Option.some_or]

theorem ends_blank_cons_of_solid (c : Char) (rest : Text) (solid : isBlank c = false)
    (ends : endsBlank rest = false) : endsBlank (c :: rest) = false := by
  cases rest with
  | nil => simp [endsBlank, solid]
  | cons next later => simpa [endsBlank, List.getLast?_cons] using ends

theorem ends_blank_append_of_solid (text rest : Text) (textEnds : endsBlank text = false)
    (restEnds : endsBlank rest = false) : endsBlank (text ++ rest) = false := by
  cases rest with
  | nil => simpa using textEnds
  | cons c later => rw [ends_blank_append_cons, restEnds]

theorem ends_blank_of_all_solid (text : Text) (solid : ∀ c ∈ text, isBlank c = false) :
    endsBlank text = false := by
  cases last : text.getLast? with
  | none => simp [endsBlank, last]
  | some c =>
      have member : c ∈ text := List.mem_of_getLast? last
      simp [endsBlank, last, solid c member]

theorem exists_solid_of_ends (text : Text) (filled : text ≠ []) (ends : endsBlank text = false) :
    ∃ c ∈ text, isBlank c = false :=
  ⟨text.getLast filled, List.getLast_mem filled,
    by simpa [endsBlank, List.getLast?_eq_some_getLast filled] using ends⟩

/-- A text is trimmed away when nothing but white space stands in it. -/
theorem trim_eq_nil_iff (text : Text) : trim text = [] ↔ ∀ c ∈ text, isBlank c = true := by
  rw [← List.dropWhile_eq_nil_iff, ← trimStart]
  constructor
  · intro gone
    have reversed : trimStart (trimStart text).reverse = [] := by
      simpa [trim, trimEnd, trimStart] using gone
    have solid := starts_blank_trim_start text
    cases kept : trimStart text with
    | nil => rfl
    | cons c rest =>
        rw [kept, trimStart, List.dropWhile_eq_nil_iff] at reversed
        have first : isBlank c = false := by simpa [startsBlank, kept] using solid
        simp [reversed c] at first
  · intro gone
    rw [trim, gone]
    rfl

theorem trim_ne_nil_iff (text : Text) : trim text ≠ [] ↔ ∃ c ∈ text, isBlank c = false := by
  rw [Ne, trim_eq_nil_iff]
  simp

theorem trim_infix_self (text : Text) : trim text <:+: text := by
  have front : trimEnd (trimStart text) <+: trimStart text := by
    rw [trimEnd, ← List.reverse_suffix, List.reverse_reverse]
    exact List.dropWhile_suffix isBlank
  exact front.isInfix.trans (List.dropWhile_suffix isBlank).isInfix

end Text

/-- Two runs of one class of characters, each followed by a text that does not go on with it. -/
theorem run_cancel (belongs : Char → Bool) (first second rest later : Text)
    (firstRun : ∀ c ∈ first, belongs c = true) (secondRun : ∀ c ∈ second, belongs c = true)
    (firstStop : ∀ c ∈ rest.head?, belongs c = false)
    (secondStop : ∀ c ∈ later.head?, belongs c = false) (same : first ++ rest = second ++ later) :
    first = second ∧ rest = later := by
  have taken : ∀ run stop : Text, (∀ c ∈ run, belongs c = true) →
      (∀ c ∈ stop.head?, belongs c = false) → (run ++ stop).takeWhile belongs = run := by
    intro run stop inside outside
    have none : stop.takeWhile belongs = [] := by
      cases stop with
      | nil => rfl
      | cons c more => simp [outside c (by simp)]
    rw [List.takeWhile_append_of_pos inside, none, List.append_nil]
  have equal : first = second := by
    rw [← taken first rest firstRun firstStop, same, taken second later secondRun secondStop]
  subst equal
  exact ⟨rfl, List.append_cancel_left same⟩

end LuceneQuery
