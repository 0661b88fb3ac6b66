import LuceneQuery.Proofs.BoundText
import LuceneQuery.Proofs.StoredBounds

/-!
# The brackets of a range

The text of a range should have its own two brackets and no others, and should tell what its
bounds are. Both hang on the bounds: they are written as they are, so that a bound can bring a
bracket of its own, open quotes over what follows, or hold the separator.
-/

namespace LuceneQuery

set_option autoImplicit false

/-- What the characters before a place do to the one that stands there. -/
inductive Guard where
  | bare
  | escaped
  | quoted
  | quotedEscaped
  deriving DecidableEq, Repr

namespace Guard

def step : Guard → Char → Guard
  | .bare, c => if c = '"' then .quoted else if c = '\\' then .escaped else .bare
  | .escaped, _ => .bare
  | .quoted, c => if c = '"' then .bare else if c = '\\' then .quotedEscaped else .quoted
  | .quotedEscaped, _ => .quoted

def after : Guard → Text → Guard
  | guard, [] => guard
  | guard, c :: rest => (guard.step c).after rest

/-- The places of the brackets that are neither quoted nor escaped. -/
def exposed : Guard → Nat → Text → List Nat
  | _, _, [] => []
  | guard, place, c :: rest =>
      (if guard = .bare ∧ isBracket c = true then [place] else []) ++
        (guard.step c).exposed (place + 1) rest

theorem exposed_append (guard : Guard) (place : Nat) (first later : Text) :
    guard.exposed place (first ++ later) =
      guard.exposed place first ++ (guard.after first).exposed (place + first.length) later := by
  induction first generalizing guard place with
  | nil => rfl
  | cons c rest induction =>
      rw [List.cons_append, exposed, exposed, induction, after, List.append_assoc]
      congr 3
      simp only [List.length_cons]
      omega

theorem exposed_lt (guard : Guard) (place : Nat) (text : Text) :
    ∀ found ∈ guard.exposed place text, found < place + text.length := by
  induction text generalizing guard place with
  | nil => simp [exposed]
  | cons c rest induction =>
      intro found member
      rw [exposed, List.mem_append] at member
      rw [List.length_cons]
      rcases member with here | later
      · split at here
        · rw [List.mem_singleton.mp here]
          omega
        · cases here
      · have below := induction (guard.step c) (place + 1) found later
        omega

end Guard

/-- A text that exposes no bracket and leaves nothing quoted or escaped behind it. -/
def Guarded (text : Text) : Prop :=
  Guard.bare.exposed 0 text = [] ∧ Guard.bare.after text = .bare

instance (text : Text) : Decidable (Guarded text) :=
  inferInstanceAs (Decidable (_ ∧ _))

/-- Where brackets stand does not depend on where counting starts. -/
theorem Guard.exposed_eq_nil (guard : Guard) (place other : Nat) (text : Text) :
    guard.exposed place text = [] ↔ guard.exposed other text = [] := by
  induction text generalizing guard place other with
  | nil => rfl
  | cons c rest induction =>
      simp only [exposed, List.append_eq_nil_iff, induction (guard.step c) (place + 1) (other + 1)]
      split <;> simp

theorem exposed_between_brackets (opening closing : Char) (inner : Text)
    (opens : isBracket opening = true) (closes : isBracket closing = true) :
    Guard.bare.exposed 0 (opening :: inner ++ [closing]) =
        [0, (opening :: inner ++ [closing]).length - 1] ↔ Guarded inner := by
  have plain : Guard.bare.step opening = .bare := by
    have quote : opening ≠ '"' := by
      rintro rfl
      exact absurd opens (by decide)
    have backslash : opening ≠ '\\' := by
      rintro rfl
      exact absurd opens (by decide)
    simp [Guard.step, quote, backslash]
  have length : (opening :: inner ++ [closing]).length - 1 = 1 + inner.length := by
    simp only [List.cons_append, List.length_cons, List.length_append, List.length_nil]
    omega
  rw [length, List.cons_append, Guard.exposed, plain, Guard.exposed_append]
  simp only [opens, and_self, if_true, List.singleton_append, List.cons.injEq, true_and,
    Guarded, Guard.exposed_eq_nil .bare 0 1, Guard.exposed, closes, and_true, List.append_nil,
    Nat.zero_add]
  constructor
  · intro only
    by_cases bare : Guard.bare.after inner = .bare
    · rw [if_pos bare] at only
      exact ⟨List.append_left_eq_self.mp only, bare⟩
    · rw [if_neg bare, List.append_nil] at only
      have below := Guard.bare.exposed_lt 1 inner (1 + inner.length) (by simp [only])
      omega
  · rintro ⟨none, bare⟩
    rw [none, if_pos bare, List.nil_append]

theorem guarded_of_unmarked (text : Text)
    (unmarked : ∀ c ∈ text, isBracket c = false ∧ c ≠ '"' ∧ c ≠ '\\') : Guarded text := by
  induction text with
  | nil => exact ⟨rfl, rfl⟩
  | cons c rest induction =>
      obtain ⟨bracket, quote, backslash⟩ := unmarked c (by simp)
      obtain ⟨none, bare⟩ := induction fun next member => unmarked next (by simp [member])
      have stepped : Guard.bare.step c = .bare := by simp [Guard.step, quote, backslash]
      constructor
      · have later := (Guard.exposed_eq_nil .bare 0 1 rest).mp none
        simp [Guard.exposed, stepped, bracket, later]
      · rw [Guard.after, stepped, bare]

namespace BoundFormat

/-- What a bound of the format can be written as. -/
def Shows (format : BoundFormat) (text : Text) : Prop :=
  ∃ now bound, format.render (format.normalize now bound) = text

/-- The text between the brackets can be taken for these two bounds and for no others. -/
def CutsOnce (format : BoundFormat) (start stop : Text) : Prop :=
  ∀ before behind, format.Shows before → format.Shows behind →
    before ++ [' ', 'T', 'O', ' '] ++ behind = start ++ [' ', 'T', 'O', ' '] ++ stop →
      before = start ∧ behind = stop

/-- A plain range can show every text but white space. -/
theorem shows_plain_iff (text : Text) : Shows .plain text ↔ Text.trim text ≠ [] := by
  constructor
  · rintro ⟨now, bound, rfl⟩
    rcases render_plain_or_given .plain (normalize .plain now bound) with plain | raw
    · rw [Ne, Text.trim_eq_nil_iff]
      intro blank
      obtain ⟨c, rest, same⟩ := List.exists_cons_of_ne_nil plain.1
      have first := bound_char_not_blank c (plain.2 c (by simp [same]))
      simp [blank c (by simp [same])] at first
    · cases bound with
      | text given =>
          by_cases blank : (Text.trim given).isEmpty = true
          · simp [normalize, blank] at raw
          · have solid : Text.trim given ≠ [] := by simpa using blank
            simpa [normalize, blank, render, Bound.plainText] using solid
      | unbounded => cases raw
      | integer value => cases raw
      | float value => cases raw
      | timestamp value => cases raw
  · intro filled
    refine ⟨⟨0, 0, 0⟩, .text text, ?_⟩
    simp [normalize, render, Bound.plainText, filled]

/-- Without spaces of its own no bound can be cut. -/
theorem cuts_once_of_unspaced (format : BoundFormat) (start stop : Text) (startPlain : ' ' ∉ start)
    (stopPlain : ' ' ∉ stop) : format.CutsOnce start stop := by
  intro before behind _ _ same
  have spaces := congrArg (List.count ' ') same
  simp only [List.count_append, List.count_eq_zero_of_not_mem startPlain,
    List.count_eq_zero_of_not_mem stopPlain] at spaces
  have beforePlain : ' ' ∉ before := by
    rw [← List.count_eq_zero]
    omega
  have others : ∀ text : Text, ' ' ∉ text → ∀ c ∈ text, (c != ' ') = true := by
    intro text plain c member
    simp only [bne_iff_ne, ne_eq]
    rintro rfl
    exact plain member
  simp only [List.append_assoc, List.cons_append] at same
  obtain ⟨starts, rests⟩ := run_cancel (fun c => c != ' ') before start _ _
    (others before beforePlain) (others start startPlain) (by simp) (by simp) same
  exact ⟨starts, by simpa using rests⟩

end BoundFormat

namespace Range

/-- What stands between the brackets. -/
def inner (range : Range) : Text :=
  range.boundText range.start ++ [' ', 'T', 'O', ' '] ++ range.boundText range.stop

/-- The brackets that are neither quoted nor escaped are the first and the last character. -/
def BracketsKept (range : Range) : Prop :=
  Guard.bare.exposed 0 range.content = [0, range.content.length - 1]

instance (range : Range) : Decidable range.BracketsKept :=
  inferInstanceAs (Decidable (_ = _))

/-- No other bounds that are set make the same text. -/
def BoundsTold (range : Range) : Prop :=
  ∀ (other : Range) (now : Timestamp) (start stop : Bound),
    let set := other.setRange now start stop
    set.isEmpty = false → set.format = range.format → set.inclusive = range.inclusive →
      set.content = range.content →
        set.boundText set.start = range.boundText range.start ∧
          set.boundText set.stop = range.boundText range.stop

theorem content_of_filled (range : Range) (filled : range.isEmpty = false) :
    range.content = range.opening :: range.inner ++ [range.closing] := by
  simp [content, inner, filled]

theorem brackets_kept_iff (range : Range) (filled : range.isEmpty = false) :
    range.BracketsKept ↔ Guarded range.inner := by
  have opens : isBracket range.opening = true := by
    unfold opening
    split <;> rfl
  have closes : isBracket range.closing = true := by
    unfold closing
    split <;> rfl
  rw [BracketsKept, range.content_of_filled filled]
  exact exposed_between_brackets _ _ _ opens closes

/-- The asterisk as a text is written as an open end is, and is none. -/
theorem exists_shown (base : Range) (before behind : Text) (first : base.format.Shows before)
    (last : base.format.Shows behind) :
    ∃ now start stop, (base.setRange now start stop).isEmpty = false ∧
      base.format.render (base.format.normalize now start) = before ∧
      base.format.render (base.format.normalize now stop) = behind := by
  obtain ⟨now, start, rfl⟩ := first
  obtain ⟨later, stop, rfl⟩ := last
  have kept := base.format.normalize_normalize later now stop
  by_cases open' : (base.format.normalize now start).isUnbounded = true
  · have start' : base.format.normalize now start = .unbounded := by
      cases shape : base.format.normalize now start <;> simp_all [Bound.isUnbounded]
    have asterisk : base.format.normalize now (.text ['*']) = .text ['*'] := by
      cases base.format <;> rfl
    refine ⟨now, .text ['*'], base.format.normalize later stop, ?_, ?_, ?_⟩
    · simp [setRange, isEmpty, asterisk, Bound.isUnbounded]
    · rw [asterisk, start']
      cases base.format with
      | plain => rfl
      | date => rfl
    · rw [kept]
  · refine ⟨now, start, base.format.normalize later stop, ?_, rfl, by rw [kept]⟩
    simp [setRange, isEmpty, open']

theorem bounds_told_iff (range : Range) (filled : range.isEmpty = false) :
    range.BoundsTold ↔ range.format.CutsOnce (range.boundText range.start)
      (range.boundText range.stop) := by
  constructor
  · intro told before behind first last same
    obtain ⟨now, start, stop, shown, front, back⟩ :=
      range.exists_shown before behind first last
    have written : (range.setRange now start stop).content = range.content := by
      rw [content_of_filled _ shown, content_of_filled _ filled]
      simp only [inner, boundText, setRange, front, back, opening, closing]
      rw [same]
      rfl
    have texts := told range now start stop shown rfl rfl written
    simp only [boundText, setRange, front, back] at texts
    exact texts
  · intro once other now start stop set shown format inclusive written
    have front : range.format.Shows (set.boundText set.start) :=
      ⟨now, start, by rw [← format]; rfl⟩
    have back : range.format.Shows (set.boundText set.stop) :=
      ⟨now, stop, by rw [← format]; rfl⟩
    apply once _ _ front back
    rw [content_of_filled set shown, content_of_filled range filled] at written
    have brackets : set.opening = range.opening ∧ set.closing = range.closing := by
      simp [opening, closing, inclusive]
    rw [brackets.1, brackets.2] at written
    have inners : set.inner = range.inner := by simpa using written
    exact inners

/-- Bounds that are no text keep brackets and separator to the range. -/
theorem plain_bounds_kept (range : Range) (filled : range.isEmpty = false)
    (start : PlainBound (range.boundText range.start))
    (stop : PlainBound (range.boundText range.stop)) :
    range.BracketsKept ∧ range.BoundsTold := by
  have unspaced : ∀ text, PlainBound text → ' ' ∉ text := fun text plain member =>
    (unbroken_of_plain text plain ' ' member).1 rfl
  constructor
  · rw [range.brackets_kept_iff filled]
    apply guarded_of_unmarked
    have marks : ∀ c, isBoundChar c = true → isBracket c = false ∧ c ≠ '"' ∧ c ≠ '\\' := by
      intro c known
      refine ⟨(bound_char_unbroken c known).2, ?_, ?_⟩ <;>
        (rintro rfl; exact absurd known (by decide))
    intro c member
    simp only [inner, List.mem_append] at member
    rcases member with (front | separator) | back
    · exact marks c (start.2 c front)
    · simp only [List.mem_cons, List.not_mem_nil, or_false] at separator
      rcases separator with rfl | rfl | rfl | rfl <;> decide
    · exact marks c (stop.2 c back)
  · rw [range.bounds_told_iff filled]
    exact BoundFormat.cuts_once_of_unspaced _ _ _ (unspaced _ start) (unspaced _ stop)

/-- The text of a range is its own where the text between the brackets exposes no bracket, and
tells its bounds where it can be cut at the separator in one way. -/
theorem bounds_kept_iff (range : Range) (filled : range.isEmpty = false) :
    (range.BracketsKept ↔ Guarded range.inner) ∧
      (range.BoundsTold ↔ range.format.CutsOnce (range.boundText range.start)
        (range.boundText range.stop)) :=
  ⟨range.brackets_kept_iff filled, range.bounds_told_iff filled⟩

/-- A range from a word to a number. -/
def wordToNumber : Range := (Range.unset .date).setRange ⟨0, 0, 0⟩ (.text ['a']) (.float 7)

theorem word_to_number_kept :
    wordToNumber.isEmpty = false ∧ wordToNumber.BracketsKept ∧ wordToNumber.BoundsTold := by
  have filled : wordToNumber.isEmpty = false := by decide
  obtain ⟨brackets, bounds⟩ := bounds_kept_iff wordToNumber filled
  exact ⟨filled, brackets.mpr (by decide),
    bounds.mpr (BoundFormat.cuts_once_of_unspaced _ _ _ (by decide) (by decide))⟩

/-- Text is written as it is given: a bracket in it is one of the range, and a separator in it
could be the one of the range. -/
theorem text_bounds_not_kept :
    ¬ ((unset .plain).setRange ⟨0, 0, 0⟩ (.text [']', ' ', '[']) (.text ['c'])).BracketsKept ∧
      ¬ ((unset .plain).setRange ⟨0, 0, 0⟩ (.text ['a', ' ', 'T', 'O', ' ', 'b'])
        (.text ['c'])).BoundsTold := by
  refine ⟨by decide, ?_⟩
  intro told
  have texts := told (unset .plain) ⟨0, 0, 0⟩ (.text ['a']) (.text ['b', ' ', 'T', 'O', ' ', 'c'])
    rfl rfl rfl rfl
  exact absurd texts.1 (by decide)

end Range

end LuceneQuery
