import LuceneQuery.Proofs.Setters
import LuceneQuery.Proofs.Trim

/-!
# Stored bounds

The bounds that a range stores are in a normal form: none is blank text, and in a date range none
is a relative word, since such a word is replaced by its instant when it is set. A bound in normal
form is stored as it is at any reading of the clock. So what a range shows does not hang on when it
is shown.
-/

namespace LuceneQuery

set_option autoImplicit false

namespace Timestamp

def relativeWords : List Text :=
  ["now".toList, "today".toList, "yesterday".toList, "tomorrow".toList]

theorem of_relative_word_eq_none_iff (now : Timestamp) (text : Text) :
    ofRelativeWord now text = none ↔ Text.keyword text ∉ relativeWords := by
  unfold ofRelativeWord
  generalize Text.keyword text = word
  constructor
  · intro unread member
    simp only [relativeWords, List.mem_cons, List.not_mem_nil, or_false] at member
    rcases member with rfl | rfl | rfl | rfl <;> cases unread
  · intro other
    split
    case h_5 => rfl
    all_goals exact absurd (by decide) other

/-- A relative word is never blank. -/
theorem filled_of_relative_word (text : Text) (relative : Text.keyword text ∈ relativeWords) :
    Text.trim text ≠ [] := by
  intro blank
  rw [Text.keyword, blank] at relative
  exact absurd relative (by decide)

end Timestamp

/-- Only a text can be out of the normal form: a blank one, and in a date range a relative word. -/
def Bound.IsNormal (format : BoundFormat) : Bound → Prop
  | .text given =>
      (∃ c ∈ given, Text.isBlank c = false) ∧
        (format = .date → Text.keyword given ∉ Timestamp.relativeWords)
  | _ => True

namespace BoundFormat

theorem normalize_normal (format : BoundFormat) (now : Timestamp) (bound : Bound) :
    (format.normalize now bound).IsNormal format := by
  cases bound with
  | text given =>
      by_cases blank : Text.trim given = []
      · simp [normalize, blank, Bound.IsNormal]
      · have solid := (Text.trim_ne_nil_iff given).mp blank
        cases format with
        | plain => simpa [normalize, blank, Bound.IsNormal] using solid
        | date =>
            cases read : Timestamp.ofRelativeWord now given with
            | some instant => simp [normalize, blank, read, Bound.IsNormal]
            | none =>
                have other := (Timestamp.of_relative_word_eq_none_iff now given).mp read
                simpa [normalize, blank, read, Bound.IsNormal] using ⟨solid, other⟩
  | unbounded => trivial
  | integer value => trivial
  | float value => trivial
  | timestamp value => trivial

/-- What is in normal form is stored as it is, whatever the clock says. -/
theorem normalize_of_normal (format : BoundFormat) (now : Timestamp) (bound : Bound)
    (normal : bound.IsNormal format) : format.normalize now bound = bound := by
  cases bound with
  | text given =>
      obtain ⟨solid, other⟩ := normal
      have filled := (Text.trim_ne_nil_iff given).mpr solid
      cases format with
      | plain => simp [normalize, filled]
      | date =>
          have read := (Timestamp.of_relative_word_eq_none_iff now given).mpr (other rfl)
          simp [normalize, filled, read]
  | unbounded => rfl
  | integer value => rfl
  | float value => rfl
  | timestamp value => rfl

theorem normalize_normalize (format : BoundFormat) (now later : Timestamp) (bound : Bound) :
    format.normalize later (format.normalize now bound) = format.normalize now bound :=
  format.normalize_of_normal later _ (format.normalize_normal now bound)

theorem normalize_plain_word (now : Timestamp) (given : Text)
    (relative : Text.keyword given ∈ Timestamp.relativeWords) :
    BoundFormat.plain.normalize now (.text given) = .text given := by
  apply normalize_of_normal
  exact ⟨(Text.trim_ne_nil_iff given).mp (Timestamp.filled_of_relative_word given relative), nofun⟩

end BoundFormat

namespace Range

/-- A range of the format with both of its bounds in normal form. -/
structure Normal (format : BoundFormat) (range : Range) : Prop where
  kind : range.format = format
  start : range.start.IsNormal format
  stop : range.stop.IsNormal format

/-- The range once more set to the bounds that it has, at other readings of the clock. -/
def restore (range : Range) (readings : Timestamp × Timestamp) : Range :=
  range.setRange readings.1 range.start range.stop readings.2

variable {format : BoundFormat}

theorem unset_normal : (unset format).Normal format := ⟨rfl, trivial, trivial⟩

theorem set_range_normal (range : Range) (same : range.format = format) (now later : Timestamp)
    (start stop : Bound) : (range.setRange now start stop later).Normal format := by
  subst same
  exact ⟨rfl, BoundFormat.normalize_normal _ now start, BoundFormat.normalize_normal _ later stop⟩

theorem sets_normal (range : Range) (call : SetterCall RangeSetter) (changed : Range)
    (normal : range.Normal format) (sets : SetterCall.Sets range call changed) :
    changed.Normal format := by
  cases sets with
  | own own _ set _ =>
      cases own with
      | setRange now start stop later =>
          cases set
          exact set_range_normal range normal.kind now later start stop
      | setInclusive inclusive =>
          cases set
          exact ⟨normal.kind, normal.start, normal.stop⟩
  | _ => exact ⟨normal.kind, normal.start, normal.stop⟩

theorem run_all_normal (calls : List (SetterCall RangeSetter)) :
    (SetterCall.runAll (unset format) calls).Normal format :=
  SetterCall.run_all_keeps (Normal format) sets_normal calls _ unset_normal

theorem Normal.restore {range : Range} (normal : range.Normal format)
    (readings : Timestamp × Timestamp) : range.restore readings = range := by
  obtain ⟨start, stop, inclusive, own, decoration⟩ := range
  obtain rfl : own = format := normal.kind
  unfold Range.restore setRange
  dsimp only
  rw [BoundFormat.normalize_of_normal own readings.1 start normal.start,
    BoundFormat.normalize_of_normal own readings.2 stop normal.stop]

theorem Normal.restore_all {range : Range} (normal : range.Normal format)
    (readings : List (Timestamp × Timestamp)) : readings.foldl Range.restore range = range := by
  induction readings with
  | nil => rfl
  | cons first later induction => rw [List.foldl_cons, normal.restore first, induction]

/-- Whatever the calls on a new range, its format stays and its stored bounds are in normal form.
Set once more to its own bounds, at any later readings of the clock, it is the same range and
renders alike. -/
theorem stored_bounds_stay_normal (format : BoundFormat) (calls : List (SetterCall RangeSetter)) :
    let range := SetterCall.runAll (unset format) calls
    range.format = format ∧ range.start.IsNormal format ∧ range.stop.IsNormal format ∧
      (∀ now later other given, format = .plain →
        Text.keyword given ∈ Timestamp.relativeWords →
          (range.setRange now (.text given) other later).start = .text given ∧
            (range.setRange now other (.text given) later).stop = .text given) ∧
      (∀ now later, range.setRange now range.start range.stop later = range) ∧
      ∀ readings : List (Timestamp × Timestamp),
        (readings.foldl restore range).render = range.render := by
  intro range
  have normal : range.Normal format := run_all_normal calls
  refine ⟨normal.kind, normal.start, normal.stop, ?_, ?_, ?_⟩
  · intro now later other given plain relative
    simp only [setRange]
    rw [normal.kind, plain, BoundFormat.normalize_plain_word now given relative,
      BoundFormat.normalize_plain_word later given relative]
    exact ⟨rfl, rfl⟩
  · intro now later
    exact normal.restore (now, later)
  · intro readings
    rw [normal.restore_all readings]

example :
    (SetterCall.runAll (unset .date)
      [.own (.setRange ⟨90000, 0, 0⟩ (.text " ToDay".toList) (.text " ".toList) ⟨90001, 0, 0⟩),
        .own (.setInclusive false)]).render = "\x7b1970-01-02T00:00:00+0000 TO *\x7d".toList := by
  rfl

end Range

end LuceneQuery
