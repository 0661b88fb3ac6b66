import LuceneQuery.Proofs.Brackets
import LuceneQuery.Proofs.DateReading

/-!
# Bounds of date ranges

What a date range writes for a text that it can read is read back as the same second at the same
offset, so that writing it again changes nothing. A count of seconds is written alike whether it
is given as a number, as a timestamp or in either of its texts, and no two counts are.
-/

namespace LuceneQuery

set_option autoImplicit false

namespace BoundFormat

theorem render_read (given : Text) (found : Timestamp)
    (resolves : Timestamp.read given = some found) :
    BoundFormat.date.render (.text given) = found.text := by
  simp [render, instant?, resolves]

theorem render_unread (given : Text) (unread : Timestamp.read given = none) :
    BoundFormat.date.render (.text given) = given := by
  simp [render, instant?, unread, Bound.plainText]

/-- A date text is written in a form that stays as it is, and that names the instant and the
offset which the text was read as. -/
theorem written_date_settles (given : Text) :
    BoundFormat.date.render (.text (BoundFormat.date.render (.text given))) =
        BoundFormat.date.render (.text given) ∧
      ∀ found, Timestamp.read given = some found →
        Timestamp.read (BoundFormat.date.render (.text given)) = some found.wholeSecond := by
  cases resolves : Timestamp.read given with
  | none =>
      have same := render_unread given resolves
      rw [same, same]
      exact ⟨rfl, nofun⟩
  | some found =>
      have again := found.read_text_of_expressible (Timestamp.read_expressible given found resolves)
      rw [render_read given found resolves]
      constructor
      · rw [render_read found.text found.wholeSecond again, found.text_whole_second]
      · intro other found
        rwa [← Option.some.inj found]

/-- A leap second of a year before the first, half an hour west. -/
def earlyLeapSecond : Text := "-0012-6-30 23:59:60 -00:30".toList

theorem early_leap_second_settles :
    Timestamp.read earlyLeapSecond = some ⟨-62530183801, 1000000000, -1800⟩ ∧
      Timestamp.read (BoundFormat.date.render (.text earlyLeapSecond)) =
        some (Timestamp.mk (-62530183801) 1000000000 (-1800)).wholeSecond := by
  have resolves : Timestamp.read earlyLeapSecond = some ⟨-62530183801, 1000000000, -1800⟩ := by
    decide +kernel
  exact ⟨resolves, (written_date_settles earlyLeapSecond).2 _ resolves⟩

end BoundFormat

namespace Timestamp

theorem read_word_of_digits (spelled : Text) (digits : IsDigits spelled)
    (word : Word.isSigned (Scan.numberOf spelled) = true) :
    readWord spelled = some (Scan.numberOf spelled : Int) := by
  obtain ⟨c, rest, rfl⟩ := List.exists_cons_of_ne_nil digits.1
  have signed := fun sign => Scan.digit_ne c sign (digits.2 c (by simp))
  have all : (c :: rest).all Char.isDigit = true := List.all_eq_true.mpr digits.2
  unfold readWord
  split
  next negative spelled parts =>
    split at parts
    · next begins => exact absurd (List.cons.inj begins).1 (signed '-' (by decide))
    · next begins => exact absurd (List.cons.inj begins).1 (signed '+' (by decide))
    · cases parts
      simp [all, word]

theorem read_word_of_negative (spelled : Text) (digits : IsDigits spelled)
    (word : Word.isSigned (-(Scan.numberOf spelled : Int)) = true) :
    readWord ('-' :: spelled) = some (-(Scan.numberOf spelled : Int)) := by
  have all : spelled.all Char.isDigit = true := List.all_eq_true.mpr digits.2
  have filled : spelled.isEmpty = false := by simpa using digits.1
  simp [readWord, all, filled, word]

/-- An integer is read back from its digits. -/
theorem read_word_integer (value : Int) (word : Word.isSigned value = true) :
    readWord (Decimal.integerText value) = some value := by
  cases value with
  | ofNat value =>
      have read := Scan.number_of_digits value
      have digits := read_word_of_digits (Decimal.digits value) (Decimal.digits_is_digits value)
      rw [read] at digits
      exact digits word
  | negSucc value =>
      have read := Scan.number_of_digits (value + 1)
      have digits := read_word_of_negative (Decimal.digits (value + 1))
        (Decimal.digits_is_digits (value + 1))
      rw [read] at digits
      exact digits word

/-- Counts of seconds that are in range are words of 64 bits. -/
theorem word_of_in_range (second : Int) (range : inRange second = true) :
    Word.isSigned second = true := by
  simp only [inRange, Bool.and_eq_true, decide_eq_true_iff] at range
  rw [least_second_eq, greatest_second_eq] at range
  rw [Word.isSigned, Bool.and_eq_true, decide_eq_true_iff, decide_eq_true_iff, Word.least,
    Word.greatest]
  omega

theorem trim_epoch_text (second : Int) :
    Text.trim ('@' :: Decimal.integerText second) = '@' :: Decimal.integerText second := by
  have plain := integer_text_plain second
  apply Text.trim_of_ends
  · rfl
  · exact Text.ends_blank_cons_of_solid '@' _ (by decide) (Text.ends_blank_of_all_solid _
      fun c member => bound_char_not_blank c (plain.2 c member))

theorem read_epoch_text (second : Int) (word : Word.isSigned second = true) :
    Timestamp.read ('@' :: Decimal.integerText second) = ofEpoch? second := by
  have number := trim_plain _ (integer_text_plain second)
  rw [Timestamp.read, trim_epoch_text]
  simp [number, read_word_integer second word]

/-- The relative words start with a letter. -/
theorem relative_word_eq_none (now : Timestamp) (c : Char) (rest : Text)
    (trimmed : Text.trim (c :: rest) = c :: rest) (other : c.isAlpha = false) :
    ofRelativeWord now (c :: rest) = none := by
  unfold ofRelativeWord
  rw [Text.keyword, trimmed, Text.lowerAscii, List.map_cons, Scan.folded_of_other c other]
  split
  case h_5 => rfl
  all_goals
    next same =>
      rw [(List.cons.inj same).1] at other
      exact absurd other (by decide)

/-- The text of a count of seconds is read back as that count. -/
theorem epoch_of_text (first second : Int) (moment later : Timestamp)
    (firstResolves : ofEpoch? first = some moment) (secondResolves : ofEpoch? second = some later)
    (same : moment.text = later.text) : first = second := by
  have firstRead :=
    moment.read_text_of_expressible (of_epoch_expressible first moment firstResolves)
  have secondRead :=
    later.read_text_of_expressible (of_epoch_expressible second later secondResolves)
  rw [same, secondRead] at firstRead
  have wholes := congrArg Timestamp.second (Option.some.inj firstRead)
  have seconds : later.second = moment.second := wholes
  rw [(of_epoch_eq_some first moment firstResolves).2,
    (of_epoch_eq_some second later secondResolves).2] at seconds
  exact seconds.symm

end Timestamp

/-- The ways to give the instant of a count of seconds as a bound. -/
def epochSpellings (second : Int) (moment : Timestamp) : List Bound :=
  [.integer second, .timestamp moment, .text ('@' :: Decimal.integerText second),
    .text moment.text]

namespace BoundFormat

/-- A text that starts with no letter is stored as it is. -/
theorem normalize_text (now : Timestamp) (given rest : Text) (c : Char)
    (head : given = c :: rest) (trimmed : Text.trim given = given) (other : c.isAlpha = false) :
    BoundFormat.date.normalize now (.text given) = .text given := by
  subst head
  have word := Timestamp.relative_word_eq_none now c rest trimmed other
  simp [normalize, trimmed, word]

theorem epoch_spelling_written (now : Timestamp) (second : Int) (moment : Timestamp)
    (resolves : Timestamp.ofEpoch? second = some moment) :
    ∀ spelling ∈ epochSpellings second moment,
      BoundFormat.date.render (BoundFormat.date.normalize now spelling) = moment.text := by
  have expressible := Timestamp.of_epoch_expressible second moment resolves
  have word := Timestamp.word_of_in_range second
    (Timestamp.of_epoch_eq_some second moment resolves).1
  simp only [epochSpellings, List.forall_mem_cons, List.not_mem_nil, false_imp_iff, implies_true,
    and_true]
  refine ⟨?_, rfl, ?_, ?_⟩
  · simp [normalize, render, instant?, resolves]
  · have read := Timestamp.read_epoch_text second word
    rw [resolves] at read
    rw [normalize_text now _ _ '@' rfl (Timestamp.trim_epoch_text second) (by decide)]
    exact render_read _ moment read
  · have read := moment.read_text_of_expressible expressible
    obtain ⟨c, rest, head, other, _⟩ := DatePattern.written_head moment.spelled moment.offset
    rw [← moment.text_eq_written] at head
    have trimmed := Timestamp.trim_plain moment.text moment.text_plain
    rw [normalize_text now moment.text rest c head trimmed other, render_read _ _ read,
      moment.text_whole_second]

end BoundFormat

namespace Range

def startText (range : Range) : Text := range.boundText range.start

def stopText (range : Range) : Text := range.boundText range.stop

/-- A date range set to a spelling of a count of seconds, at either end. -/
theorem epoch_bound_written (range : Range) (dates : range.format = .date) (now : Timestamp)
    (other : Bound) (second : Int) (moment : Timestamp)
    (resolves : Timestamp.ofEpoch? second = some moment) :
    ∀ spelling ∈ epochSpellings second moment,
      (range.setRange now spelling other).startText = moment.text ∧
        (range.setRange now other spelling).stopText = moment.text := by
  intro spelling member
  have written := BoundFormat.epoch_spelling_written now second moment resolves spelling member
  constructor
  · rw [startText, boundText, setRange, dates, written]
  · rw [stopText, boundText, setRange, dates, written]

/-- However a count of seconds is given to a date range it is written as one text, and no other
count is written as that text. -/
theorem epoch_spellings_agree (range : Range) (dates : range.format = .date) (now : Timestamp)
    (other : Bound) (second : Int) (moment : Timestamp)
    (resolves : Timestamp.ofEpoch? second = some moment) :
    (∀ spelling ∈ epochSpellings second moment,
      (range.setRange now spelling other).startText = moment.text ∧
        (range.setRange now other spelling).stopText = moment.text) ∧
      ∀ later, (Timestamp.ofEpoch? later).isSome = true → later ≠ second →
        (range.setRange now (.integer later) other).startText ≠ moment.text ∧
          (range.setRange now other (.integer later)).stopText ≠ moment.text := by
  refine ⟨epoch_bound_written range dates now other second moment resolves, ?_⟩
  intro later resolvesToo differs
  obtain ⟨found, foundResolves⟩ := Option.isSome_iff_exists.mp resolvesToo
  have told : found.text ≠ moment.text := fun same =>
    differs (Timestamp.epoch_of_text later second found moment foundResolves resolves same)
  obtain ⟨start, stop⟩ := epoch_bound_written range dates now other later found foundResolves
    (.integer later) (by simp [epochSpellings])
  rw [start, stop]
  exact ⟨told, told⟩

/-- The first second of year zero, set as the end of a range that excludes its bounds. -/
theorem year_zero_spellings_agree :
    Timestamp.ofEpoch? (-62167219200) = some ⟨-62167219200, 0, 0⟩ ∧
      (∀ spelling ∈ epochSpellings (-62167219200) ⟨-62167219200, 0, 0⟩,
        (((unset .date).setInclusive false).setRange ⟨0, 0, 0⟩ (.text "now".toList)
          spelling).stopText = "0000-01-01T00:00:00+0000".toList) ∧
        (((unset .date).setInclusive false).setRange ⟨0, 0, 0⟩ (.text "now".toList)
          (.integer 0)).stopText ≠ "0000-01-01T00:00:00+0000".toList := by
  have resolves : Timestamp.ofEpoch? (-62167219200) = some ⟨-62167219200, 0, 0⟩ := by decide
  have text : Timestamp.text ⟨-62167219200, 0, 0⟩ = "0000-01-01T00:00:00+0000".toList := by
    decide +kernel
  obtain ⟨alike, others⟩ := epoch_spellings_agree ((unset .date).setInclusive false) rfl ⟨0, 0, 0⟩
    (.text "now".toList) (-62167219200) ⟨-62167219200, 0, 0⟩ resolves
  rw [text] at alike others
  exact ⟨resolves, fun spelling member => (alike spelling member).2,
    (others 0 (by decide) (by decide)).2⟩

end Range

end LuceneQuery
