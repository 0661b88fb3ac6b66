import LuceneQuery.Proofs.DateText
import LuceneQuery.Range

/-!
# The instant of a written timestamp

The clock of a timestamp is written to the second and its offset to the minute. What the text names
is the instant of the timestamp just when the offset was rounded by as much as the shown second
runs ahead, and a leap second runs ahead only where it is not the last of its minute.
-/

namespace LuceneQuery

set_option autoImplicit false

namespace DateFields

theorem timestamp_eq_some_iff (fields : DateFields) (found : Timestamp) :
    fields.timestamp? = some found ↔
      fields.dateIsValid = true ∧ fields.clockIsValid = true ∧ fields.offsetIsValid = true ∧
        Timestamp.inRange (fields.localSecond - fields.offset) = true ∧
          found = ⟨fields.localSecond - fields.offset,
            fields.nanosecond + (if fields.second = 60 then 1000000000 else 0), fields.offset⟩ := by
  simp only [timestamp?, Bool.and_eq_true]
  split
  · next valid =>
      obtain ⟨⟨⟨date, clock⟩, offset⟩, range⟩ := valid
      simp only [date, clock, offset, range, true_and, Option.some.injEq]
      exact eq_comm
  · next invalid =>
      simp only [reduceCtorEq, false_iff]
      rintro ⟨date, clock, offset, range, _⟩
      exact invalid ⟨⟨⟨date, clock⟩, offset⟩, range⟩

end DateFields

namespace Timestamp

/-- What holds of every timestamp there is: its date is in range, it is at most one leap second
into the next, and its offset is less than a day. -/
structure OnCalendar (timestamp : Timestamp) : Prop where
  year : leastYear ≤ timestamp.spelled.year ∧ timestamp.spelled.year ≤ greatestYear
  leap : timestamp.nanosecond < 2000000000
  offset : -86400 < timestamp.offset ∧ timestamp.offset < 86400

/-- How far the second that is shown runs ahead: a leap second inside a minute is shown as the
second after it. -/
def secondsAhead (timestamp : Timestamp) : Int :=
  if 1000000000 ≤ timestamp.nanosecond ∧ timestamp.localSecond % 60 ≠ 59 then 1 else 0

variable (timestamp : Timestamp)

theorem spelled_fits (calendar : timestamp.OnCalendar) : timestamp.spelled.Fits := by
  obtain ⟨valid, _⟩ := Date.of_day_number_spec (timestamp.localSecond / 86400)
  obtain ⟨monthSmall, daySmall⟩ := Date.valid_small _ valid
  obtain ⟨least, greatest⟩ := calendar.year
  have leap := calendar.leap
  simp only [leastYear, greatestYear] at least greatest
  constructor
  · omega
  · exact Nat.lt_of_le_of_lt monthSmall (by decide)
  · exact Nat.lt_of_le_of_lt daySmall (by decide)
  · simp only [spelled]
    omega
  · simp only [spelled]
    omega
  · simp only [spelled]
    omega

theorem spelled_date_valid (calendar : timestamp.OnCalendar) :
    timestamp.spelled.dateIsValid = true := by
  have valid := (Date.of_day_number_spec (timestamp.localSecond / 86400)).1
  obtain ⟨least, greatest⟩ := calendar.year
  simp only [DateFields.dateIsValid, Bool.and_eq_true, decide_eq_true_iff]
  exact ⟨⟨⟨least, greatest⟩, valid⟩, rfl⟩

theorem spelled_clock_valid (leap : timestamp.nanosecond < 2000000000) :
    timestamp.spelled.clockIsValid = true := by
  simp only [DateFields.clockIsValid, Bool.and_eq_true, decide_eq_true_iff]
  simp only [spelled]
  omega

theorem spelled_local_second (leap : timestamp.nanosecond < 2000000000) :
    timestamp.spelled.localSecond = timestamp.localSecond + timestamp.secondsAhead := by
  have number := (Date.of_day_number_spec (timestamp.localSecond / 86400)).2
  have date : timestamp.spelled.date.toDayNumber = timestamp.localSecond / 86400 := number
  rw [DateFields.localSecond, date]
  simp only [spelled, secondsAhead]
  split <;> omega

theorem shown_offset_eq_iff (offset ahead : Int) (few : ahead = 0 ∨ ahead = 1) :
    shownOffset offset = offset + ahead ↔ 60 ∣ offset + ahead := by
  simp only [shownOffset]
  split <;> omega

theorem least_second_eq : leastSecond = -8334601228800 := by decide

theorem greatest_second_eq : greatestSecond = 8210266876799 := by decide

theorem year_of_in_range (second : Int) (range : inRange second = true) :
    leastYear ≤ (Date.ofDayNumber (second / 86400)).year ∧
      (Date.ofDayNumber (second / 86400)).year ≤ greatestYear := by
  simp only [inRange, Bool.and_eq_true, decide_eq_true_iff] at range
  rw [least_second_eq, greatest_second_eq] at range
  obtain ⟨starts, ends⟩ := Date.year_bounds (second / 86400)
  have before : Date.daysBefore leastYear = -95746130 := by decide
  have after : Date.daysBefore (greatestYear + 1) = 95745399 := by decide
  rw [Date.epochDay] at starts ends
  constructor
  · apply Int.not_lt.mp
    intro early
    have order := Date.days_before_mono _ leastYear early
    omega
  · apply Int.not_lt.mp
    intro late
    have order := Date.days_before_mono (greatestYear + 1) _ late
    omega

/-- Nothing close to the days of a year of four digits is out of range. -/
theorem in_range_of_year (number : Int) (positive : 0 ≤ (Date.ofDayNumber number).year)
    (short : (Date.ofDayNumber number).year ≤ 9999) (second : Int)
    (near : (number - 2) * 86400 ≤ second ∧ second ≤ (number + 2) * 86400) :
    inRange second = true := by
  obtain ⟨starts, ends⟩ := Date.year_bounds number
  have first := Date.days_before_mono _ _ positive
  have last := Date.days_before_mono _ 10000 (Int.add_le_add_right short 1)
  have zero : Date.daysBefore 0 = -366 := by decide
  have tenThousand : Date.daysBefore 10000 = 3652059 := by decide
  rw [Date.epochDay] at starts ends
  simp only [inRange, Bool.and_eq_true, decide_eq_true_iff]
  rw [least_second_eq, greatest_second_eq]
  omega

theorem spelled_timestamp_eq_some_iff (calendar : timestamp.OnCalendar) (found : Timestamp) :
    timestamp.spelled.timestamp? = some found ↔
      (-86400 < shownOffset timestamp.offset ∧ shownOffset timestamp.offset < 86400) ∧
        inRange (timestamp.localSecond + timestamp.secondsAhead - shownOffset timestamp.offset) =
          true ∧
          found = ⟨timestamp.localSecond + timestamp.secondsAhead - shownOffset timestamp.offset,
            if timestamp.spelled.second = 60 then 1000000000 else 0,
            shownOffset timestamp.offset⟩ := by
  have fraction : timestamp.spelled.nanosecond = 0 := rfl
  have offset : timestamp.spelled.offset = shownOffset timestamp.offset := rfl
  rw [DateFields.timestamp_eq_some_iff, timestamp.spelled_local_second calendar.leap, fraction,
    offset, Nat.zero_add]
  simp only [timestamp.spelled_date_valid calendar, timestamp.spelled_clock_valid calendar.leap,
    DateFields.offsetIsValid, offset, true_and, Bool.and_eq_true, decide_eq_true_iff]

/-- A timestamp whose text says all of it but the fraction of a second: its offset is in whole
minutes, and a leap second is the last of its minute. -/
structure Expressible : Prop extends timestamp.OnCalendar where
  minutes : 60 ∣ timestamp.offset
  range : inRange timestamp.second = true
  ends : 1000000000 ≤ timestamp.nanosecond → timestamp.localSecond % 60 = 59

/-- The fraction of a second is dropped; a leap second stays one. -/
def wholeSecond : Timestamp :=
  { timestamp with nanosecond := timestamp.nanosecond / 1000000000 * 1000000000 }

theorem text_whole_second : timestamp.wholeSecond.text = timestamp.text := by
  have shown : timestamp.nanosecond / 1000000000 * 1000000000 / 1000000000 =
      timestamp.nanosecond / 1000000000 := Nat.mul_div_cancel _ (by decide)
  simp only [text, wholeSecond, localSecond, clockText, shown]

theorem read_text_of_expressible (expressible : timestamp.Expressible) :
    Timestamp.read timestamp.text = some timestamp.wholeSecond := by
  have calendar := expressible.toOnCalendar
  obtain ⟨least, greatest⟩ := calendar.offset
  have ends := expressible.ends
  have leap := calendar.leap
  have ahead : timestamp.secondsAhead = 0 := by
    unfold secondsAhead
    split
    · next inside => exact absurd (ends inside.1) inside.2
    · rfl
  have shown : shownOffset timestamp.offset = timestamp.offset := by
    have rounded := (shown_offset_eq_iff timestamp.offset 0 (Or.inl rfl)).mpr
    rw [Int.add_zero] at rounded
    exact rounded expressible.minutes
  have same : timestamp.localSecond + timestamp.secondsAhead - shownOffset timestamp.offset =
      timestamp.second := by
    rw [ahead, shown, localSecond]
    omega
  have second : timestamp.spelled.second =
      (timestamp.localSecond % 86400).toNat % 60 + timestamp.nanosecond / 1000000000 := rfl
  have sixty : timestamp.nanosecond / 1000000000 * 1000000000 =
      if timestamp.spelled.second = 60 then 1000000000 else 0 := by
    split <;> omega
  rw [timestamp.read_text (timestamp.spelled_fits calendar) (by omega),
    timestamp.spelled_timestamp_eq_some_iff calendar, same, shown, wholeSecond, sixty]
  exact ⟨⟨least, greatest⟩, expressible.range, rfl⟩

/-- The text of a timestamp names its own second just when rounding moves the offset by as much as
the shown second runs ahead. An offset that rounds to a whole day cannot be read. -/
theorem instant_kept_iff (format : BoundFormat) (calendar : timestamp.OnCalendar)
    (years : 0 ≤ timestamp.spelled.year ∧ timestamp.spelled.year ≤ 9999) :
    (∃ found, Timestamp.read (format.render (.timestamp timestamp)) = some found ∧
        found.second = timestamp.second) ↔
      60 ∣ timestamp.offset + timestamp.secondsAhead ∧
        timestamp.offset + timestamp.secondsAhead < 86400 := by
  have text : format.render (.timestamp timestamp) = timestamp.text := by cases format <;> rfl
  obtain ⟨least, greatest⟩ := calendar.offset
  have few : timestamp.secondsAhead = 0 ∨ timestamp.secondsAhead = 1 := by
    unfold secondsAhead
    split
    · exact Or.inr rfl
    · exact Or.inl rfl
  have rounded := shown_offset_eq_iff timestamp.offset timestamp.secondsAhead few
  rw [text, timestamp.read_text (timestamp.spelled_fits calendar) (by omega)]
  simp only [timestamp.spelled_timestamp_eq_some_iff calendar]
  constructor
  · rintro ⟨found, ⟨below, _, rfl⟩, same⟩
    simp only [localSecond] at same
    have shown : shownOffset timestamp.offset = timestamp.offset + timestamp.secondsAhead := by
      omega
    exact ⟨rounded.mp shown, shown ▸ below.2⟩
  · rintro ⟨whole, below⟩
    have shown := rounded.mpr whole
    have same : timestamp.localSecond + timestamp.secondsAhead - shownOffset timestamp.offset =
        timestamp.second := by
      rw [shown, localSecond]
      omega
    have range : inRange timestamp.second = true := by
      apply in_range_of_year (timestamp.localSecond / 86400) years.1 years.2
      rw [localSecond]
      omega
    rw [same]
    exact ⟨_, ⟨by omega, range, rfl⟩, rfl⟩

/-- The leap second before 2017, half a second into it, as it is shown in India. -/
def newYearLeapSecond : Timestamp := ⟨1483228799, 1500000000, 19800⟩

theorem new_year_leap_second_kept :
    newYearLeapSecond.OnCalendar ∧
      (0 ≤ newYearLeapSecond.spelled.year ∧ newYearLeapSecond.spelled.year ≤ 9999) ∧
        ∃ found, Timestamp.read (BoundFormat.date.render (.timestamp newYearLeapSecond)) =
          some found ∧ found.second = 1483228799 := by
  have calendar : newYearLeapSecond.OnCalendar := ⟨by decide, by decide, by decide⟩
  have years : 0 ≤ newYearLeapSecond.spelled.year ∧ newYearLeapSecond.spelled.year ≤ 9999 := by
    decide
  exact ⟨calendar, years,
    (instant_kept_iff newYearLeapSecond .date calendar years).mpr (by decide)⟩

/-- Half a minute of an offset is shown as a whole one, and the text names an instant half a minute
before the one it was written for. A second less than a day is shown as a day and cannot be read. -/
theorem half_minute_moves_instant :
    (Timestamp.mk 0 0 30).OnCalendar ∧ (Timestamp.mk 0 0 30).spelled.year = 1970 ∧
      Timestamp.read (BoundFormat.date.render (.timestamp ⟨0, 0, 30⟩)) = some ⟨-30, 0, 60⟩ ∧
        Timestamp.read (BoundFormat.date.render (.timestamp ⟨0, 0, 86399⟩)) = none :=
  ⟨⟨by decide, by decide, by decide⟩, by decide, by decide +kernel, by decide +kernel⟩

end Timestamp

end LuceneQuery
