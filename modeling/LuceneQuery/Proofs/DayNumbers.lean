import Mathlib.Data.List.GetD
import LuceneQuery.Calendar.Timestamp

/-!
# Days and their numbers

Numbering the days of the calendar and finding the day of a number are inverse: every number has
one valid date, and every valid date is found again from its number. The year of a day is the one
whose first day is not after it and whose successor's is.
-/

namespace LuceneQuery.Date

set_option autoImplicit false

/-- How many days a list of months has. -/
def daysOf (lengths : List Nat) : Nat := lengths.foldr (fun length later => length + later) 0

theorem days_of_cons (length : Nat) (later : List Nat) :
    daysOf (length :: later) = length + daysOf later := rfl

theorem days_of_year (year : Int) :
    daysOf (monthLengths year) = if isLeap year then 366 else 365 := by
  unfold monthLengths
  split <;> rfl

theorem days_before_succ (year : Int) :
    daysBefore (year + 1) = daysBefore year + (daysOf (monthLengths year) : Int) := by
  simp only [days_of_year, daysBefore, isLeap, Bool.and_eq_true, Bool.or_eq_true, beq_iff_eq,
    bne_iff_ne]
  split <;> omega

theorem days_before_mono (year later : Int) (order : year ≤ later) :
    daysBefore year ≤ daysBefore later := by
  simp only [daysBefore]
  omega

/-- The mean year is so close that one correction finds the year. -/
theorem year_of_bounds (day : Int) :
    daysBefore (yearOf day) ≤ day ∧ day < daysBefore (yearOf day + 1) := by
  simp only [yearOf]
  split
  · simp only [daysBefore] at *
    omega
  · split <;> simp only [daysBefore] at * <;> omega

theorem year_of_eq (day year : Int) (starts : daysBefore year ≤ day)
    (ends : day < daysBefore (year + 1)) : yearOf day = year := by
  obtain ⟨found, next⟩ := year_of_bounds day
  rcases Int.lt_trichotomy (yearOf day) year with before | same | after
  · have order := days_before_mono (yearOf day + 1) year before
    omega
  · exact same
  · have order := days_before_mono (year + 1) (yearOf day) after
    omega

theorem days_of_month_within (lengths : List Nat) (index rest : Nat)
    (inside : rest < lengths.getD index 0) :
    daysOf (lengths.take index) + rest < daysOf lengths := by
  induction lengths generalizing index with
  | nil => simp at inside
  | cons length later induction =>
      cases index with
      | zero =>
          have first : rest < length := inside
          rw [List.take_zero, days_of_cons, daysOf, List.foldr_nil]
          omega
      | succ index =>
          have below := induction index inside
          rw [List.take_succ_cons, days_of_cons, days_of_cons]
          omega

theorem month_and_day_within (lengths : List Nat) (month index rest : Nat)
    (inside : rest < lengths.getD index 0) :
    monthAndDay (daysOf (lengths.take index) + rest) month lengths = (month + index, rest + 1) := by
  induction lengths generalizing month index with
  | nil => simp at inside
  | cons length later induction =>
      cases index with
      | zero =>
          have first : rest < length := inside
          simp [monthAndDay, daysOf, first]
      | succ index =>
          have passed : ¬ length + daysOf (later.take index) + rest < length := by omega
          have left : length + daysOf (later.take index) + rest - length =
              daysOf (later.take index) + rest := by omega
          rw [List.take_succ_cons, days_of_cons, monthAndDay, if_neg passed, left,
            induction (month + 1) index inside, Nat.add_assoc, Nat.add_comm 1]

/-- Every day of a year lies in one of its months. -/
theorem exists_month (lengths : List Nat) (dayOfYear : Nat) (below : dayOfYear < daysOf lengths) :
    ∃ index rest, rest < lengths.getD index 0 ∧ dayOfYear = daysOf (lengths.take index) + rest := by
  induction lengths generalizing dayOfYear with
  | nil => exact absurd below (Nat.not_lt_zero _)
  | cons length later induction =>
      rw [days_of_cons] at below
      by_cases first : dayOfYear < length
      · exact ⟨0, dayOfYear, first, by simp [daysOf]⟩
      · obtain ⟨index, rest, inside, same⟩ := induction (dayOfYear - length) (by omega)
        refine ⟨index + 1, rest, inside, ?_⟩
        rw [List.take_succ_cons, days_of_cons]
        omega

/-- A valid date is a place in one of the months of its year. -/
theorem valid_iff (date : Date) :
    date.isValid = true ↔ ∃ index rest, date.month = index + 1 ∧ date.day = rest + 1 ∧
      rest < (monthLengths date.year).getD index 0 := by
  simp only [isValid, Bool.and_eq_true, decide_eq_true_iff]
  constructor
  · rintro ⟨positive, within⟩
    obtain ⟨rest, day⟩ := Nat.exists_eq_add_of_le' positive
    cases month : date.month with
    | zero =>
        rw [month, monthLength] at within
        omega
    | succ index =>
        rw [month, monthLength] at within
        exact ⟨index, rest, rfl, day, by omega⟩
  · rintro ⟨index, rest, month, day, inside⟩
    rw [month, day, monthLength]
    omega

theorem month_length_le (year : Int) (index : Nat) : (monthLengths year).getD index 0 ≤ 31 := by
  have each : ∀ length ∈ monthLengths year, length ≤ 31 := by
    unfold monthLengths
    split <;> decide
  rw [List.getD_eq_getElem?_getD]
  cases found : (monthLengths year)[index]? with
  | none => exact Nat.zero_le _
  | some length => exact each length (List.mem_of_getElem? found)

theorem valid_small (date : Date) (valid : date.isValid = true) :
    date.month ≤ 12 ∧ date.day ≤ 31 := by
  obtain ⟨index, rest, month, day, inside⟩ := (valid_iff date).mp valid
  have long := month_length_le date.year index
  have listed : index < (monthLengths date.year).length := by
    apply Nat.lt_of_not_le
    intro beyond
    rw [List.getD_eq_default _ _ beyond] at inside
    omega
  have twelve : (monthLengths date.year).length = 12 := rfl
  omega

theorem to_day_number_eq (date : Date) (index rest : Nat) (month : date.month = index + 1)
    (day : date.day = rest + 1) :
    date.toDayNumber + epochDay = daysBefore date.year +
      ((daysOf ((monthLengths date.year).take index) + rest : Nat) : Int) := by
  rw [toDayNumber, daysBeforeMonth, month, day, Nat.add_sub_cancel, ← daysOf]
  omega

theorem of_day_number_to_day_number (date : Date) (valid : date.isValid = true) :
    ofDayNumber date.toDayNumber = date := by
  obtain ⟨index, rest, month, day, inside⟩ := (valid_iff date).mp valid
  have number := to_day_number_eq date index rest month day
  have below := days_of_month_within (monthLengths date.year) index rest inside
  have next := days_before_succ date.year
  have year : yearOf (date.toDayNumber + epochDay) = date.year :=
    year_of_eq _ _ (by omega) (by omega)
  have left : (date.toDayNumber + epochDay - daysBefore date.year).toNat =
      daysOf ((monthLengths date.year).take index) + rest := by
    rw [number]
    omega
  simp only [ofDayNumber, year, left, month_and_day_within _ 1 index rest inside]
  rw [Nat.add_comm 1, ← month, ← day]

/-- The day of a number is a valid date, and the number is its own. -/
theorem of_day_number_spec (number : Int) :
    (ofDayNumber number).isValid = true ∧ (ofDayNumber number).toDayNumber = number := by
  obtain ⟨starts, ends⟩ := year_of_bounds (number + epochDay)
  rw [days_before_succ] at ends
  obtain ⟨index, rest, inside, same⟩ := exists_month (monthLengths (yearOf (number + epochDay)))
    (number + epochDay - daysBefore (yearOf (number + epochDay))).toNat
    (by omega)
  have found : ofDayNumber number = ⟨yearOf (number + epochDay), 1 + index, rest + 1⟩ := by
    simp only [ofDayNumber, same, month_and_day_within _ 1 index rest inside]
  have valid := (valid_iff (ofDayNumber number)).mpr
    ⟨index, rest, by rw [found, Nat.add_comm], by rw [found], by rw [found]; exact inside⟩
  refine ⟨valid, ?_⟩
  have own := to_day_number_eq (ofDayNumber number) index rest (by rw [found, Nat.add_comm])
    (by rw [found])
  have year : (ofDayNumber number).year = yearOf (number + epochDay) := rfl
  rw [year] at own
  omega

/-- The first day of a year is not after any other. -/
theorem year_bounds (number : Int) :
    daysBefore (ofDayNumber number).year ≤ number + epochDay ∧
      number + epochDay < daysBefore ((ofDayNumber number).year + 1) :=
  year_of_bounds (number + epochDay)

end LuceneQuery.Date
