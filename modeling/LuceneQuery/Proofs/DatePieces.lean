import Mathlib.Data.List.Basic
import Mathlib.Data.List.Induction
import LuceneQuery.Calendar.Reading
import LuceneQuery.Proofs.BoundText

/-!
# Pieces of a written date

Numbers at their full width, years with and without a sign, and offsets in whole minutes are read
back from the text that they are written as, whatever follows them. Where a digit or a sign stands
no name is read, and where anything else stands no number is.
-/

namespace LuceneQuery

set_option autoImplicit false

namespace Scan

/-- What is read after a piece that was found. -/
theorem bind_read {Piece Result : Type} {piece : Option Piece} {value : Piece}
    (found : piece = some value) (later : Piece → Option Result) :
    (piece >>= later) = later value := by
  rw [found]
  rfl

theorem char_read (c : Char) (rest : Text) : char c (c :: rest) = some rest := if_pos rfl

/-- The piece that the text goes on with is no digit. -/
def Stops (rest : Text) : Prop := ∀ c ∈ rest.head?, c.isDigit = false

theorem stops_cons (c : Char) (rest : Text) (other : c.isDigit = false) : Stops (c :: rest) := by
  simpa [Stops] using other

theorem number_append (least most : Nat) (spelled rest : Text)
    (digits : ∀ c ∈ spelled, c.isDigit = true) (enough : least ≤ spelled.length)
    (room : spelled.length ≤ most) (ends : spelled.length = most ∨ Stops rest)
    (word : Word.isSigned (numberOf spelled) = true) :
    number least most (spelled ++ rest) = some (numberOf spelled, rest) := by
  have none : (rest.take (most - spelled.length)).takeWhile Char.isDigit = [] := by
    rcases ends with full | stops
    · simp [full]
    · cases rest with
      | nil => simp
      | cons c later =>
          have other : c.isDigit = false := stops c rfl
          cases most - spelled.length <;> simp [other]
  have taken : ((spelled ++ rest).take most).takeWhile Char.isDigit = spelled := by
    rw [List.take_append, List.take_of_length_le room, List.takeWhile_append_of_pos digits, none,
      List.append_nil]
  have long : ¬ spelled.length < least := Nat.not_lt.mpr enough
  simp [number, taken, long, word]

theorem number_of_digits (value : Nat) : numberOf (Decimal.digits value) = value :=
  Nat.ofDigitChars_toDigits (by decide) (by decide)

theorem number_of_zeros (count : Nat) (spelled : Text) :
    numberOf (List.replicate count '0' ++ spelled) = numberOf spelled := by
  induction count with
  | zero => rfl
  | succ count induction => exact induction

/-- Anything else than a digit in front is no number. -/
theorem number_eq_none (least most : Nat) (c : Char) (rest : Text) (other : c.isDigit = false)
    (positive : 0 < least) : number least most (c :: rest) = none := by
  cases most <;> simp [number, other, positive]

theorem number_of_lt (spelled : Text) (digits : ∀ c ∈ spelled, c.isDigit = true) :
    numberOf spelled < Nat.pow 10 spelled.length := by
  induction spelled using List.reverseRecOn with
  | nil => exact Nat.one_pos
  | append_singleton front last induction =>
      have below := induction fun c member => digits c (by simp [member])
      have digit := Char.isDigit_iff_toNat.mp (digits last (by simp))
      have small : digitValue last ≤ 9 := Nat.sub_le_sub_right digit.2 48
      have step : numberOf (front ++ [last]) = 10 * numberOf front + digitValue last := by
        simp [numberOf]
      have power : Nat.pow 10 (front ++ [last]).length = Nat.pow 10 front.length * 10 := by
        rw [List.length_append]
        rfl
      omega

theorem digit_ne (c other : Char) (digit : c.isDigit = true) (none : other.isDigit = false) :
    c ≠ other := by
  rintro rfl
  exact absurd digit (by simp [none])

theorem digit_not_alpha (c : Char) (digit : c.isDigit = true) : c.isAlpha = false := by
  cases letter : c.isAlpha with
  | false => rfl
  | true =>
      have range := Char.isDigit_iff_toNat.mp digit
      rcases Bool.or_eq_true_iff.mp letter with upper | lower
      · have inside : 65 ≤ c.toNat ∧ c.toNat ≤ 90 := of_decide_eq_true upper
        have least : c.toNat ≤ 57 := range.2
        omega
      · have inside : 97 ≤ c.toNat ∧ c.toNat ≤ 122 :=
          (Bool.and_eq_true_iff.mp lower).imp of_decide_eq_true of_decide_eq_true
        have least : c.toNat ≤ 57 := range.2
        omega

theorem folded_of_other (c : Char) (other : c.isAlpha = false) : c.toLower = c := by
  have upper := (Bool.or_eq_false_iff.mp other).1
  exact dif_neg (of_decide_eq_false upper)

theorem name_from_eq_none (names : List Text) (c : Char) (rest : Text)
    (letters : ∀ name ∈ names, name.head?.any Char.isLower = true) (other : c.isAlpha = false) :
    nameFrom names (c :: rest) = none := by
  have lower := (Bool.or_eq_false_iff.mp other).2
  induction names with
  | nil => rfl
  | cons name later induction =>
      obtain ⟨here, there⟩ := List.forall_mem_cons.mp letters
      cases name with
      | nil => cases here
      | cons first ending =>
          have letter : first.isLower = true := here
          have differs : c ≠ first := by
            rintro rfl
            exact absurd letter (by simp [lower])
          simp [nameFrom, Text.lowerAscii, folded_of_other c other, differs, induction there]

end Scan

namespace Timestamp

open Scan

theorem padded_digits (width value : Nat) : ∀ c ∈ padded width value, c.isDigit = true := by
  intro c member
  rcases List.mem_append.mp member with zero | digit
  · exact Decimal.replicate_zero_digits _ c zero
  · exact (Decimal.digits_is_digits value).2 c digit

theorem padded_opens (width value : Nat) :
    ∃ c rest, padded width value = c :: rest ∧ c.isDigit = true := by
  obtain ⟨c, rest, spelled⟩ := List.exists_cons_of_ne_nil (padded_plain width value).1
  exact ⟨c, rest, spelled, padded_digits width value c (by simp [spelled])⟩

theorem number_of_padded (width value : Nat) : numberOf (padded width value) = value := by
  rw [padded, number_of_zeros, number_of_digits]

theorem padded_length (width value : Nat) (positive : 0 < width)
    (fits : value < Nat.pow 10 width) : (padded width value).length = width := by
  have short := (Nat.length_toDigits_le_iff (b := 10) (by decide) positive).mpr fits
  simp only [padded, Decimal.digits, List.length_append, List.length_replicate]
  omega

theorem width_le_padded (width value : Nat) : width ≤ (padded width value).length := by
  simp only [padded, List.length_append, List.length_replicate]
  omega

theorem word_of_small (value : Nat) (small : value < 1000000) :
    Word.isSigned (value : Int) = true := by
  rw [Word.isSigned, Bool.and_eq_true, decide_eq_true_iff, decide_eq_true_iff, Word.least,
    Word.greatest]
  omega

/-- A number at its full width is read back. -/
theorem number_padded (least width value : Nat) (rest : Text) (enough : least ≤ width)
    (positive : 0 < width) (fits : value < Nat.pow 10 width) (small : value < 1000000) :
    number least width (padded width value ++ rest) = some (value, rest) := by
  have length := padded_length width value positive fits
  have read := number_append least width (padded width value) rest (padded_digits width value)
    (by omega) (by omega) (Or.inl length)
    (by rw [number_of_padded]; exact word_of_small value small)
  rwa [number_of_padded] at read

theorem starts_blank_plain (text rest : Text) (plain : PlainBound text) :
    Text.startsBlank (text ++ rest) = false := by
  obtain ⟨c, later, rfl⟩ := List.exists_cons_of_ne_nil plain.1
  simpa [Text.startsBlank] using bound_char_not_blank c (plain.2 c (by simp))

theorem trim_start_plain (text rest : Text) (plain : PlainBound text) :
    Text.trimStart (text ++ rest) = text ++ rest :=
  Text.trim_start_of_starts _ (starts_blank_plain text rest plain)

theorem trim_plain (text : Text) (plain : PlainBound text) : Text.trim text = text := by
  have starts := starts_blank_plain text [] plain
  rw [List.append_nil] at starts
  have ends := Text.ends_blank_of_all_solid text fun c member =>
    bound_char_not_blank c (plain.2 c member)
  exact Text.trim_of_ends text starts ends

/-- With nothing to limit its digits a number is read up to the next piece. -/
theorem number_padded_signed (width value : Nat) (rest : Text) (positive : 0 < width)
    (small : value < 1000000) (stops : Stops rest) :
    number 1 (padded width value ++ rest).length (padded width value ++ rest) =
      some (value, rest) := by
  have long := width_le_padded width value
  have read := number_append 1 (padded width value ++ rest).length (padded width value) rest
    (padded_digits width value) (by omega) (by simp) (Or.inr stops)
    (by rw [number_of_padded]; exact word_of_small value small)
  rwa [number_of_padded] at read

theorem padded_unsigned (width value : Nat) (rest later : Text) (sign : Char)
    (other : sign.isDigit = false) : padded width value ++ rest ≠ sign :: later := by
  obtain ⟨c, digits, spelled, digit⟩ := padded_opens width value
  rw [spelled, List.cons_append]
  exact fun begins => digit_ne c sign digit other (List.cons.inj begins).1

/-- A year is written with a sign, or as four digits. -/
theorem year_text_cases (year : Int) :
    (year < 0 ∧ yearText year = '-' :: padded 4 year.natAbs) ∨
      (9999 < year ∧ yearText year = '+' :: padded 4 year.natAbs) ∨
        (year.natAbs < 10000 ∧ 0 ≤ year ∧ yearText year = padded 4 year.natAbs) := by
  unfold yearText
  by_cases negative : year < 0
  · exact Or.inl ⟨negative, if_pos negative⟩
  · rw [if_neg negative]
    by_cases long : 9999 < year
    · exact Or.inr (Or.inl ⟨long, if_pos long⟩)
    · exact Or.inr (Or.inr ⟨by omega, by omega, if_neg long⟩)

theorem read_year (year : Int) (rest : Text) (small : year.natAbs < 1000000)
    (stops : Stops rest) : DateItem.readYear (yearText year ++ rest) = some (year, rest) := by
  rcases year_text_cases year with ⟨negative, same⟩ | ⟨long, same⟩ | ⟨short, positive, same⟩
  · have read := number_padded_signed 4 year.natAbs rest (by decide) small stops
    have magnitude : -(year.natAbs : Int) = year := by omega
    rw [same, List.cons_append, DateItem.readYear, read]
    exact congrArg (fun value : Int => some (value, rest)) magnitude
  · have read := number_padded_signed 4 year.natAbs rest (by decide) small stops
    have magnitude : (year.natAbs : Int) = year := by omega
    rw [same, List.cons_append, DateItem.readYear, read]
    exact congrArg (fun value : Int => some (value, rest)) magnitude
  · have read := number_padded 1 4 year.natAbs rest (by decide) (by decide) short small
    have magnitude : (year.natAbs : Int) = year := by omega
    rw [same]
    unfold DateItem.readYear
    split
    · next later begins => exact absurd begins (padded_unsigned 4 _ rest later '-' (by decide))
    · next later begins => exact absurd begins (padded_unsigned 4 _ rest later '+' (by decide))
    · rw [read]
      exact congrArg (fun value : Int => some (value, rest)) magnitude

/-- The two digits of every other field. -/
theorem read_two (least value : Nat) (rest : Text) (few : least ≤ 2) (small : value < 100) :
    number least 2 (padded 2 value ++ rest) = some (value, rest) :=
  number_padded least 2 value rest few (by decide) small (by omega)

theorem offset_text_opens (offset : Int) :
    ∃ sign rest, offsetText offset = sign :: rest ∧ (sign = '-' ∨ sign = '+') := by
  unfold offsetText
  split
  · exact ⟨'-', _, rfl, Or.inl rfl⟩
  · exact ⟨'+', _, rfl, Or.inr rfl⟩

theorem gap_skips_nothing (minutes : Nat) (later : Text) :
    (padded 2 minutes ++ later).dropWhile DateItem.colonOrBlank = padded 2 minutes ++ later := by
  obtain ⟨c, digits, spelled, digit⟩ := padded_opens 2 minutes
  have solid := bound_char_not_blank c (bound_char_of_digit c digit)
  have colon := digit_ne c ':' digit (by decide)
  simp [spelled, DateItem.colonOrBlank, solid, colon]

/-- An offset is shown in whole minutes. -/
def shownOffset (offset : Int) : Int :=
  let minutes : Int := ((offset.natAbs + 30) / 60 : Nat)
  if offset < 0 then -(minutes * 60) else minutes * 60

theorem offset_sign_read (offset : Int) (rest : Text) :
    offsetSign true (offsetText offset ++ rest) = some (decide (offset < 0),
      padded 2 ((offset.natAbs + 30) / 60 / 60) ++
        (padded 2 ((offset.natAbs + 30) / 60 % 60) ++ rest)) := by
  unfold offsetText
  split
  · next negative => simp [offsetSign, negative]
  · next positive => simp [offsetSign, positive]

theorem offset_hours_read (offset : Int) (rest : Text) (day : offset.natAbs < 86400) :
    number 2 2 (padded 2 ((offset.natAbs + 30) / 60 / 60) ++ rest) =
      some ((offset.natAbs + 30) / 60 / 60, rest) :=
  read_two 2 _ rest (by decide) (by omega)

theorem read_offset (gap : Text → Option Text) (offset : Int) (rest : Text)
    (day : offset.natAbs < 86400) (skips : ∀ minutes later,
      gap (padded 2 minutes ++ later) = some (padded 2 minutes ++ later)) :
    Scan.offset gap true (offsetText offset ++ rest) = some (shownOffset offset, rest) := by
  let minutes := (offset.natAbs + 30) / 60
  have left := read_two 2 (minutes % 60) rest (by decide) (by omega)
  have below : ¬ 59 < minutes % 60 := by omega
  have whole : ((minutes / 60 : Nat) : Int) * 3600 + (minutes % 60 : Nat) * 60 = minutes * 60 := by
    omega
  simp only [Scan.offset, offset_sign_read, offset_hours_read offset _ day, skips, left, bind,
    Option.bind_some, minutes, below, if_false, whole]
  by_cases negative : offset < 0
  · simp [shownOffset, negative]
  · simp [shownOffset, negative]

/-- Where a colon has to stand between hours and minutes there is none. -/
theorem internet_offset_refuses (offset : Int) (day : offset.natAbs < 86400) :
    InternetDate.offset (offsetText offset) = none := by
  have sign := offset_sign_read offset []
  have hours := offset_hours_read offset (padded 2 ((offset.natAbs + 30) / 60 % 60)) day
  obtain ⟨c, digits, spelled, digit⟩ := padded_opens 2 ((offset.natAbs + 30) / 60 % 60)
  have colon := digit_ne c ':' digit (by decide)
  have missing : Scan.char ':' (padded 2 ((offset.natAbs + 30) / 60 % 60)) = none := by
    simp [Scan.char, spelled, colon]
  obtain ⟨mark, rest, opens, signs⟩ := offset_text_opens offset
  have numeric : InternetDate.offset (offsetText offset) =
      Scan.offset (Scan.char ':') true (offsetText offset) := by
    rw [opens]
    rcases signs with rfl | rfl <;> rfl
  simp only [List.append_nil] at sign
  simp [numeric, Scan.offset, sign, hours, missing]

theorem fraction_skips_offset (fields : DateFields) (offset : Int) :
    DateItem.fraction.read fields (offsetText offset) = some (fields, offsetText offset) := by
  obtain ⟨sign, rest, opens, signs⟩ := offset_text_opens offset
  rw [opens]
  rcases signs with rfl | rfl <;> rfl

end Timestamp

end LuceneQuery
