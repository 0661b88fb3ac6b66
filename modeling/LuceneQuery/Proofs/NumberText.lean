import LuceneQuery.Proofs.Trim

/-!
# The texts of numbers

A number is written as digits with an optional fraction. A weight is written so as well, with
one exception: negative zero is accepted as a weight and keeps its sign.
-/

namespace LuceneQuery

set_option autoImplicit false

def IsDigits (text : Text) : Prop := text ≠ [] ∧ ∀ c ∈ text, c.isDigit = true

def IsNumber (text : Text) : Prop :=
  IsDigits text ∨
    ∃ whole fraction, IsDigits whole ∧ IsDigits fraction ∧ text = whole ++ '.' :: fraction

/-- The characters of the text of a weight. -/
def isNumeric (c : Char) : Bool := c.isDigit || c == '.' || c == '-'

def NumericText (text : Text) : Prop := ∀ c ∈ text, isNumeric c = true

/-- A number, or the zero that keeps its sign. -/
def WeightText (text : Text) : Prop := IsNumber text ∨ text = ['-', '0']

theorem number_is_numeric (text : Text) (number : IsNumber text) : NumericText text := by
  intro c member
  rcases number with ⟨_, digits⟩ | ⟨whole, fraction, ⟨_, wholeDigits⟩, ⟨_, fractionDigits⟩, rfl⟩
  · simp [isNumeric, digits c member]
  · simp only [List.mem_append, List.mem_cons] at member
    rcases member with left | point | right
    · simp [isNumeric, wholeDigits c left]
    · simp [isNumeric, point]
    · simp [isNumeric, fractionDigits c right]

theorem weight_text_numeric (text : Text) (weight : WeightText text) : NumericText text := by
  rcases weight with number | rfl
  · exact number_is_numeric text number
  · simp [NumericText, isNumeric]

/-- No text that starts with a sign is a number. -/
theorem signed_not_number (text : Text) : ¬ IsNumber ('-' :: text) := by
  rintro (⟨_, digits⟩ | ⟨whole, fraction, ⟨filled, wholeDigits⟩, _, same⟩)
  · exact absurd (digits '-' (by simp)) (by decide)
  · cases whole with
    | nil => exact filled rfl
    | cons c rest =>
        simp only [List.cons_append, List.cons.injEq] at same
        have first := wholeDigits c (by simp)
        rw [← same.1] at first
        exact absurd first (by decide)

namespace Decimal

theorem digits_is_digits (value : Nat) : IsDigits (digits value) :=
  ⟨Nat.toDigits_ne_nil, fun _ member => Nat.isDigit_of_mem_toDigits (by decide) (by decide) member⟩

theorem replicate_zero_digits (count : Nat) :
    ∀ c ∈ List.replicate count '0', c.isDigit = true := by
  intro c member
  rw [List.eq_of_mem_replicate member]
  decide

theorem is_digits_append (first second : Text) (filled : IsDigits first)
    (digits : ∀ c ∈ second, c.isDigit = true) : IsDigits (first ++ second) := by
  refine ⟨by simp [filled.1], ?_⟩
  intro c member
  rcases List.mem_append.mp member with left | right
  · exact filled.2 c left
  · exact digits c right

theorem mem_drop_trailing_zeros (fraction : Text) (c : Char)
    (member : c ∈ dropTrailingZeros fraction) : c ∈ fraction := by
  simp only [dropTrailingZeros, List.mem_reverse] at member
  exact List.mem_reverse.mp (List.dropWhile_subset _ member)

/-- Padding leaves at least one digit before the point. -/
theorem pointed_is_number (places : Nat) (spelled : Text)
    (digits : ∀ c ∈ spelled, c.isDigit = true) : IsNumber (pointed places spelled) := by
  let padded := List.replicate (places + 1 - spelled.length) '0' ++ spelled
  have paddedDigits : ∀ c ∈ padded, c.isDigit = true := by
    intro c member
    rcases List.mem_append.mp member with left | right
    · exact replicate_zero_digits _ c left
    · exact digits c right
  have length : places < padded.length := by
    simp only [padded, List.length_append, List.length_replicate]
    omega
  have whole : IsDigits (padded.take (padded.length - places)) := by
    constructor
    · intro empty
      have size := congrArg List.length empty
      simp only [List.length_take, List.length_nil] at size
      omega
    · intro c member
      exact paddedDigits c (List.mem_of_mem_take member)
  unfold pointed
  dsimp only
  split
  · exact Or.inl whole
  · next filled =>
      refine Or.inr ⟨_, _, whole, ⟨filled, ?_⟩, rfl⟩
      intro c member
      exact paddedDigits c (List.mem_of_mem_drop (mem_drop_trailing_zeros _ c member))

theorem plain_is_number (decimal : Decimal) : IsNumber decimal.plain := by
  unfold plain
  split
  · exact Or.inl (is_digits_append _ _ (digits_is_digits _) (replicate_zero_digits _))
  · exact pointed_is_number _ _ (digits_is_digits _).2

open Float.Model

theorem unpacked_text_of_lt (unpacked : UnpackedFloat)
    (above : UnpackedFloat.lt (.zero .positive) unpacked = true)
    (finite : unpacked.isFinite = true) : IsNumber (unpackedText unpacked) := by
  cases unpacked with
  | infinity sign => exact absurd finite Bool.false_ne_true
  | notANumber => exact absurd finite Bool.false_ne_true
  | zero sign => exact absurd above Bool.false_ne_true
  | finite sign mantissa exponent positive =>
      cases sign with
      | positive => exact plain_is_number (Interval.ofBinary mantissa exponent).shortest
      | negative => exact absurd above Bool.false_ne_true

theorem unpacked_text_number (unpacked : UnpackedFloat)
    (notBelow : UnpackedFloat.lt unpacked (.zero .positive) = false)
    (finite : unpacked.isFinite = true) (unsigned : unpacked ≠ .zero .negative) :
    IsNumber (unpackedText unpacked) := by
  cases unpacked with
  | infinity sign => exact absurd finite Bool.false_ne_true
  | notANumber => exact absurd finite Bool.false_ne_true
  | zero sign =>
      cases sign with
      | positive => exact Or.inl (digits_is_digits 0)
      | negative => exact absurd rfl unsigned
  | finite sign mantissa exponent positive =>
      cases sign with
      | positive => exact plain_is_number (Interval.ofBinary mantissa exponent).shortest
      | negative => exact absurd notBelow.symm Bool.false_ne_true

theorem unpacked_text_of_not_lt (unpacked : UnpackedFloat)
    (notBelow : UnpackedFloat.lt unpacked (.zero .positive) = false)
    (finite : unpacked.isFinite = true) : WeightText (unpackedText unpacked) := by
  by_cases signed : unpacked = .zero .negative
  · exact Or.inr (signed ▸ rfl)
  · exact Or.inl (unpacked_text_number unpacked notBelow finite signed)

end Decimal

namespace Weight

theorem zero_unpacked : (0 : Float).toModel.unpack = .zero .positive := rfl

theorem lt_iff_unpacked (first second : Float) :
    first < second ↔ first.toModel.unpack.lt second.toModel.unpack = true := by
  change Float.lt first second = true ↔ _
  rw [Float.lt, decide_eq_true_iff]
  rfl

theorem finite (weight : Weight) : weight.value.toModel.unpack.isFinite = true := by
  have accepted := weight.accepted
  simp only [isWeight, Bool.and_eq_true] at accepted
  exact accepted.1

theorem not_below (weight : Weight) :
    weight.value.toModel.unpack.lt (.zero .positive) = false := by
  have accepted := weight.accepted
  simp only [isWeight, Bool.and_eq_true, Bool.not_eq_true', decide_eq_false_iff_not] at accepted
  have notBelow := accepted.2
  rw [lt_iff_unpacked, zero_unpacked] at notBelow
  simpa using notBelow

theorem text_weight (weight : Weight) : WeightText weight.text :=
  Decimal.unpacked_text_of_not_lt _ weight.not_below weight.finite

theorem text_number_of_positive (weight : Weight) (positive : weight.isPositive = true) :
    IsNumber weight.text := by
  apply Decimal.unpacked_text_of_lt _ _ weight.finite
  have above : 0 < weight.value := by simpa [isPositive] using positive
  rwa [lt_iff_unpacked, zero_unpacked] at above

end Weight

end LuceneQuery
