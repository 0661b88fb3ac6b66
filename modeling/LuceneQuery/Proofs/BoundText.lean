import LuceneQuery.Proofs.NumberText
import LuceneQuery.Range

/-!
# The texts of bounds

Numbers, timestamps and open ends are written in letters, digits and a few marks, none of which
means anything to the text around a bound. Text that is no date is written as it was given, and
is the only way for anything else to get into a range.
-/

namespace LuceneQuery

set_option autoImplicit false

def isBoundChar (c : Char) : Bool :=
  c.isAlphanum || c == '+' || c == '-' || c == ':' || c == '.' || c == '*'

def isBracket (c : Char) : Bool := c == '[' || c == ']' || c == '{' || c == '}'

/-- A bound that can neither end its range nor run into the separator. -/
def Unbroken (text : Text) : Prop := ∀ c ∈ text, c ≠ ' ' ∧ isBracket c = false

instance (text : Text) : Decidable (Unbroken text) :=
  List.decidableBAll (fun c => c ≠ ' ' ∧ isBracket c = false) text

/-- The text of a bound that is no text. -/
def PlainBound (text : Text) : Prop := text ≠ [] ∧ ∀ c ∈ text, isBoundChar c = true

instance (text : Text) : Decidable (PlainBound text) :=
  have := List.decidableBAll (fun c => isBoundChar c = true) text
  instDecidableAnd

theorem bound_char_unbroken (c : Char) (known : isBoundChar c = true) :
    c ≠ ' ' ∧ isBracket c = false := by
  constructor
  · rintro rfl
    exact absurd known (by decide)
  · cases bracket : isBracket c with
    | false => rfl
    | true =>
        simp only [isBracket, Bool.or_eq_true, beq_iff_eq] at bracket
        rcases bracket with ((rfl | rfl) | rfl) | rfl <;> exact absurd known (by decide)

/-- Letters and digits lie between the digit zero and the last small letter. -/
theorem alphanum_range (c : Char) (known : c.isAlphanum = true) :
    48 ≤ c.toNat ∧ c.toNat ≤ 122 := by
  have kinds : (c.isUpper || c.isLower || c.isDigit) = true := known
  rw [Bool.or_eq_true, Bool.or_eq_true] at kinds
  rcases kinds with (upper | lower) | digit
  · have inside : 65 ≤ c.toNat ∧ c.toNat ≤ 90 := of_decide_eq_true upper
    omega
  · have inside : 97 ≤ c.toNat ∧ c.toNat ≤ 122 :=
      (Bool.and_eq_true_iff.mp lower).imp of_decide_eq_true of_decide_eq_true
    omega
  · have inside : 48 ≤ c.toNat ∧ c.toNat ≤ 57 := Char.isDigit_iff_toNat.mp digit
    omega

theorem bound_char_not_blank (c : Char) (known : isBoundChar c = true) :
    Text.isBlank c = false := by
  simp only [isBoundChar, Bool.or_eq_true, beq_iff_eq] at known
  rcases known with ((((letter | rfl) | rfl) | rfl) | rfl) | rfl
  · have range := alphanum_range c letter
    simp only [Text.isBlank, Bool.or_eq_false_iff, Bool.and_eq_false_iff, decide_eq_false_iff_not,
      beq_eq_false_iff_ne]
    omega
  all_goals decide

theorem unbroken_of_plain (text : Text) (plain : PlainBound text) : Unbroken text :=
  fun c member => bound_char_unbroken c (plain.2 c member)

theorem bound_char_of_digit (c : Char) (digit : c.isDigit = true) : isBoundChar c = true := by
  simp [isBoundChar, Char.isAlphanum, digit]

theorem plain_bound_append (first later : Text) (filled : PlainBound first)
    (chars : ∀ c ∈ later, isBoundChar c = true) : PlainBound (first ++ later) := by
  refine ⟨by simp [filled.1], ?_⟩
  intro c member
  exact (List.mem_append.mp member).elim (filled.2 c) (chars c)

theorem plain_bound_cons (c : Char) (rest : Text) (first : isBoundChar c = true)
    (chars : ∀ next ∈ rest, isBoundChar next = true) : PlainBound (c :: rest) :=
  ⟨by simp, List.forall_mem_cons.mpr ⟨first, chars⟩⟩

theorem plain_bound_of_digits (text : Text) (digits : IsDigits text) : PlainBound text :=
  ⟨digits.1, fun c member => bound_char_of_digit c (digits.2 c member)⟩

theorem plain_bound_of_number (text : Text) (number : IsNumber text) : PlainBound text := by
  rcases number with whole | ⟨whole, fraction, wholeDigits, fractionDigits, rfl⟩
  · exact plain_bound_of_digits text whole
  · exact plain_bound_append _ _ (plain_bound_of_digits whole wholeDigits)
      (plain_bound_cons '.' fraction (by decide) (plain_bound_of_digits _ fractionDigits).2).2

theorem plain_bound_of_sign (text : Text) (plain : PlainBound text) : PlainBound ('-' :: text) :=
  plain_bound_cons '-' text (by decide) plain.2

theorem integer_text_plain (value : Int) : PlainBound (Decimal.integerText value) := by
  cases value with
  | ofNat value => exact plain_bound_of_digits _ (Decimal.digits_is_digits value)
  | negSucc value =>
      exact plain_bound_of_sign _ (plain_bound_of_digits _ (Decimal.digits_is_digits _))

/-- Floats that are not finite have words for their texts. -/
theorem float_text_plain (value : Float) : PlainBound (Decimal.floatText value) := by
  have signed : ∀ (sign : Float.Model.UnpackedFloat.Sign) (text : Text), PlainBound text →
      PlainBound (Decimal.signText sign ++ text) := by
    intro sign text plain
    cases sign with
    | positive => exact plain
    | negative => exact plain_bound_of_sign text plain
  unfold Decimal.floatText
  cases value.toModel.unpack with
  | notANumber => decide
  | infinity sign => exact signed sign ['i', 'n', 'f'] (by decide)
  | zero sign => exact signed sign ['0'] (by decide)
  | finite sign mantissa exponent positive =>
      exact signed sign _ (plain_bound_of_number _ (Decimal.plain_is_number _))

namespace Timestamp

theorem padded_plain (width value : Nat) : PlainBound (padded width value) := by
  have spelled := plain_bound_of_digits _ (Decimal.digits_is_digits value)
  refine ⟨by simp [padded, spelled.1], ?_⟩
  intro c member
  rcases List.mem_append.mp member with zero | digit
  · exact bound_char_of_digit c (Decimal.replicate_zero_digits _ c zero)
  · exact spelled.2 c digit

theorem year_text_plain (year : Int) : PlainBound (yearText year) := by
  have magnitude := padded_plain 4 year.natAbs
  unfold yearText
  split
  · exact plain_bound_of_sign _ magnitude
  · split
    · exact plain_bound_cons '+' _ (by decide) magnitude.2
    · exact magnitude

theorem plain_bound_joined (mark : Char) (first later : Text) (known : isBoundChar mark = true)
    (front : PlainBound first) (back : PlainBound later) : PlainBound (first ++ mark :: later) :=
  plain_bound_append first _ front (plain_bound_cons mark later known back.2).2

theorem date_text_plain (date : Date) : PlainBound (dateText date) := by
  have days := plain_bound_joined '-' _ _ (by decide) (padded_plain 2 date.month)
    (padded_plain 2 date.day)
  simpa [dateText] using plain_bound_joined '-' _ _ (by decide) (year_text_plain date.year) days

theorem clock_text_plain (secondOfDay nanosecond : Nat) :
    PlainBound (clockText secondOfDay nanosecond) := by
  have minutes := plain_bound_joined ':' _ _ (by decide) (padded_plain 2 (secondOfDay / 60 % 60))
    (padded_plain 2 (secondOfDay % 60 + nanosecond / 1000000000))
  simpa [clockText] using
    plain_bound_joined ':' _ _ (by decide) (padded_plain 2 (secondOfDay / 3600)) minutes

theorem offset_text_plain (offset : Int) : PlainBound (offsetText offset) := by
  have minutes := plain_bound_append _ _ (padded_plain 2 ((offset.natAbs + 30) / 60 / 60))
    (padded_plain 2 ((offset.natAbs + 30) / 60 % 60)).2
  unfold offsetText
  split
  · exact plain_bound_cons '-' _ (by decide) minutes.2
  · exact plain_bound_cons '+' _ (by decide) minutes.2

theorem text_plain (timestamp : Timestamp) : PlainBound timestamp.text := by
  have clock := plain_bound_append _ _
    (clock_text_plain (timestamp.localSecond % 86400).toNat timestamp.nanosecond)
    (offset_text_plain timestamp.offset).2
  simpa [text] using plain_bound_joined 'T' _ _ (by decide)
    (date_text_plain (Date.ofDayNumber (timestamp.localSecond / 86400))) clock

end Timestamp

theorem Bound.plain_text_plain (bound : Bound) :
    PlainBound bound.plainText ∨ bound = .text bound.plainText := by
  cases bound with
  | unbounded => exact Or.inl (by decide)
  | text given => exact Or.inr rfl
  | integer value => exact Or.inl (integer_text_plain value)
  | float value => exact Or.inl (float_text_plain value)
  | timestamp value => exact Or.inl value.text_plain

/-- A bound is plain, or it is a text that is written as it was given. -/
theorem BoundFormat.render_plain_or_given (format : BoundFormat) (bound : Bound) :
    PlainBound (format.render bound) ∨ bound = .text (format.render bound) := by
  cases format with
  | plain => exact bound.plain_text_plain
  | date =>
      unfold render
      cases instant? bound with
      | none => exact bound.plain_text_plain
      | some instant => exact Or.inl instant.text_plain

end LuceneQuery
