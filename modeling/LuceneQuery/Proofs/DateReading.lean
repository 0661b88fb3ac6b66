import LuceneQuery.Proofs.Instants

/-!
# What a date text can be read as

Every form reads offsets in whole minutes, fractions below a second and leap seconds at the end of
a minute, so that whatever is read can be written again without loss but for the fraction.
-/

namespace LuceneQuery

set_option autoImplicit false

namespace Scan

theorem number_eq_some (least most : Nat) (text rest : Text) (value : Nat)
    (found : number least most text = some (value, rest)) :
    ∃ spelled, text = spelled ++ rest ∧ (∀ c ∈ spelled, c.isDigit = true) ∧
      spelled.length ≤ most ∧ value = numberOf spelled := by
  simp only [number] at found
  split at found
  · cases found
  · cases found
    have front : (text.take most).takeWhile Char.isDigit <+: text :=
      (List.takeWhile_prefix _).trans (List.take_prefix _ _)
    refine ⟨(text.take most).takeWhile Char.isDigit, ?_, ?_, ?_, rfl⟩
    · exact (List.prefix_iff_eq_append.mp front).symm
    · exact fun c member => List.mem_takeWhile_imp member
    · exact (List.takeWhile_prefix _).length_le.trans (List.length_take_le _ _)

/-- A fraction stays below a second, however many digits it has. -/
theorem nanosecond_lt (text rest : Text) (value : Nat)
    (found : nanosecond text = some (value, rest)) : value < 1000000000 := by
  simp only [nanosecond, bind, Option.bind_eq_some_iff, pure, Option.some.injEq] at found
  obtain ⟨⟨digits, left⟩, read, same⟩ := found
  obtain ⟨rfl, _⟩ := Prod.mk.inj same
  obtain ⟨spelled, rfl, each, few, rfl⟩ := number_eq_some 1 9 text left digits read
  have below := number_of_lt spelled each
  have length : (spelled ++ left).length - left.length = spelled.length := by simp
  rw [length]
  calc numberOf spelled * Nat.pow 10 (9 - spelled.length)
      < Nat.pow 10 spelled.length * Nat.pow 10 (9 - spelled.length) :=
        Nat.mul_lt_mul_of_pos_right below (Nat.pow_pos (by decide))
    _ = Nat.pow 10 (spelled.length + (9 - spelled.length)) := (Nat.pow_add 10 _ _).symm
    _ = 1000000000 := by
        rw [Nat.add_sub_of_le few]

theorem offset_minutes (gap : Text → Option Text) (allowed : Bool) (text rest : Text)
    (value : Int) (found : offset gap allowed text = some (value, rest)) : 60 ∣ value := by
  simp only [offset, bind, Option.bind_eq_some_iff] at found
  obtain ⟨⟨negative, _⟩, _, ⟨hours, _⟩, _, _, _, ⟨minutes, _⟩, _, found⟩ := found
  dsimp only at found
  split at found
  · cases found
  · cases found
    split <;> omega

end Scan

namespace DateFields

/-- The offset is in whole minutes, and the fraction is below a second. -/
structure Rounded (fields : DateFields) : Prop where
  minutes : 60 ∣ fields.offset
  fraction : fields.nanosecond < 1000000000

theorem unread_rounded : unread.Rounded := ⟨by decide, by decide⟩

/-- Fields that name an instant name one that can be written. -/
theorem expressible_of_rounded (fields : DateFields) (found : Timestamp) (rounded : fields.Rounded)
    (named : fields.timestamp? = some found) : found.Expressible := by
  obtain ⟨date, clock, offset, range, rfl⟩ := (fields.timestamp_eq_some_iff found).mp named
  simp only [dateIsValid, Bool.and_eq_true, decide_eq_true_iff] at date
  simp only [clockIsValid, Bool.and_eq_true, decide_eq_true_iff] at clock
  simp only [offsetIsValid, Bool.and_eq_true, decide_eq_true_iff] at offset
  obtain ⟨⟨⟨least, greatest⟩, valid⟩, _⟩ := date
  have fraction := rounded.fraction
  let named : Timestamp := ⟨fields.localSecond - fields.offset,
    fields.nanosecond + (if fields.second = 60 then 1000000000 else 0), fields.offset⟩
  have second : named.localSecond = fields.localSecond := by
    simp only [named, Timestamp.localSecond]
    omega
  have day : fields.localSecond / 86400 = fields.date.toDayNumber := by
    simp only [localSecond]
    omega
  have year : named.spelled.year = fields.year := by
    have same := congrArg Date.year (Date.of_day_number_to_day_number _ valid)
    rw [← day, ← second] at same
    exact same
  have ends : 1000000000 ≤ named.nanosecond → named.localSecond % 60 = 59 := by
    rw [second]
    simp only [named, localSecond]
    split <;> omega
  have leap : named.nanosecond < 2000000000 := by
    simp only [named]
    split <;> omega
  exact ⟨⟨by rw [year]; exact ⟨least, greatest⟩, leap, offset⟩, rounded.minutes, range, ends⟩

end DateFields

namespace DateItem

theorem read_rounded (item : DateItem) (fields found : DateFields) (text rest : Text)
    (rounded : fields.Rounded) (read : item.read fields text = some (found, rest)) :
    found.Rounded := by
  have kept : ∀ same : DateFields, same.offset = fields.offset →
      same.nanosecond = fields.nanosecond → same.Rounded := by
    intro same offset nanosecond
    exact ⟨offset ▸ rounded.minutes, nanosecond ▸ rounded.fraction⟩
  cases item with
  | year | month | monthName | day | hour | minute | second =>
      simp only [DateItem.read, bind, Option.bind_eq_some_iff, pure, Option.some.injEq] at read
      obtain ⟨_, _, same⟩ := read
      obtain ⟨rfl, _⟩ := Prod.mk.inj same
      exact kept _ rfl rfl
  | fraction =>
      simp only [DateItem.read] at read
      split at read
      · simp only [bind, Option.bind_eq_some_iff, pure, Option.some.injEq] at read
        obtain ⟨⟨value, _⟩, digits, same⟩ := read
        obtain ⟨rfl, _⟩ := Prod.mk.inj same
        exact ⟨rounded.minutes, Scan.nanosecond_lt _ _ value digits⟩
      · cases read
        exact rounded
  | offset =>
      simp only [DateItem.read, bind, Option.bind_eq_some_iff, pure, Option.some.injEq] at read
      obtain ⟨⟨value, _⟩, zone, same⟩ := read
      obtain ⟨rfl, _⟩ := Prod.mk.inj same
      exact ⟨Scan.offset_minutes _ _ _ _ value zone, rounded.fraction⟩
  | blank =>
      cases read
      exact rounded
  | literal expected =>
      simp only [DateItem.read, bind, Option.bind_eq_some_iff, pure, Option.some.injEq] at read
      obtain ⟨_, _, same⟩ := read
      obtain ⟨rfl, _⟩ := Prod.mk.inj same
      exact rounded

end DateItem

namespace DatePattern

theorem read_rounded (pattern : List DateItem) (fields found : DateFields) (text : Text)
    (rounded : fields.Rounded) (fits : read fields pattern text = some found) : found.Rounded := by
  induction pattern generalizing fields text with
  | nil =>
      cases text with
      | nil =>
          cases fits
          exact rounded
      | cons c rest => cases fits
  | cons item later induction =>
      rw [read_cons, Option.bind_eq_some_iff] at fits
      obtain ⟨⟨filled, rest⟩, first, fits⟩ := fits
      exact induction filled rest (item.read_rounded fields filled text rest rounded first) fits

theorem expressible (pattern : List DateItem) (text : Text) (found : Timestamp)
    (fits : timestamp? pattern text = some found) : found.Expressible := by
  simp only [timestamp?, bind, Option.bind_eq_some_iff] at fits
  obtain ⟨fields, read, named⟩ := fits
  have rounded := read_rounded pattern .unread fields text DateFields.unread_rounded read
  exact fields.expressible_of_rounded found rounded named

end DatePattern

namespace InternetDate

theorem offset_minutes (text rest : Text) (value : Int)
    (found : offset text = some (value, rest)) : 60 ∣ value := by
  unfold offset at found
  split at found
  · cases found
    decide
  · cases found
    decide
  · exact Scan.offset_minutes _ _ _ _ value found

theorem fields_rounded (text rest : Text) (found : DateFields)
    (read : fields text = some (found, rest)) : found.Rounded := by
  unfold fields at read
  -- The eleven pieces of the date and the clock touch neither the offset nor the fraction.
  iterate 11 obtain ⟨_, _, read⟩ := Option.bind_eq_some_iff.mp read
  obtain ⟨⟨precise, _⟩, fraction, read⟩ := Option.bind_eq_some_iff.mp read
  obtain ⟨⟨value, _⟩, zone, read⟩ := Option.bind_eq_some_iff.mp read
  cases read
  have below := DateItem.fraction.read_rounded _ precise _ _ ⟨by simp, by simp⟩ fraction
  exact ⟨offset_minutes _ _ value zone, below.fraction⟩

theorem expressible (text : Text) (found : Timestamp)
    (fits : timestamp? text = some found) : found.Expressible := by
  simp only [timestamp?, bind, Option.bind_eq_some_iff] at fits
  obtain ⟨⟨spelled, rest⟩, read, named⟩ := fits
  split at named
  · next whole =>
      cases whole
      exact spelled.expressible_of_rounded found (fields_rounded text [] spelled read) named
  · cases named

end InternetDate

namespace MailDate

theorem zone_minutes (text rest : Text) (value : Int)
    (found : zone text = some (value, rest)) : 60 ∣ value := by
  simp only [zone] at found
  split at found
  · exact Scan.offset_minutes _ _ _ _ value found
  · split at found
    · cases found
      omega
    · split at found
      · cases found
        decide
      · cases found

theorem expressible (text : Text) (found : Timestamp)
    (fits : timestamp? text = some found) : found.Expressible := by
  unfold timestamp? at fits
  -- The twelve pieces in front of the zone do not touch the offset.
  iterate 12 obtain ⟨_, _, fits⟩ := Option.bind_eq_some_iff.mp fits
  obtain ⟨⟨value, _⟩, offset, named⟩ := Option.bind_eq_some_iff.mp fits
  dsimp only at named
  split at named
  · exact DateFields.expressible_of_rounded _ found ⟨zone_minutes _ _ value offset, by simp⟩ named
  · cases named

end MailDate

namespace Timestamp

theorem of_epoch_eq_some (second : Int) (found : Timestamp)
    (resolves : ofEpoch? second = some found) :
    inRange second = true ∧ found = ⟨second, 0, 0⟩ := by
  unfold ofEpoch? at resolves
  split at resolves
  · next range => exact ⟨range, (Option.some.inj resolves).symm⟩
  · cases resolves

theorem of_epoch_expressible (second : Int) (found : Timestamp)
    (resolves : ofEpoch? second = some found) : found.Expressible := by
  obtain ⟨range, rfl⟩ := of_epoch_eq_some second found resolves
  have year := year_of_in_range second range
  have here : localSecond ⟨second, 0, 0⟩ = second := Int.add_zero second
  refine ⟨⟨?_, by simp, by simp⟩, by simp, range, by simp⟩
  simpa only [spelled, here] using year

theorem read_expressible (text : Text) (found : Timestamp)
    (resolves : Timestamp.read text = some found) : found.Expressible := by
  unfold Timestamp.read at resolves
  split at resolves
  · cases resolves
  · simp only [bind, Option.bind_eq_some_iff] at resolves
    obtain ⟨second, _, resolves⟩ := resolves
    exact of_epoch_expressible second found resolves
  · simp only [readForms, Option.or_eq_some_iff] at resolves
    rcases resolves with internet | ⟨_, mail | ⟨_, form⟩⟩
    · exact InternetDate.expressible _ found internet
    · exact MailDate.expressible _ found mail
    · obtain ⟨pattern, _, fits⟩ := List.exists_of_findSome?_eq_some form
      exact DatePattern.expressible pattern _ found fits

end Timestamp

end LuceneQuery
