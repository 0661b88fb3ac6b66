import LuceneQuery.Proofs.DatePieces
import LuceneQuery.Proofs.DayNumbers

/-!
# Reading a written timestamp

A timestamp is written in a form that one pattern reads: the numeric date, `T`, the full clock
and the offset. No form tried before that pattern takes the text for its own, and none tried after
it does when the fields that the text spells out name no instant.
-/

namespace LuceneQuery

set_option autoImplicit false

namespace DateFields

open Timestamp

/-- Every field fits the width at which it is written. -/
structure Fits (fields : DateFields) : Prop where
  year : fields.year.natAbs < 1000000
  month : fields.month < 100
  day : fields.day < 100
  hour : fields.hour < 100
  minute : fields.minute < 100
  second : fields.second < 100

/-- The fields in the form of a timestamp; the offset need not be whole minutes. -/
def written (fields : DateFields) (offset : Int) : Text :=
  dateText fields.date ++ 'T' :: (padded 2 fields.hour ++ ':' :: (padded 2 fields.minute ++
    (':' :: (padded 2 fields.second ++ offsetText offset))))

/-- What the written form spells out: there is no fraction and no weekday in it. -/
def shown (fields : DateFields) (offset : Int) : DateFields :=
  { fields with nanosecond := 0, offset := shownOffset offset, weekday := none }

end DateFields

namespace DatePattern

open Timestamp

theorem read_cons (fields : DateFields) (item : DateItem) (later : List DateItem) (text : Text) :
    read fields (item :: later) text =
      (item.read fields text).bind fun piece => read piece.1 later piece.2 := rfl

theorem year_item_read (fields : DateFields) (date : Date) (rest : Text)
    (year : date.year.natAbs < 1000000) :
    DateItem.year.read fields (dateText date ++ rest) = some ({ fields with year := date.year },
      '-' :: (padded 2 date.month ++ '-' :: (padded 2 date.day ++ rest))) := by
  have read := read_year date.year ('-' :: (padded 2 date.month ++ '-' :: (padded 2 date.day ++
    rest))) year (Scan.stops_cons _ _ (by decide))
  simp [dateText, DateItem.read, trim_start_plain, year_text_plain, read]

theorem read_numeric_date (fields : DateFields) (date : Date) (items : List DateItem) (rest : Text)
    (year : date.year.natAbs < 1000000) (month : date.month < 100) (day : date.day < 100) :
    read fields (numericDate '-' ++ items) (dateText date ++ rest) =
      read { fields with year := date.year, month := date.month, day := date.day } items rest := by
  have second := read_two 1 date.month ('-' :: (padded 2 date.day ++ rest)) (by decide) month
  have third := read_two 1 date.day rest (by decide) day
  simp only [numericDate, List.cons_append, List.nil_append]
  rw [read_cons, year_item_read fields date rest year, Option.bind_some]
  simp [read, DateItem.read, Scan.char, trim_start_plain, padded_plain, second, third]

theorem read_clock (fields : DateFields) (hour minute : Nat) (items : List DateItem) (rest : Text)
    (hourSmall : hour < 100) (minuteSmall : minute < 100) :
    read fields (clock ++ items) (padded 2 hour ++ ':' :: (padded 2 minute ++ rest)) =
      read { fields with hour := hour, minute := minute } items rest := by
  have first := read_two 1 hour (':' :: (padded 2 minute ++ rest)) (by decide) hourSmall
  have second := read_two 1 minute rest (by decide) minuteSmall
  simp [clock, read, DateItem.read, Scan.char, trim_start_plain, padded_plain, first, second]

variable (fields : DateFields) (offset : Int)

theorem date_read (fits : fields.Fits) (items : List DateItem) :
    read .unread (numericDate '-' ++ items) (fields.written offset) =
      read ⟨fields.year, fields.month, fields.day, 0, 0, 0, 0, 0, none⟩ items
        ('T' :: (padded 2 fields.hour ++ ':' :: (padded 2 fields.minute ++
          (':' :: (padded 2 fields.second ++ offsetText offset))))) :=
  read_numeric_date _ fields.date items _ fits.year fits.month fits.day

theorem clock_read (fits : fields.Fits) (items : List DateItem) :
    read .unread (numericDate '-' ++ .literal 'T' :: (clock ++ items)) (fields.written offset) =
      read ⟨fields.year, fields.month, fields.day, fields.hour, fields.minute, 0, 0, 0, none⟩ items
        (':' :: (padded 2 fields.second ++ offsetText offset)) := by
  have times := read_clock ⟨fields.year, fields.month, fields.day, 0, 0, 0, 0, 0, none⟩
    fields.hour fields.minute items (':' :: (padded 2 fields.second ++ offsetText offset))
    fits.hour fits.minute
  rw [date_read fields offset fits, read, ← times]
  simp [DateItem.read, Scan.char]

theorem full_clock_read (fits : fields.Fits) (items : List DateItem) :
    read .unread (numericDate '-' ++ .literal 'T' :: (fullClock ++ items))
        (fields.written offset) =
      read ⟨fields.year, fields.month, fields.day, fields.hour, fields.minute, fields.second, 0, 0,
        none⟩ items (offsetText offset) := by
  have seconds := read_two 1 fields.second (offsetText offset) (by decide) fits.second
  rw [fullClock, List.append_assoc, clock_read fields offset fits]
  simp [read, DateItem.read, Scan.char, trim_start_plain, padded_plain, seconds]

theorem zoned_read (fits : fields.Fits) (day : offset.natAbs < 86400) :
    timestamp? (numericDate '-' ++ .literal 'T' :: fullClock ++ [.offset])
      (fields.written offset) = (fields.shown offset).timestamp? := by
  have zone := read_offset (fun rest => some (rest.dropWhile DateItem.colonOrBlank)) offset [] day
    fun minutes later => congrArg some (gap_skips_nothing minutes later)
  rw [List.append_nil] at zone
  have solid := trim_start_plain (offsetText offset) [] (offset_text_plain offset)
  rw [List.append_nil] at solid
  rw [timestamp?, List.append_assoc, List.cons_append, full_clock_read fields offset fits]
  simp [read, DateItem.read, solid, zone, DateFields.shown]

/-- A written timestamp starts with the sign of its year, or with the four digits of one. -/
theorem written_opens :
    (∃ sign rest, fields.written offset = sign :: rest ∧ (sign = '-' ∨ sign = '+')) ∨
      ∃ first second third rest, fields.written offset = first :: second :: third :: rest ∧
        first.isDigit = true ∧ second.isDigit = true ∧ third.isDigit = true := by
  have front : ∃ rest, fields.written offset = yearText fields.year ++ rest :=
    ⟨_, by rw [DateFields.written, dateText, List.append_assoc, List.append_assoc]; rfl⟩
  obtain ⟨rest, front⟩ := front
  rw [front]
  rcases year_text_cases fields.year with ⟨_, same⟩ | ⟨_, same⟩ | ⟨short, _, same⟩
  · exact Or.inl ⟨'-', padded 4 fields.year.natAbs ++ rest, by rw [same]; rfl, Or.inl rfl⟩
  · exact Or.inl ⟨'+', padded 4 fields.year.natAbs ++ rest, by rw [same]; rfl, Or.inr rfl⟩
  · have length := padded_length 4 fields.year.natAbs (by decide) short
    have digits := padded_digits 4 fields.year.natAbs
    obtain ⟨first, second, third, fourth, spelled⟩ := List.length_eq_four.mp length
    rw [spelled] at digits
    exact Or.inr ⟨first, second, third, fourth :: rest, by rw [same, spelled]; rfl,
      digits _ (by simp), digits _ (by simp), digits _ (by simp)⟩

/-- The day that the forms with the day in front look for has its two digits and no blank or
letter after it. -/
theorem day_read :
    Scan.number 1 2 (fields.written offset) = none ∨
      ∃ value c rest, Scan.number 1 2 (fields.written offset) = some (value, c :: rest) ∧
        c.isDigit = true := by
  rcases written_opens fields offset with ⟨sign, rest, same, signs⟩ | ⟨first, second, third, rest,
    same, one, two, three⟩
  · refine Or.inl ?_
    rw [same]
    exact Scan.number_eq_none 1 2 sign rest (by rcases signs with rfl | rfl <;> decide) (by decide)
  · have digits : ∀ c ∈ [first, second], c.isDigit = true := by simp [one, two]
    have small : Scan.numberOf [first, second] < 100 := Scan.number_of_lt [first, second] digits
    have read := Scan.number_append 1 2 [first, second] (third :: rest) digits (by simp) (by simp)
      (Or.inl rfl) (word_of_small _ (by omega))
    exact Or.inr ⟨_, third, rest, by rw [same]; exact read, three⟩

theorem written_head :
    ∃ c rest, fields.written offset = c :: rest ∧ c.isAlpha = false ∧ Text.isBlank c = false ∧
      c ≠ '@' := by
  have plain : ∀ c : Char, c.isDigit = true → c.isAlpha = false ∧ Text.isBlank c = false ∧
      c ≠ '@' := by
    intro c digit
    exact ⟨Scan.digit_not_alpha c digit, bound_char_not_blank c (bound_char_of_digit c digit),
      Scan.digit_ne c '@' digit (by decide)⟩
  rcases written_opens fields offset with ⟨sign, rest, same, signs⟩ | ⟨first, second, third, rest,
    same, one, _, _⟩
  · refine ⟨sign, rest, same, ?_⟩
    rcases signs with rfl | rfl <;> decide
  · exact ⟨first, second :: third :: rest, same, plain first one⟩

theorem trim_start_written :
    Text.trimStart (fields.written offset) = fields.written offset := by
  obtain ⟨c, rest, same, _, solid, _⟩ := written_head fields offset
  apply Text.trim_start_of_starts
  simp [same, Text.startsBlank, solid]

/-- An item that is to read a month's name finds none in front of a digit or a sign. -/
theorem month_name_refuses (read : DateFields) (c : Char) (rest : Text)
    (other : c.isAlpha = false) : DateItem.monthName.read read (c :: rest) = none := by
  have none := Scan.name_from_eq_none Scan.shortMonths c rest (by decide) other
  simp [DateItem.read, Scan.month, none]

theorem hour_refuses_letter (read : DateFields) (items : List DateItem) (rest : Text) :
    DatePattern.read read (.blank :: .hour :: items) ('T' :: rest) = none := by
  have none := Scan.number_eq_none 1 2 'T' rest (by decide) (by decide)
  have solid : Text.trimStart ('T' :: rest) = 'T' :: rest := rfl
  simp [DatePattern.read, DateItem.read, solid, none]

/-- The forms with a blank between date and time do not take the letter for one. -/
theorem blank_refuses (fits : fields.Fits) (items : List DateItem) :
    timestamp? (numericDate '-' ++ .blank :: .hour :: items) (fields.written offset) = none := by
  rw [timestamp?, date_read fields offset fits, hour_refuses_letter]
  rfl

theorem zoned_refuses (fits : fields.Fits) :
    ∀ pattern ∈ zoned.tail, timestamp? pattern (fields.written offset) = none := by
  simp only [zoned, List.tail_cons, List.forall_mem_cons, List.append_assoc, List.cons_append,
    List.not_mem_nil, false_imp_iff, implies_true, and_true]
  exact ⟨blank_refuses fields offset fits _, blank_refuses fields offset fits _⟩

/-- The forms without an offset leave it over. -/
theorem unzoned_refuses (fits : fields.Fits) :
    ∀ pattern ∈ unzoned, timestamp? pattern (fields.written offset) = none := by
  obtain ⟨sign, rest, opens, _⟩ := offset_text_opens offset
  have leaves : ∀ found : DateFields, read found [] (offsetText offset) = none := by
    intro found
    rw [opens]
    rfl
  have fraction := full_clock_read fields offset fits [.fraction]
  have whole := full_clock_read fields offset fits []
  have short := clock_read fields offset fits []
  rw [read_cons, fraction_skips_offset, Option.bind_some, leaves] at fraction
  rw [List.append_nil, leaves] at whole
  rw [List.append_nil, read] at short
  simp only [unzoned, List.forall_mem_cons, List.append_assoc, List.cons_append, List.not_mem_nil,
    false_imp_iff, implies_true, and_true]
  exact ⟨by rw [timestamp?, fraction]; rfl, by rw [timestamp?, whole]; rfl,
    blank_refuses fields offset fits _, blank_refuses fields offset fits _,
    by rw [timestamp?, short]; rfl, blank_refuses fields offset fits _⟩

theorem slash_refuses (fits : fields.Fits) :
    timestamp? (numericDate '/') (fields.written offset) = none := by
  have slash : ∀ read : DateFields, ∀ rest, (DateItem.literal '/').read read ('-' :: rest) = none :=
    fun _ _ => rfl
  have year := year_item_read .unread fields.date
    ('T' :: (padded 2 fields.hour ++ ':' :: (padded 2 fields.minute ++
      (':' :: (padded 2 fields.second ++ offsetText offset))))) fits.year
  rw [timestamp?, numericDate, read_cons, DateFields.written, year, Option.bind_some, read_cons,
    slash]
  rfl

/-- Two digits of the year may pass for a day, but no month follows them. -/
theorem day_first_refuses (items : List DateItem) :
    timestamp? (.day :: .blank :: .monthName :: items) (fields.written offset) = none := by
  rcases day_read fields offset with none | ⟨value, c, rest, found, digit⟩
  · simp [timestamp?, read, DateItem.read, trim_start_written, none]
  · have solid : Text.trimStart (c :: rest) = c :: rest := by
      apply Text.trim_start_of_starts
      simpa [Text.startsBlank] using bound_char_not_blank c (bound_char_of_digit c digit)
    have day : DateItem.day.read .unread (fields.written offset) =
        some ({ DateFields.unread with day := value }, c :: rest) := by
      simp [DateItem.read, trim_start_written, found]
    have blank : ∀ read : DateFields,
        DateItem.blank.read read (c :: rest) = some (read, c :: rest) := by
      simp [DateItem.read, solid]
    rw [timestamp?, read_cons, day, Option.bind_some, read_cons, blank, Option.bind_some, read_cons,
      month_name_refuses _ c rest (Scan.digit_not_alpha c digit)]
    rfl

theorem month_first_refuses (items : List DateItem) :
    timestamp? (.monthName :: items) (fields.written offset) = none := by
  obtain ⟨c, rest, head, letter, _⟩ := written_head fields offset
  rw [timestamp?, read_cons, head, month_name_refuses _ c rest letter]
  rfl

/-- The forms without a time leave it over, or look for another date. -/
theorem date_only_refuses (fits : fields.Fits) :
    ∀ pattern ∈ dateOnly, timestamp? pattern (fields.written offset) = none := by
  have plain := date_read fields offset fits []
  rw [List.append_nil] at plain
  simp only [dateOnly, List.forall_mem_cons, List.not_mem_nil, false_imp_iff, implies_true,
    and_true]
  exact ⟨by simp [timestamp?, plain, read], slash_refuses fields offset fits,
    day_first_refuses fields offset _, month_first_refuses fields offset _⟩

end DatePattern

namespace Timestamp

theorem internet_refuses_sign (sign : Char) (rest : Text) (other : sign.isDigit = false) :
    InternetDate.timestamp? (sign :: rest) = none := by
  have none := Scan.number_eq_none 4 4 sign rest other (by decide)
  rw [InternetDate.timestamp?, InternetDate.fields, none]
  rfl

/-- Every piece in front of the minutes of the offset is read, and there a colon is missing. -/
theorem internet_refuses_unsigned (fields : DateFields) (offset : Int) (fits : fields.Fits)
    (day : offset.natAbs < 86400) (short : fields.year.natAbs < 10000)
    (same : yearText fields.year = padded 4 fields.year.natAbs) :
    InternetDate.timestamp? (fields.written offset) = none := by
  have year := fun rest => number_padded 4 4 fields.year.natAbs rest (by decide) (by decide) short
    (by omega)
  have month := fun rest => read_two 2 fields.month rest (by decide) fits.month
  have date := fun rest => read_two 2 fields.day rest (by decide) fits.day
  have hour := fun rest => read_two 2 fields.hour rest (by decide) fits.hour
  have minute := fun rest => read_two 2 fields.minute rest (by decide) fits.minute
  have second := fun rest => read_two 2 fields.second rest (by decide) fits.second
  have spelled : fields.written offset = padded 4 fields.year.natAbs ++ '-' ::
      (padded 2 fields.month ++ '-' :: (padded 2 fields.day ++ 'T' ::
        (padded 2 fields.hour ++ ':' :: (padded 2 fields.minute ++ ':' ::
          (padded 2 fields.second ++ offsetText offset))))) := by
    simp only [DateFields.written, dateText, DateFields.date, same, List.append_assoc,
      List.cons_append]
  have unread : InternetDate.fields (fields.written offset) = none := by
    rw [InternetDate.fields, spelled]
    refine (Scan.bind_read (year _) _).trans ?_
    refine (Scan.bind_read (Scan.char_read _ _) _).trans ?_
    refine (Scan.bind_read (month _) _).trans ?_
    refine (Scan.bind_read (Scan.char_read _ _) _).trans ?_
    refine (Scan.bind_read (date _) _).trans ?_
    refine (Scan.bind_read rfl _).trans ?_
    refine (Scan.bind_read (hour _) _).trans ?_
    refine (Scan.bind_read (Scan.char_read _ _) _).trans ?_
    refine (Scan.bind_read (minute _) _).trans ?_
    refine (Scan.bind_read (Scan.char_read _ _) _).trans ?_
    refine (Scan.bind_read (second _) _).trans ?_
    refine (Scan.bind_read (fraction_skips_offset _ offset) _).trans ?_
    exact congrArg (Option.bind · _) (internet_offset_refuses offset day)
  rw [InternetDate.timestamp?, unread]
  rfl

/-- A year with a sign has no digit in front, and behind a year without one the offset is
refused. -/
theorem internet_refuses (fields : DateFields) (offset : Int) (fits : fields.Fits)
    (day : offset.natAbs < 86400) : InternetDate.timestamp? (fields.written offset) = none := by
  rcases year_text_cases fields.year with ⟨_, same⟩ | ⟨_, same⟩ | ⟨short, _, same⟩
  · rw [DateFields.written, dateText, DateFields.date, same]
    exact internet_refuses_sign '-' _ (by decide)
  · rw [DateFields.written, dateText, DateFields.date, same]
    exact internet_refuses_sign '+' _ (by decide)
  · exact internet_refuses_unsigned fields offset fits day short same

/-- Neither a weekday nor a day stands in front of the blank that is looked for. -/
theorem mail_refuses (fields : DateFields) (offset : Int) :
    MailDate.timestamp? (fields.written offset) = none := by
  obtain ⟨c, rest, head, letter, _⟩ := DatePattern.written_head fields offset
  have unnamed : MailDate.weekday (fields.written offset) =
      some (none, fields.written offset) := by
    rw [MailDate.weekday, head, Scan.name_from_eq_none Scan.shortWeekdays c rest (by decide) letter]
  have solid := DatePattern.trim_start_written fields offset
  rw [MailDate.timestamp?, solid]
  refine (Scan.bind_read unnamed _).trans ?_
  dsimp only
  rw [solid]
  rcases DatePattern.day_read fields offset with unread | ⟨value, next, later, found, digit⟩
  · rw [unread]
    rfl
  · have blankless : Scan.blanks (next :: later) = none := by
      simp [Scan.blanks, bound_char_not_blank next (bound_char_of_digit next digit)]
    refine (Scan.bind_read found _).trans ?_
    dsimp only
    rw [blankless]
    rfl

theorem forms_read (fields : DateFields) (offset : Int) (fits : fields.Fits)
    (day : offset.natAbs < 86400) :
    readForms (fields.written offset) = (fields.shown offset).timestamp? := by
  let later := DatePattern.zoned.tail ++ DatePattern.unzoned ++ DatePattern.dateOnly
  have refused : ∀ pattern ∈ later,
      DatePattern.timestamp? pattern (fields.written offset) = none := by
    intro pattern member
    rcases List.mem_append.mp member with zonedOrNot | dateOnly
    · rcases List.mem_append.mp zonedOrNot with zoned | unzoned
      · exact DatePattern.zoned_refuses fields offset fits pattern zoned
      · exact DatePattern.unzoned_refuses fields offset fits pattern unzoned
    · exact DatePattern.date_only_refuses fields offset fits pattern dateOnly
  have first := DatePattern.zoned_read fields offset fits day
  rw [readForms, internet_refuses fields offset fits day, mail_refuses, Option.none_or,
    Option.none_or]
  change (_ :: later).findSome? _ = _
  rw [List.findSome?_cons, first]
  cases (fields.shown offset).timestamp? with
  | some found => rfl
  | none => exact List.findSome?_eq_none_iff.mpr refused

/-- The fields that the text of a timestamp spells out. -/
def spelled (timestamp : Timestamp) : DateFields :=
  let date := Date.ofDayNumber (timestamp.localSecond / 86400)
  let secondOfDay := (timestamp.localSecond % 86400).toNat
  ⟨date.year, date.month, date.day, secondOfDay / 3600, secondOfDay / 60 % 60,
    secondOfDay % 60 + timestamp.nanosecond / 1000000000, 0, shownOffset timestamp.offset, none⟩

theorem text_eq_written (timestamp : Timestamp) :
    timestamp.text = timestamp.spelled.written timestamp.offset := by
  simp [text, clockText, DateFields.written, spelled, DateFields.date]

/-- The text of a timestamp is read as the fields that it spells out. -/
theorem read_text (timestamp : Timestamp) (fits : timestamp.spelled.Fits)
    (day : timestamp.offset.natAbs < 86400) :
    Timestamp.read timestamp.text = timestamp.spelled.timestamp? := by
  have trimmed := trim_plain timestamp.text timestamp.text_plain
  have forms := forms_read timestamp.spelled timestamp.offset fits day
  rw [← text_eq_written] at forms
  obtain ⟨c, rest, head, _, _, mark⟩ :=
    DatePattern.written_head timestamp.spelled timestamp.offset
  rw [← text_eq_written] at head
  rw [Timestamp.read, trimmed]
  split
  · next empty => rw [empty] at head; cases head
  · next begins =>
      rw [begins] at head
      exact absurd (List.cons.inj head).1.symm mark
  · exact forms

end Timestamp

end LuceneQuery
