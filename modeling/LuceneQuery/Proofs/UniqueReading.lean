import Mathlib.Data.List.Basic
import LuceneQuery.Proofs.Written

/-!
# Unique readability

A rendering has one reading. Proper readings whose bounds hold no space and no bracket are told
apart by what they are written as, in front of any text that can follow a clause: the marks are
taken off one by one, and what is left starts in a way of its own for each kind of core.
-/

namespace LuceneQuery

set_option autoImplicit false

def Filled (text : Text) : Prop := text ≠ []

/-- What may stand behind a clause: nothing, the separator of a group, or its end. -/
def FollowsClause (rest : Text) : Prop := ∀ c ∈ rest.head?, c = ' ' ∨ c = ')'

/-- What may stand behind a core: a boost as well. -/
def FollowsCore (rest : Text) : Prop := ∀ c ∈ rest.head?, c = '^' ∨ c = ' ' ∨ c = ')'

theorem follows_clause_cons (c : Char) (rest : Text) (ends : c = ' ' ∨ c = ')') :
    FollowsClause (c :: rest) := by
  simpa [FollowsClause] using ends

theorem follows_core_boosts (boosts : List Text) (rest : Text) (follows : FollowsClause rest) :
    FollowsCore (writeBoosts boosts ++ rest) := by
  cases boosts with
  | nil =>
      intro c head
      exact Or.inr (follows c head)
  | cons boost later => simp [FollowsCore, writeBoosts]

theorem ends_token_of_follows (rest : Text) (follows : FollowsCore rest) : EndsToken rest := by
  intro c head
  rcases follows c head with rfl | rfl | rfl <;> decide

/-- The next mark of a text, if one stands in front. -/
def nextMark : Text → Option (Mark × Text)
  | '+' :: rest => some (.required, rest)
  | '-' :: rest => some (.prohibited, rest)
  | text =>
      match scanToken text with
      | some (name, ':' :: rest) => some (.field name, rest)
      | _ => none

theorem next_mark_of_unsigned (text : Text) (plus : '+' ∉ text.head?) (minus : '-' ∉ text.head?) :
    nextMark text =
      match scanToken text with
      | some (name, ':' :: rest) => some (.field name, rest)
      | _ => none := by
  unfold nextMark
  split
  · simp at plus
  · simp at minus
  · rfl

theorem next_mark_write (mark : Mark) (rest : Text) :
    nextMark (mark.write ++ rest) = some (mark, rest) := by
  cases mark with
  | required => rfl
  | prohibited => rfl
  | field name =>
      have unsigned : ∀ c, isBare c = false → c ≠ '"' → c ≠ ':' →
          c ∉ (escapeToken name ++ ':' :: rest).head? := by
        intro c reserved quote colon head
        cases written : escapeToken name with
        | nil =>
            rw [written] at head
            exact colon (Option.some.inj head).symm
        | cons first later =>
            have starts := escape_token_head name c (by simpa [written] using head)
            rcases starts with rfl | ⟨bare, _⟩
            · exact quote rfl
            · simp [reserved] at bare
      simp only [Mark.write, List.append_assoc, List.cons_append, List.nil_append]
      rw [next_mark_of_unsigned _ (unsigned '+' rfl (by decide) (by decide))
        (unsigned '-' rfl (by decide) (by decide)),
        scan_token_escape name _ (ends_token_cons ':' rest rfl (by decide))]
      rfl

/-- Marks come off the front as long as there are some. -/
theorem write_marks_cancel (first second : List Mark) (rest later : Text)
    (firstEnd : nextMark rest = none) (secondEnd : nextMark later = none)
    (same : writeMarks first ++ rest = writeMarks second ++ later) :
    first = second ∧ rest = later := by
  induction first generalizing second with
  | nil =>
      cases second with
      | nil => exact ⟨rfl, same⟩
      | cons mark more =>
          have next := congrArg nextMark same
          simp only [writeMarks, List.flatMap_nil, List.nil_append, List.flatMap_cons,
            List.append_assoc, next_mark_write, firstEnd] at next
          cases next
  | cons mark more induction =>
      have next := congrArg nextMark same
      cases second with
      | nil =>
          simp only [writeMarks, List.flatMap_nil, List.nil_append, List.flatMap_cons,
            List.append_assoc, next_mark_write, secondEnd] at next
          cases next
      | cons other others =>
          simp only [writeMarks, List.flatMap_cons, List.append_assoc, next_mark_write,
            Option.some.injEq, Prod.mk.injEq] at next
          obtain ⟨marks, rests⟩ := induction others next.2
          exact ⟨by rw [next.1, marks], rests⟩

theorem write_boosts_cancel (first second : List Text) (rest later : Text)
    (firstNumbers : ∀ boost ∈ first, IsNumber boost)
    (secondNumbers : ∀ boost ∈ second, IsNumber boost)
    (firstFollows : FollowsClause rest) (secondFollows : FollowsClause later)
    (same : writeBoosts first ++ rest = writeBoosts second ++ later) :
    first = second ∧ rest = later := by
  have stops : ∀ (boosts : List Text) (text : Text), FollowsClause text →
      ∀ c ∈ (writeBoosts boosts ++ text).head?, isNumeric c = false := by
    intro boosts text follows c head
    rcases follows_core_boosts boosts text follows c head with rfl | rfl | rfl <;> decide
  induction first generalizing second with
  | nil =>
      cases second with
      | nil => exact ⟨rfl, same⟩
      | cons boost more =>
          have head := firstFollows '^' (by
            rw [show rest = _ from same]
            simp [writeBoosts])
          exact absurd head (by decide)
  | cons boost more induction =>
      cases second with
      | nil =>
          have head := secondFollows '^' (by
            rw [show later = _ from same.symm]
            simp [writeBoosts])
          exact absurd head (by decide)
      | cons other others =>
          simp only [writeBoosts, List.flatMap_cons, List.cons_append, List.append_assoc,
            List.cons.injEq, true_and] at same
          obtain ⟨boosts, behind⟩ := run_cancel isNumeric boost other _ _
            (number_is_numeric boost (firstNumbers boost (by simp)))
            (number_is_numeric other (secondNumbers other (by simp)))
            (stops more rest firstFollows) (stops others later secondFollows) same
          obtain ⟨equal, rests⟩ := induction others
            (fun text member => firstNumbers text (by simp [member]))
            (fun text member => secondNumbers text (by simp [member])) behind
          exact ⟨by rw [boosts, equal], rests⟩

namespace Leaf

/-- The kind of a core, which is the kind of character that it starts with. -/
def opens : Leaf → Char → Prop
  | .term _ _, c => c = '"' ∨ isBare c = true
  | .range inclusive _ _, c => c = if inclusive then '[' else '{'

theorem opens_write (held : Leaf) (proper : held.Proper Filled Unbroken) (rest : Text) :
    ∃ c later, held.write ++ rest = c :: later ∧ held.opens c := by
  cases held with
  | term value fuzziness =>
      have filled : escapeToken value ≠ [] := by
        rw [Ne, escape_token_eq_nil]
        exact proper.1
      obtain ⟨c, later, written⟩ := List.exists_cons_of_ne_nil filled
      have starts : (Leaf.term value fuzziness).opens c :=
        (escape_token_head value c (by simp [written])).imp id And.left
      cases fuzziness with
      | none => exact ⟨c, later ++ rest, by simp [write, written], starts⟩
      | some text => exact ⟨c, later ++ '~' :: text ++ rest, by simp [write, written], starts⟩
  | range inclusive start stop => cases inclusive <;> exact ⟨_, _, rfl, rfl⟩

theorem not_opens (held : Leaf) (c : Char)
    (sign : c = '+' ∨ c = '-' ∨ c = '(' ∨ c = ':') : ¬ held.opens c := by
  cases held with
  | term value fuzziness =>
      rcases sign with rfl | rfl | rfl | rfl <;>
        simp [opens, isBare, isReserved, reservedChars]
  | range inclusive start stop =>
      cases inclusive <;> rcases sign with rfl | rfl | rfl | rfl <;> simp [opens]

theorem scan_token_write (held : Leaf) (proper : held.Proper Filled Unbroken) (rest : Text)
    (follows : FollowsCore rest) (name later : Text) :
    scanToken (held.write ++ rest) ≠ some (name, ':' :: later) := by
  cases held with
  | term value fuzziness =>
      cases fuzziness with
      | none =>
          rw [write, scan_token_escape value rest (ends_token_of_follows rest follows)]
          intro same
          simp only [Option.some.injEq, Prod.mk.injEq] at same
          have head := follows ':' (by simp [same.2])
          exact absurd head (by decide)
      | some text =>
          rw [write, List.append_assoc, List.cons_append,
            scan_token_escape value _ (ends_token_cons '~' _ rfl (by decide))]
          simp
  | range inclusive start stop =>
      cases inclusive <;> simp [write, scanToken, isBare, isReserved, reservedChars]

theorem term_cancel (first second : Text) (fuzzy other : Option Text) (rest later : Text)
    (firstWeights : ∀ text ∈ fuzzy, WeightText text)
    (secondWeights : ∀ text ∈ other, WeightText text)
    (firstFollows : FollowsCore rest) (secondFollows : FollowsCore later)
    (same : (Leaf.term first fuzzy).write ++ rest = (Leaf.term second other).write ++ later) :
    Leaf.term first fuzzy = Leaf.term second other ∧ rest = later := by
  have stops : ∀ text : Text, FollowsCore text → ∀ c ∈ text.head?, isNumeric c = false := by
    intro text follows c head
    rcases follows c head with rfl | rfl | rfl <;> decide
  have tilde : ∀ text : Text, FollowsCore text → ∀ more, text ≠ '~' :: more := by
    intro text follows more equal
    exact absurd (follows '~' (by simp [equal])) (by decide)
  have fuzzyEnds : ∀ more, EndsToken ('~' :: more) := fun more =>
    ends_token_cons '~' more rfl (by decide)
  cases fuzzy with
  | none =>
      have firstEnds := ends_token_of_follows rest firstFollows
      cases other with
      | none =>
          obtain ⟨values, rests⟩ := escape_token_cancel first second rest later firstEnds
            (ends_token_of_follows later secondFollows) same
          exact ⟨by rw [values], rests⟩
      | some text =>
          simp only [write, List.append_assoc, List.cons_append] at same
          obtain ⟨_, rests⟩ := escape_token_cancel first second rest _ firstEnds (fuzzyEnds _) same
          exact absurd rests (tilde rest firstFollows _)
  | some given =>
      simp only [write, List.append_assoc, List.cons_append] at same
      cases other with
      | none =>
          obtain ⟨_, rests⟩ := escape_token_cancel first second _ later (fuzzyEnds _)
            (ends_token_of_follows later secondFollows) same
          exact absurd rests.symm (tilde later secondFollows _)
      | some text =>
          simp only [List.append_assoc, List.cons_append] at same
          obtain ⟨values, rests⟩ := escape_token_cancel first second _ _ (fuzzyEnds _)
            (fuzzyEnds _) same
          obtain ⟨numbers, behind⟩ := run_cancel isNumeric given text rest later
            (weight_text_numeric given (firstWeights given rfl))
            (weight_text_numeric text (secondWeights text rfl)) (stops rest firstFollows)
            (stops later secondFollows) (List.cons.inj rests).2
          exact ⟨by rw [values, numbers], behind⟩

/-- The bounds of a range are cut at the first space and at the next bracket. -/
theorem bounds_cancel (close : Char) (closes : isBracket close = true)
    (start stop start' stop' rest later : Text) (firstStart : Unbroken start)
    (firstStop : Unbroken stop) (secondStart : Unbroken start') (secondStop : Unbroken stop')
    (same : start ++ ' ' :: 'T' :: 'O' :: ' ' :: (stop ++ close :: rest) =
      start' ++ ' ' :: 'T' :: 'O' :: ' ' :: (stop' ++ close :: later)) :
    start = start' ∧ stop = stop' ∧ rest = later := by
  obtain ⟨starts, behind⟩ := run_cancel (fun c => c != ' ') start start' _ _
    (fun c member => by simpa using (firstStart c member).1)
    (fun c member => by simpa using (secondStart c member).1) (by simp) (by simp) same
  simp only [List.cons.injEq, true_and] at behind
  obtain ⟨stops, rests⟩ := run_cancel (fun c => !isBracket c) stop stop' _ _
    (fun c member => by simpa using (firstStop c member).2)
    (fun c member => by simpa using (secondStop c member).2) (by simpa using closes)
    (by simpa using closes) behind
  exact ⟨starts, stops, (List.cons.inj rests).2⟩

theorem write_cancel (first second : Leaf) (rest later : Text)
    (firstProper : first.Proper Filled Unbroken) (secondProper : second.Proper Filled Unbroken)
    (firstFollows : FollowsCore rest) (secondFollows : FollowsCore later)
    (same : first.write ++ rest = second.write ++ later) : first = second ∧ rest = later := by
  obtain ⟨c, more, firstWritten, firstOpens⟩ := first.opens_write firstProper rest
  obtain ⟨c', more', secondWritten, secondOpens⟩ := second.opens_write secondProper later
  rw [firstWritten, secondWritten] at same
  obtain ⟨rfl, -⟩ := List.cons.inj same
  rw [← secondWritten, ← firstWritten] at same
  cases first with
  | term value fuzziness =>
      cases second with
      | term value' fuzziness' =>
          exact term_cancel value value' fuzziness fuzziness' rest later firstProper.2
            secondProper.2 firstFollows secondFollows same
      | range inclusive start stop =>
          subst secondOpens
          cases inclusive <;> simp [opens, isBare, isReserved, reservedChars] at firstOpens
  | range inclusive start stop =>
      cases second with
      | term value fuzziness =>
          subst firstOpens
          cases inclusive <;> simp [opens, isBare, isReserved, reservedChars] at secondOpens
      | range inclusive' start' stop' =>
          subst firstOpens
          cases inclusive <;> cases inclusive' <;> simp [opens] at secondOpens
          all_goals
            simp only [write, List.cons_append, List.append_assoc, List.nil_append,
              List.cons.injEq, true_and] at same
            obtain ⟨starts, stops, rests⟩ := bounds_cancel _ rfl start stop start' stop' rest
              later firstProper.1 firstProper.2 secondProper.1 secondProper.2 same
            exact ⟨by rw [starts, stops], rests⟩

end Leaf

namespace Reading

theorem write_group_body (operator : Operator) (children : List Reading) (boosts : List Text)
    (marks : List Mark) :
    (group marks operator children boosts).body =
      '(' :: List.intercalate (separator operator) (children.map write) ++
        ')' :: writeBoosts boosts := by
  simp [body, withMarks, write, writeMarks, write_all_eq_map]

theorem next_mark_body (reading : Reading) (proper : reading.Proper Filled Unbroken) (rest : Text)
    (follows : FollowsClause rest) : nextMark (reading.body ++ rest) = none := by
  cases proper with
  | leaf marks held boosts core numbers =>
      simp only [body, withMarks, write, writeMarks, List.flatMap_nil, List.nil_append,
        List.append_assoc]
      have after := follows_core_boosts boosts rest follows
      obtain ⟨c, later, written, opened⟩ := held.opens_write core (writeBoosts boosts ++ rest)
      have unsigned : ∀ sign, sign = '+' ∨ sign = '-' ∨ sign = '(' ∨ sign = ':' →
          sign ∉ (held.write ++ (writeBoosts boosts ++ rest)).head? := by
        intro sign kind head
        rw [written] at head
        have same : c = sign := Option.some.inj head
        exact held.not_opens sign kind (same ▸ opened)
      rw [next_mark_of_unsigned _ (unsigned '+' (by simp)) (unsigned '-' (by simp))]
      split
      · next name tail scanned =>
          exact absurd scanned (held.scan_token_write core _ after name tail)
      · rfl
  | group marks operator children boosts several each numbers =>
      rw [write_group_body]
      rfl

theorem separator_cancel (first second : Operator) (rest later : Text)
    (same : separator first ++ rest = separator second ++ later) :
    first = second ∧ rest = later := by
  cases first <;> cases second <;> simp_all [separator, Operator.keyword]

/-- The children of a group, when each of the first group's is told apart in front of any text
that can follow it. -/
theorem children_cancel (operator operator' : Operator) (children children' : List Reading)
    (rest later : Text) (filled : children ≠ []) (filled' : children' ≠ [])
    (proper : ∀ child ∈ children', child.Proper Filled Unbroken)
    (each : ∀ child ∈ children, ∀ other : Reading, ∀ rest later : Text,
      other.Proper Filled Unbroken → FollowsClause rest → FollowsClause later →
        child.write ++ rest = other.write ++ later → child = other ∧ rest = later)
    (same : List.intercalate (separator operator) (children.map write) ++ ')' :: rest =
      List.intercalate (separator operator') (children'.map write) ++ ')' :: later) :
    children = children' ∧ (2 ≤ children.length → operator = operator') ∧ rest = later := by
  have separates : ∀ (operator : Operator) (text : Text),
      FollowsClause (separator operator ++ text) :=
    fun operator text => follows_clause_cons ' ' _ (Or.inl rfl)
  have closes : ∀ text : Text, FollowsClause (')' :: text) :=
    fun text => follows_clause_cons ')' _ (Or.inr rfl)
  induction children generalizing children' with
  | nil => exact absurd rfl filled
  | cons first more induction =>
      cases children' with
      | nil => exact absurd rfl filled'
      | cons first' more' =>
          have firstProper := proper first' (by simp)
          have cancel := fun rest later => each first (by simp) first' rest later firstProper
          -- Behind a child stands a separator or the end of the group, and the two differ.
          cases more with
          | nil =>
              cases more' with
              | nil =>
                  simp only [List.map_cons, List.map_nil, List.intercalate_singleton] at same
                  obtain ⟨equal, rests⟩ := cancel _ _ (closes rest) (closes later) same
                  exact ⟨by rw [equal], by simp, (List.cons.inj rests).2⟩
              | cons second' more' =>
                  simp only [List.map_cons, List.map_nil, List.intercalate_singleton,
                    List.intercalate_cons_cons, List.append_assoc] at same
                  obtain ⟨_, rests⟩ := cancel _ _ (closes rest) (separates operator' _) same
                  simp [separator] at rests
          | cons second more =>
              cases more' with
              | nil =>
                  simp only [List.map_cons, List.map_nil, List.intercalate_singleton,
                    List.intercalate_cons_cons, List.append_assoc] at same
                  obtain ⟨_, rests⟩ := cancel _ _ (separates operator _) (closes later) same
                  simp [separator] at rests
              | cons second' more' =>
                  simp only [List.map_cons, List.intercalate_cons_cons, List.append_assoc] at same
                  obtain ⟨equal, rests⟩ :=
                    cancel _ _ (separates operator _) (separates operator' _) same
                  obtain ⟨operators, behind⟩ := separator_cancel operator operator' _ _ rests
                  obtain ⟨others, _, ends⟩ := induction (second' :: more') (by simp) (by simp)
                    (fun child member => proper child (List.mem_cons_of_mem _ member))
                    (fun child member => each child (List.mem_cons_of_mem _ member)) behind
                  exact ⟨by rw [equal, others], fun _ => operators, ends⟩

theorem leaf_body_ne_group (held : Leaf) (proper : held.Proper Filled Unbroken) (boosts : List Text)
    (rest more : Text) :
    (leaf [] held boosts).body ++ rest ≠ '(' :: more := by
  intro same
  obtain ⟨c, later, written, opened⟩ := held.opens_write proper (writeBoosts boosts ++ rest)
  simp only [body, withMarks, write, writeMarks, List.flatMap_nil, List.nil_append,
    List.append_assoc, written] at same
  exact held.not_opens c (by simp [(List.cons.inj same).1]) opened

/-- Proper readings are told apart in front of all that can follow a clause. -/
theorem write_cancel (first second : Reading) (rest later : Text)
    (firstProper : first.Proper Filled Unbroken) (secondProper : second.Proper Filled Unbroken)
    (firstFollows : FollowsClause rest) (secondFollows : FollowsClause later)
    (same : first.write ++ rest = second.write ++ later) : first = second ∧ rest = later := by
  -- The marks go first; the induction is on the children behind them.
  induction first generalizing second rest later with
  | leaf marks held boosts =>
      rw [write_eq_marks_body, write_eq_marks_body, List.append_assoc, List.append_assoc] at same
      obtain ⟨fronts, bodies⟩ := write_marks_cancel _ _ _ _
        (next_mark_body _ firstProper rest firstFollows)
        (next_mark_body _ secondProper later secondFollows) same
      cases firstProper with
      | leaf _ _ _ core numbers =>
          cases secondProper with
          | leaf marks' held' boosts' core' numbers' =>
              simp only [body, withMarks, write, writeMarks, List.flatMap_nil, List.nil_append,
                List.append_assoc] at bodies
              obtain ⟨cores, behind⟩ := held.write_cancel held' _ _ core core'
                (follows_core_boosts boosts rest firstFollows)
                (follows_core_boosts boosts' later secondFollows) bodies
              obtain ⟨backs, rests⟩ := write_boosts_cancel boosts boosts' rest later numbers
                numbers' firstFollows secondFollows behind
              exact ⟨by rw [show marks = marks' from fronts, cores, backs], rests⟩
          | group marks' operator children boosts' several each numbers' =>
              rw [write_group_body] at bodies
              exact absurd bodies (leaf_body_ne_group held core boosts rest _)
  | group marks operator children boosts induction =>
      rw [write_eq_marks_body, write_eq_marks_body, List.append_assoc, List.append_assoc] at same
      obtain ⟨fronts, bodies⟩ := write_marks_cancel _ _ _ _
        (next_mark_body _ firstProper rest firstFollows)
        (next_mark_body _ secondProper later secondFollows) same
      rw [write_group_body] at bodies
      cases firstProper with
      | group _ _ _ _ several each numbers =>
          cases secondProper with
          | leaf marks' held boosts' core numbers' =>
              exact absurd bodies.symm (leaf_body_ne_group held core boosts' later _)
          | group marks' operator' children' boosts' several' each' numbers' =>
              rw [write_group_body] at bodies
              simp only [List.cons_append, List.append_assoc, List.cons.injEq, true_and] at bodies
              obtain ⟨inner, operators, behind⟩ := children_cancel operator operator' children
                children' _ _ (by rintro rfl; simp at several) (by rintro rfl; simp at several')
                each' (fun child member other rest later otherProper =>
                  induction child member other rest later (each child member) otherProper) bodies
              obtain ⟨backs, rests⟩ := write_boosts_cancel boosts boosts' rest later numbers
                numbers' firstFollows secondFollows behind
              exact ⟨by rw [show marks = marks' from fronts, operators several, inner, backs],
                rests⟩

theorem write_injective (first second : Reading) (firstProper : first.Proper Filled Unbroken)
    (secondProper : second.Proper Filled Unbroken) (same : first.write = second.write) :
    first = second := by
  have none : FollowsClause [] := by simp [FollowsClause]
  exact (write_cancel first second [] [] firstProper secondProper none none
    (by rw [same])).1

end Reading

/-- No group can take anything off a name like this: a space in front puts it between quotes. -/
def KeepsFront (field : Text) : Prop := ∀ c ∈ field.head?, Text.isBlank c = true → c = ' '

instance (field : Text) : Decidable (KeepsFront field) :=
  Option.decidableForallMem field.head?

theorem trimmed_of_keeps_front (name : Text) (keeps : KeepsFront name) :
    (Mark.field name).trimmed = .field name := by
  cases quotes : needsQuotes name with
  | true => simp [Mark.trimmed, quotes]
  | false =>
      have bare := (needs_quotes_false_iff name).mp quotes
      have starts : Text.startsBlank name = false := by
        cases name with
        | nil => rfl
        | cons c rest =>
            have first := bare c (by simp)
            cases blank : Text.isBlank c with
            | false => simp [Text.startsBlank, blank]
            | true =>
                rw [keeps c (by simp) blank] at first
                exact absurd first (by decide)
      simp [Mark.trimmed, quotes, Text.trim_start_of_starts name starts]

/-- A reading that trimming leaves as it is. -/
def Reading.Settled (reading : Reading) : Prop := ∀ mark ∈ reading.marks, mark.trimmed = mark

theorem Reading.trimmed_of_settled (reading : Reading) (settled : reading.Settled) :
    reading.trimmed = reading := by
  unfold trimmed
  split
  · rfl
  · next mark later same =>
      rw [settled mark (by simp [same]), ← same]
      cases reading <;> rfl

theorem Decoration.surround_settled (decoration : Decoration) (reading : Reading)
    (keeps : KeepsFront decoration.field) (settled : reading.Settled) :
    (decoration.surround reading).Settled := by
  have front : ∀ mark ∈ decoration.marks, mark.trimmed = mark := by
    intro mark member
    rcases List.mem_append.mp member with sign | field
    · cases mode : decoration.exclusion <;> simp only [mode, List.not_mem_nil] at sign
      all_goals
        rw [List.mem_singleton.mp sign]
        rfl
    · by_cases unset : decoration.field.isEmpty = true
      · simp [unset] at field
      · simp only [unset, Bool.false_eq_true, if_false, List.mem_singleton] at field
        rw [field]
        exact trimmed_of_keeps_front _ keeps
  intro mark member
  have either : mark ∈ decoration.marks ++ reading.marks := by
    cases reading <;> exact member
  exact (List.mem_append.mp either).elim (front mark) (settled mark)

theorem Reading.join_settled (operator : Operator) (children : List Reading)
    (each : ∀ child ∈ children, child.Settled) (reading : Reading)
    (joined : join operator children = some reading) : reading.Settled := by
  unfold join at joined
  split at joined
  · cases joined
  · cases joined
    exact each reading (by simp)
  · cases joined
    simp [Settled, marks]

namespace Node

theorem outline_settled (node : Node)
    (fields : ∀ inner ∈ node.nodes, KeepsFront inner.decoration.field) :
    ∀ reading, node.outline = some reading → reading.Settled := by
  have bare : ∀ leaf, (Reading.leaf [] leaf []).Settled := by simp [Reading.Settled, Reading.marks]
  refine node.reading_by_induct Reading.trimmed ?_ ?_ ?_
  · intro held member leaf _
    exact held.decoration.surround_settled _ (fields _ member) (bare leaf)
  · intro held member leaf _
    exact held.decoration.surround_settled _ (fields _ member) (bare leaf)
  · intro inner member operator children joined each parts
    have settled := Reading.join_settled operator children each joined parts
    rw [joined.trimmed_of_settled settled]
    exact inner.decoration.surround_settled joined (fields _ member) settled

theorem adopt_of_settled (decoration : Decoration) (operator : Operator) (children : List Reading)
    (each : ∀ child ∈ children, child.Settled) :
    ((Reading.join operator children).map fun reading => decoration.surround (id reading)) =
      (Reading.join operator children).map fun reading => decoration.surround reading.trimmed := by
  cases joined : Reading.join operator children with
  | none => rfl
  | some found =>
      have settled := Reading.join_settled operator children each found joined
      simp [found.trimmed_of_settled settled]

theorem reading_eq_outline (node : Node)
    (fields : ∀ inner ∈ node.nodes, KeepsFront inner.decoration.field) :
    node.reading = node.outline := by
  induction node with
  | term held => rfl
  | range held => rfl
  | terms held =>
      apply adopt_of_settled held.decoration held.operator
      intro child member
      obtain ⟨term, inside, shows⟩ := List.mem_filterMap.mp member
      refine (Node.term term).outline_settled ?_ child shows
      intro inner self
      rw [nodes, List.mem_singleton] at self
      exact self ▸ fields _ (term_mem_nodes held term inside)
  | group operator children decoration induction =>
      have below := fun child member inner deep =>
        fields inner (child_nodes_subset operator children decoration child inner member deep)
      have parts : readingsBy id children = readingsBy Reading.trimmed children := by
        rw [readings_by_eq, readings_by_eq]
        exact List.filterMap_congr fun child member => induction child member (below child member)
      rw [reading, outline, readingBy, readingBy, parts]
      apply adopt_of_settled decoration operator
      intro child member
      rw [readings_by_eq] at member
      obtain ⟨inner, inside, shows⟩ := List.mem_filterMap.mp member
      exact inner.outline_settled (below inner inside) child shows

theorem outline_filled (node : Node)
    (bounds : ∀ inner ∈ node.nodes, ∀ text ∈ inner.boundTexts, Unbroken text) (reading : Reading)
    (found : node.outline = some reading) : reading.Proper Filled Unbroken :=
  (node.outline_proper bounds reading found).mono reading (fun _ solid => solid.1)
    fun _ unbroken => unbroken

/-- Trees that render to one text have one canonical reading. -/
theorem rendering_uniquely_readable (first second : Node)
    (fields : ∀ inner ∈ first.nodes ++ second.nodes, KeepsFront inner.decoration.field)
    (bounds : ∀ inner ∈ first.nodes ++ second.nodes, ∀ text ∈ inner.boundTexts, Unbroken text)
    (filled : first.render ≠ []) (same : first.render = second.render) :
    ∃ reading, first.reading = some reading ∧ second.reading = some reading := by
  have firstKept := first.reading_eq_outline fun inner member =>
    fields inner (List.mem_append_left _ member)
  have secondKept := second.reading_eq_outline fun inner member =>
    fields inner (List.mem_append_right _ member)
  obtain ⟨reading, firstFound⟩ := Option.ne_none_iff_exists'.mp
    (mt first.reading_eq_none_iff.mp filled)
  obtain ⟨other, secondFound⟩ := Option.ne_none_iff_exists'.mp
    (mt second.reading_eq_none_iff.mp (same ▸ filled))
  have firstProper := first.outline_filled
    (fun inner member => bounds inner (List.mem_append_left _ member)) reading
    (firstKept ▸ firstFound)
  have secondProper := second.outline_filled
    (fun inner member => bounds inner (List.mem_append_right _ member)) other
    (secondKept ▸ secondFound)
  rw [render_eq_shown, render_eq_shown, ← firstKept, ← secondKept, firstFound, secondFound] at same
  have equal := reading.write_injective other firstProper secondProper same
  exact ⟨reading, firstFound, equal ▸ secondFound⟩

/-- A pair of terms with its marks on the group around it. -/
def wrappedPair : Node :=
  .group .or
    [.term .unset,
      .terms ⟨[.ofText [' ', 'a', ' ', 'b'], .unset, .ofText ['x']], .and,
        ⟨['f', ' '], .none, ⟨2, by decide⟩⟩⟩,
      .range (.unset .date)]
    ⟨['t'], .require, .zero⟩

/-- The same pair as a group of clauses, with the marks on two levels around it. -/
def nestedPair : Node :=
  .group .and
    [.group .or
      [.group .and [.term (.ofText ['a', ' ', 'b']), .term (.ofText ['x', ' '])]
        ⟨[], .none, ⟨2, by decide⟩⟩]
      ⟨['f', ' '], .none, .zero⟩]
    ⟨['t'], .require, .zero⟩

theorem pairs_read_alike :
    wrappedPair.render ≠ [] ∧ wrappedPair.render = nestedPair.render ∧
      ∃ reading, wrappedPair.reading = some reading ∧ nestedPair.reading = some reading :=
  ⟨by decide, by decide,
    rendering_uniquely_readable wrappedPair nestedPair (by decide) (by decide) (by decide)
      (by decide)⟩

end Node

end LuceneQuery
