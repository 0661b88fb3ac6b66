import LuceneQuery.Proofs.Trim

/-!
# Reading a token back

An escaped token in front of further text is read back: a token between quotes up to its
closing quote, whatever follows, and a bare one up to the first character that no bare token
holds.
-/

namespace LuceneQuery

set_option autoImplicit false

def isBare (c : Char) : Bool := !(isReserved c || c == ' ')

/-- From behind the opening quote, where a backslash hands over the character after it. -/
def scanQuoted : Text → Option (Text × Text)
  | [] => none
  | '"' :: rest => some ([], rest)
  | '\\' :: c :: rest => (scanQuoted rest).map fun (token, later) => (c :: token, later)
  | c :: rest => (scanQuoted rest).map fun (token, later) => (c :: token, later)

/-- A bare token may be empty. -/
def scanToken : Text → Option (Text × Text)
  | '"' :: rest => scanQuoted rest
  | text => some (text.takeWhile isBare, text.dropWhile isBare)

/-- What a bare token stops at. -/
def EndsToken (rest : Text) : Prop := ∀ c ∈ rest.head?, isBare c = false ∧ c ≠ '"'

theorem ends_token_cons (c : Char) (rest : Text) (stops : isBare c = false) (plain : c ≠ '"') :
    EndsToken (c :: rest) := by
  simp [EndsToken, stops, plain]

theorem scan_quoted_plain (c : Char) (rest : Text) (quote : c ≠ '"') (backslash : c ≠ '\\') :
    scanQuoted (c :: rest) = (scanQuoted rest).map fun (token, later) => (c :: token, later) := by
  rw [scanQuoted] <;> simp_all

theorem scan_quoted_escape (token rest : Text) :
    scanQuoted (token.flatMap escapeChar ++ '"' :: rest) = some (token, rest) := by
  induction token with
  | nil => rfl
  | cons c later induction =>
      by_cases reserved : isReserved c = true
      · simp only [List.flatMap_cons, escapeChar, reserved, if_true, List.cons_append,
          List.nil_append]
        rw [scanQuoted, induction]
        rfl
      · have quote : c ≠ '"' := by rintro rfl; exact reserved rfl
        have backslash : c ≠ '\\' := by rintro rfl; exact reserved rfl
        simp only [List.flatMap_cons, escapeChar, reserved, Bool.false_eq_true, if_false,
          List.cons_append, List.nil_append]
        rw [scan_quoted_plain _ _ quote backslash, induction]
        rfl

theorem needs_quotes_false_iff (token : Text) :
    needsQuotes token = false ↔ ∀ c ∈ token, isBare c = true := by
  simp [needsQuotes, isBare]

theorem reserved_of_bare (c : Char) (bare : isBare c = true) : isReserved c = false := by
  simp only [isBare, Bool.not_eq_true', Bool.or_eq_false_iff] at bare
  exact bare.1

theorem flat_map_escape_char_of_bare (token : Text) (bare : ∀ c ∈ token, isBare c = true) :
    token.flatMap escapeChar = token := by
  induction token with
  | nil => rfl
  | cons c later induction =>
      have free : isReserved c = false := reserved_of_bare c (bare c (by simp))
      simp only [List.flatMap_cons, escapeChar, free]
      rw [induction (by intro next member; exact bare next (by simp [member]))]
      rfl

theorem escape_token_of_bare (token : Text) (plain : needsQuotes token = false) :
    escapeToken token = token := by
  have bare := (needs_quotes_false_iff token).mp plain
  simp [escapeToken, escape, plain, flat_map_escape_char_of_bare token bare]

theorem escape_token_of_quotes (token : Text) (quotes : needsQuotes token = true) :
    escapeToken token = '"' :: (token.flatMap escapeChar ++ ['"']) := by
  simp [escapeToken, escape, quotes]

theorem escape_token_eq_nil (token : Text) : escapeToken token = [] ↔ token = [] := by
  cases quotes : needsQuotes token with
  | false => rw [escape_token_of_bare token quotes]
  | true =>
      rw [escape_token_of_quotes token quotes]
      constructor
      · intro impossible
        simp at impossible
      · rintro rfl
        simp [needsQuotes] at quotes

theorem scan_token_escape (token rest : Text) (ends : EndsToken rest) :
    scanToken (escapeToken token ++ rest) = some (token, rest) := by
  cases quotes : needsQuotes token with
  | true =>
      rw [escape_token_of_quotes token quotes]
      simp only [List.cons_append, List.append_assoc, List.nil_append, scanToken]
      exact scan_quoted_escape token rest
  | false =>
      have bare := (needs_quotes_false_iff token).mp quotes
      rw [escape_token_of_bare token quotes]
      have unquoted : ∀ later, token ++ rest ≠ '"' :: later := by
        intro later same
        cases token with
        | nil =>
            rw [List.nil_append] at same
            exact (ends '"' (by simp [same])).2 rfl
        | cons c more =>
            have first := bare c (by simp)
            simp only [List.cons_append, List.cons.injEq] at same
            rw [same.1] at first
            exact absurd first (by decide)
      have stop : rest.takeWhile isBare = [] ∧ rest.dropWhile isBare = rest := by
        cases rest with
        | nil => simp
        | cons c later => simp [(ends c (by simp)).1]
      rw [scanToken]
      · rw [List.takeWhile_append_of_pos bare, List.dropWhile_append_of_pos bare,
          stop.1, stop.2, List.append_nil]
      · exact unquoted

/-- Tokens in front of texts that end them are told apart by what is written. -/
theorem escape_token_cancel (first second rest later : Text) (firstEnds : EndsToken rest)
    (secondEnds : EndsToken later)
    (same : escapeToken first ++ rest = escapeToken second ++ later) :
    first = second ∧ rest = later := by
  have read := scan_token_escape first rest firstEnds
  rw [same, scan_token_escape second later secondEnds] at read
  simp only [Option.some.injEq, Prod.mk.injEq] at read
  exact ⟨read.1.symm, read.2.symm⟩

/-- A written token starts with a quote or with one of its own bare characters. -/
theorem escape_token_head (token : Text) (c : Char) (head : c ∈ (escapeToken token).head?) :
    c = '"' ∨ isBare c = true ∧ c ∈ token.head? := by
  cases quotes : needsQuotes token with
  | true =>
      rw [escape_token_of_quotes token quotes] at head
      left
      simpa using head.symm
  | false =>
      have bare := (needs_quotes_false_iff token).mp quotes
      rw [escape_token_of_bare token quotes] at head
      exact Or.inr ⟨bare c (List.mem_of_mem_head? head), head⟩

theorem starts_blank_escape_token (token : Text) (starts : Text.startsBlank token = false) :
    Text.startsBlank (escapeToken token) = false := by
  cases quotes : needsQuotes token with
  | true =>
      rw [escape_token_of_quotes token quotes]
      rfl
  | false => rwa [escape_token_of_bare token quotes]

theorem ends_blank_escape_token (token : Text) (ends : Text.endsBlank token = false) :
    Text.endsBlank (escapeToken token) = false := by
  cases quotes : needsQuotes token with
  | true =>
      rw [escape_token_of_quotes token quotes]
      apply Text.ends_blank_cons_of_solid _ _ (by decide)
      rw [Text.ends_blank_append_cons]
      rfl
  | false => rwa [escape_token_of_bare token quotes]

end LuceneQuery
