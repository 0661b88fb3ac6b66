import LuceneQuery.Proofs.Token

/-!
# An escaped token by itself

An escaped token is written bare or between quotes. Between quotes it ends at its own closing quote,
whatever follows, because every reserved character in it, quotes and backslashes included, stands
behind a backslash. Either way the token can be had back, so no two tokens are written alike.
-/

namespace LuceneQuery

set_option autoImplicit false

/-- What `scanQuoted` meets before the closing quote and not behind a backslash. -/
def metOutside : Text → Text
  | [] => []
  | '"' :: _ => []
  | '\\' :: _ :: rest => metOutside rest
  | c :: rest => c :: metOutside rest

/-- A bare token stays as it is, and one between quotes has to end at its closing quote. -/
def unescape : Text → Option Text
  | '"' :: rest =>
      match scanQuoted rest with
      | some (token, []) => some token
      | _ => none
  | text => some text

theorem met_outside_plain (c : Char) (rest : Text) (quote : c ≠ '"') (backslash : c ≠ '\\') :
    metOutside (c :: rest) = c :: metOutside rest := by
  rw [metOutside] <;> simp_all

theorem met_outside_escape (token rest : Text) :
    metOutside (token.flatMap escapeChar ++ '"' :: rest) = token.filter fun c => !isReserved c := by
  induction token with
  | nil => rfl
  | cons c later induction =>
      rw [List.flatMap_cons, List.append_assoc, List.filter_cons, ← induction]
      by_cases reserved : isReserved c = true
      · simp [escapeChar, reserved, metOutside]
      · have quote : c ≠ '"' := by rintro rfl; exact reserved rfl
        have backslash : c ≠ '\\' := by rintro rfl; exact reserved rfl
        simp [escapeChar, reserved, met_outside_plain c _ quote backslash]

theorem escape_of_bare (token : Text) (bare : needsQuotes token = false) :
    escape token false = token := escape_token_of_bare token bare

theorem escape_of_quotes (token : Text) (force : Bool)
    (quotes : (force || needsQuotes token) = true) :
    escape token force = '"' :: token.flatMap escapeChar ++ ['"'] := by
  simp [escape, quotes]

theorem unescape_of_bare (token : Text) (bare : needsQuotes token = false) :
    unescape token = some token := by
  unfold unescape
  split
  · next rest =>
      have first := (needs_quotes_false_iff _).mp bare '"' (by simp)
      exact absurd first (by decide)
  · rfl

theorem unescape_escape (token : Text) (force : Bool) :
    unescape (escape token force) = some token := by
  cases quotes : force || needsQuotes token with
  | true =>
      rw [escape_of_quotes token force quotes, List.cons_append, unescape, scan_quoted_escape]
  | false =>
      obtain ⟨rfl, bare⟩ := Bool.or_eq_false_iff.mp quotes
      rw [escape_of_bare token bare, unescape_of_bare token bare]

/-- An escaped token is the token, bare and unforced, or a string that closes where it ends and
holds no reserved character outside its escapes. The token can be had back from it. -/
theorem escape_self_delimiting (token : Text) (force : Bool) :
    ((escape token force = token ∧ (∀ c ∈ token, isReserved c = false ∧ c ≠ ' ') ∧
        force = false) ∨
      ∃ inner, escape token force = '"' :: inner ++ ['"'] ∧
        ∀ rest, scanQuoted (inner ++ '"' :: rest) = some (token, rest) ∧
          ∀ c ∈ metOutside (inner ++ '"' :: rest), isReserved c = false) ∧
    unescape (escape token force) = some token ∧
    ∀ other otherForce, escape other otherForce = escape token force → other = token := by
  refine ⟨?_, unescape_escape token force, fun other otherForce same => ?_⟩
  · cases quotes : force || needsQuotes token with
    | true =>
        refine .inr ⟨_, escape_of_quotes token force quotes, fun rest => ?_⟩
        refine ⟨scan_quoted_escape token rest, fun c member => ?_⟩
        rw [met_outside_escape, List.mem_filter] at member
        simpa using member.2
    | false =>
        obtain ⟨rfl, bare⟩ := Bool.or_eq_false_iff.mp quotes
        refine .inl ⟨escape_of_bare token bare, fun c member => ?_, rfl⟩
        simpa [isBare] using (needs_quotes_false_iff token).mp bare c member
  · have read := unescape_escape other otherForce
    rw [same, unescape_escape] at read
    exact (Option.some.inj read).symm

/-- A backslash at the end of a token does not take the closing quote with it. -/
example : escape ['a', '\\'] false = ['"', 'a', '\\', '\\', '"'] := by decide

end LuceneQuery
