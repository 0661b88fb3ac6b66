import Mathlib.Tactic.SplitIfs
import LuceneQuery.Proofs.Token

/-!
# The skeleton of a query text

What a search engine's lexer makes of a text: which characters and keywords stand in it, and
where a token stands. What a token says is not part of the skeleton.

A token that is written into a query should be one token of it. This holds for what is put
between quotes; what is left bare may be a keyword, or hold white space other than a space.
-/

namespace LuceneQuery

set_option autoImplicit false

/-- The white space of the query syntax, which is less than `Text.isBlank`. -/
def isSeparator (c : Char) : Bool :=
  c == ' ' || c == '\t' || c == '\r' || c == '\n' || c == '\u3000'

theorem blank_of_separator (c : Char) (separates : isSeparator c = true) :
    Text.isBlank c = true := by
  simp only [isSeparator, Bool.or_eq_true, beq_iff_eq] at separates
  rcases separates with (((rfl | rfl) | rfl) | rfl) | rfl <;> decide

def keywords : List Text := [['A', 'N', 'D'], ['O', 'R'], ['N', 'O', 'T']]

inductive Lexeme where
  | token
  | keyword (word : Text)
  | symbol (c : Char)
  deriving DecidableEq, Repr

def wordLexeme (word : Text) : Lexeme :=
  if keywords.contains word then .keyword word else .token

inductive Lexer where
  | between
  | word (read : Text)
  | quoted
  | escaped
  deriving DecidableEq, Repr

namespace Lexer

/-- What the end of the text makes of the state. Quotes that are left open are a token. -/
def pending : Lexer → List Lexeme
  | .between => []
  | .word read => [wordLexeme read]
  | .quoted => [.token]
  | .escaped => [.token]

def extend : Lexer → Char → Lexer
  | .word read, c => .word (read ++ [c])
  | _, c => .word [c]

/-- A step outside of quotes. -/
def stepOpen (lexer : Lexer) (c : Char) : List Lexeme × Lexer :=
  if c = '"' then (lexer.pending, .quoted)
  else if isSeparator c then (lexer.pending, .between)
  else if isReserved c then (lexer.pending ++ [.symbol c], .between)
  else ([], lexer.extend c)

def step (lexer : Lexer) (c : Char) : List Lexeme × Lexer :=
  match lexer with
  | .quoted =>
      if c = '"' then ([.token], .between)
      else if c = '\\' then ([], .escaped)
      else ([], .quoted)
  | .escaped => ([], .quoted)
  | outside => outside.stepOpen c

def after : Lexer → Text → Lexer
  | lexer, [] => lexer
  | lexer, c :: rest => (lexer.step c).2.after rest

def emitted : Lexer → Text → List Lexeme
  | _, [] => []
  | lexer, c :: rest => (lexer.step c).1 ++ (lexer.step c).2.emitted rest

def lex (lexer : Lexer) (text : Text) : List Lexeme :=
  lexer.emitted text ++ (lexer.after text).pending

end Lexer

def skeleton (text : Text) : List Lexeme := Lexer.between.lex text

namespace Lexer

theorem after_append (lexer : Lexer) (first later : Text) :
    lexer.after (first ++ later) = (lexer.after first).after later := by
  induction first generalizing lexer with
  | nil => rfl
  | cons c rest induction => exact induction (lexer.step c).2

theorem lex_nil (lexer : Lexer) : lexer.lex [] = lexer.pending := rfl

theorem lex_cons (lexer : Lexer) (c : Char) (rest : Text) :
    lexer.lex (c :: rest) = (lexer.step c).1 ++ (lexer.step c).2.lex rest := by
  simp [lex, emitted, after]

theorem lex_append (lexer : Lexer) (first later : Text) :
    lexer.lex (first ++ later) = lexer.emitted first ++ (lexer.after first).lex later := by
  induction first generalizing lexer with
  | nil => rfl
  | cons c rest induction =>
      rw [List.cons_append, lex_cons, induction, emitted, after, List.append_assoc]

end Lexer

/-- What a word stops at. -/
def isBoundary (c : Char) : Bool := isSeparator c || isReserved c

def StartsBoundary (text : Text) : Prop := ∀ c ∈ text.head?, isBoundary c = true

namespace Lexer

theorem step_between_separator (c : Char) (separates : isSeparator c = true) :
    between.step c = ([], .between) := by
  have quote : c ≠ '"' := by
    rintro rfl
    exact absurd separates (by decide)
  simp [step, stepOpen, pending, separates, quote]

/-- A word that is read goes out before anything else does. -/
theorem lex_word_of_boundary (read rest : Text) (boundary : StartsBoundary rest) :
    (word read).lex rest = wordLexeme read :: between.lex rest := by
  cases rest with
  | nil => rfl
  | cons c later =>
      have first : isBoundary c = true := boundary c (by simp)
      have stepped : (word read).step c =
          (wordLexeme read :: (between.step c).1, (between.step c).2) := by
        simp only [isBoundary, Bool.or_eq_true] at first
        by_cases quote : c = '"'
        · simp [step, stepOpen, pending, quote]
        · by_cases separates : isSeparator c = true
          · simp [step, stepOpen, pending, quote, separates]
          · have reserved : isReserved c = true := first.resolve_left separates
            simp [step, stepOpen, pending, quote, separates, reserved]
      rw [lex_cons, lex_cons, stepped, List.cons_append]

/-- Only white space outside of words and quotes leaves no trace. -/
theorem step_leaves_trace (lexer : Lexer) (c : Char)
    (solid : lexer ≠ .between ∨ isSeparator c = false) :
    (lexer.step c).1 ≠ [] ∨ (lexer.step c).2 ≠ .between := by
  cases lexer with
  | between =>
      have inside : isSeparator c = false := by simpa using solid
      simp only [step, stepOpen, pending, extend, inside]
      split_ifs <;> simp_all
  | word read =>
      simp only [step, stepOpen, pending, extend]
      split_ifs <;> simp
  | quoted =>
      simp only [step]
      split_ifs <;> simp
  | escaped => simp [step]

theorem lex_ne_nil (lexer : Lexer) (text : Text)
    (solid : lexer ≠ .between ∨ ∃ c ∈ text, isSeparator c = false) : lexer.lex text ≠ [] := by
  induction text generalizing lexer with
  | nil =>
      have owes : lexer ≠ .between := by simpa using solid
      cases lexer <;> simp_all [lex_nil, pending]
  | cons c rest induction =>
      rw [lex_cons]
      by_cases trace : lexer ≠ .between ∨ isSeparator c = false
      · rcases lexer.step_leaves_trace c trace with emits | owing
        · simp [emits]
        · simp [induction _ (Or.inl owing)]
      · simp only [not_or, ne_eq, Decidable.not_not, Bool.not_eq_false] at trace
        obtain ⟨rfl, separates⟩ := trace
        have later : ∃ next ∈ rest, isSeparator next = false := by
          obtain ⟨next, member, inside⟩ := solid.resolve_left (by simp)
          rcases List.mem_cons.mp member with rfl | further
          · simp [separates] at inside
          · exact ⟨next, further, inside⟩
        rw [step_between_separator c separates]
        exact induction .between (Or.inr later)

def Outside : Lexer → Prop
  | .between => True
  | .word _ => True
  | .quoted => False
  | .escaped => False

theorem lex_of_boundary (lexer : Lexer) (rest : Text) (outside : lexer.Outside)
    (boundary : StartsBoundary rest) : lexer.lex rest = lexer.pending ++ between.lex rest := by
  cases lexer with
  | between => rfl
  | word read => exact lex_word_of_boundary read rest boundary
  | quoted => exact outside.elim
  | escaped => exact outside.elim

theorem step_outside (lexer : Lexer) (c : Char) (outside : lexer.Outside) (quote : c ≠ '"') :
    (lexer.step c).2.Outside := by
  cases lexer with
  | between =>
      simp only [step, stepOpen, extend, if_neg quote]
      split_ifs <;> trivial
  | word read =>
      simp only [step, stepOpen, extend, if_neg quote]
      split_ifs <;> trivial
  | quoted => exact outside.elim
  | escaped => exact outside.elim

theorem after_outside (lexer : Lexer) (text : Text) (outside : lexer.Outside)
    (unquoted : '"' ∉ text) : (lexer.after text).Outside := by
  induction text generalizing lexer with
  | nil => exact outside
  | cons c rest induction =>
      simp only [List.mem_cons, not_or] at unquoted
      exact induction _ (lexer.step_outside c outside (Ne.symm unquoted.1)) unquoted.2

theorem lex_plain_append (lexer : Lexer) (text rest : Text) (outside : lexer.Outside)
    (plain : ∀ c ∈ text, isReserved c = false) (boundary : StartsBoundary rest) :
    lexer.lex (text ++ rest) = lexer.lex text ++ between.lex rest := by
  induction text generalizing lexer with
  | nil => exact lexer.lex_of_boundary rest outside boundary
  | cons c later induction =>
      have quote : c ≠ '"' := by
        rintro rfl
        exact absurd (plain '"' (by simp)) (by decide)
      have next := lexer.step_outside c outside quote
      rw [List.cons_append, lex_cons, lex_cons, List.append_assoc,
        induction _ next fun inner member => plain inner (by simp [member])]

/-- Characters between quotes are passed over, a backslash with the character behind it. -/
theorem quoted_escape (token : Text) :
    quoted.emitted (token.flatMap escapeChar) = [] ∧
      quoted.after (token.flatMap escapeChar) = .quoted := by
  induction token with
  | nil => exact ⟨rfl, rfl⟩
  | cons c rest induction =>
      by_cases reserved : isReserved c = true
      · simpa [escapeChar, reserved, emitted, after, step] using induction
      · have quote : c ≠ '"' := by rintro rfl; exact reserved rfl
        have backslash : c ≠ '\\' := by rintro rfl; exact reserved rfl
        simpa [escapeChar, reserved, emitted, after, step, quote, backslash] using induction

end Lexer

theorem skeleton_of_quotes_append (token rest : Text) (quotes : needsQuotes token = true) :
    skeleton (escapeToken token ++ rest) = .token :: skeleton rest := by
  have passed := Lexer.quoted_escape token
  rw [escape_token_of_quotes token quotes, skeleton]
  simp only [List.cons_append, List.append_assoc]
  rw [Lexer.lex_cons, show Lexer.between.step '"' = ([], .quoted) from rfl,
    Lexer.lex_append, passed.1, passed.2]
  rfl

theorem skeleton_of_quotes (token : Text) (quotes : needsQuotes token = true) :
    skeleton (escapeToken token) = [.token] := by
  rw [← List.append_nil (escapeToken token), skeleton_of_quotes_append token [] quotes]
  rfl

theorem skeleton_escape_append (token rest : Text) (boundary : StartsBoundary rest) :
    skeleton (escapeToken token ++ rest) = skeleton (escapeToken token) ++ skeleton rest := by
  cases quotes : needsQuotes token with
  | true =>
      rw [skeleton_of_quotes_append token rest quotes, skeleton_of_quotes token quotes,
        List.singleton_append]
  | false =>
      have bare := (needs_quotes_false_iff token).mp quotes
      rw [escape_token_of_bare token quotes]
      exact Lexer.lex_plain_append .between token rest trivial
        (fun c member => reserved_of_bare c (bare c member)) boundary

/-- The words between the separators of a text. -/
def separated (text : Text) : List Text :=
  (text.splitOnP isSeparator).filter fun word => !word.isEmpty

/-- What a word that is read so far makes of the state. -/
def Lexer.reading (read : Text) : Lexer := if read.isEmpty then .between else .word read

theorem lex_reading (read text : Text) (plain : ∀ c ∈ text, isReserved c = false) :
    (Lexer.reading read).lex text =
      ((text.splitOnPPrepend isSeparator read.reverse).filter fun word => !word.isEmpty).map
        wordLexeme := by
  induction text generalizing read with
  | nil => cases read <;> simp [Lexer.reading, Lexer.lex_nil, Lexer.pending]
  | cons c rest induction =>
      have later := fun read => induction read fun next member => plain next (by simp [member])
      have quote : c ≠ '"' := by
        rintro rfl
        exact absurd (plain '"' (by simp)) (by decide)
      rw [Lexer.lex_cons]
      by_cases separates : isSeparator c = true
      · have fresh := later []
        rw [List.splitOnPPrepend_cons_pos separates, List.reverse_reverse]
        simp only [List.reverse_nil, List.splitOnPPrepend_nil_right] at fresh
        cases read <;>
          simpa [Lexer.reading, Lexer.step, Lexer.stepOpen, Lexer.pending, separates, quote]
            using fresh
      · have longer := later (read ++ [c])
        rw [List.splitOnPPrepend_cons_neg (by simpa using separates)]
        cases read <;>
          simpa [Lexer.reading, Lexer.step, Lexer.stepOpen, Lexer.extend, separates, quote,
            plain c] using longer

theorem skeleton_of_bare (token : Text) (plain : needsQuotes token = false) :
    skeleton (escapeToken token) = (separated token).map wordLexeme := by
  have bare := (needs_quotes_false_iff token).mp plain
  rw [escape_token_of_bare token plain]
  exact lex_reading [] token fun c member => reserved_of_bare c (bare c member)

/-- A token that a lexer takes as one: it is put between quotes, or it holds one word, which is
no keyword. -/
def Inert (token : Text) : Prop :=
  needsQuotes token = true ∨ ∃ word, separated token = [word] ∧ word ∉ keywords

theorem skeleton_escape_token_iff (token : Text) :
    skeleton (escapeToken token) = [.token] ↔ Inert token := by
  cases quotes : needsQuotes token with
  | true => simp [Inert, quotes, skeleton_of_quotes token quotes]
  | false =>
      have lexeme : ∀ word, wordLexeme word = .token ↔ word ∉ keywords := by
        intro word
        simp [wordLexeme]
      rw [skeleton_of_bare token quotes]
      simp [Inert, quotes, List.map_eq_singleton_iff, lexeme]

instance (token : Text) : Decidable (Inert token) :=
  decidable_of_iff _ (skeleton_escape_token_iff token)

/-- Only white space is written as no token at all. -/
theorem skeleton_escape_token_ne_nil (token : Text) (filled : Text.trim token ≠ []) :
    skeleton (escapeToken token) ≠ [] := by
  cases quotes : needsQuotes token with
  | true => simp [skeleton_of_quotes token quotes]
  | false =>
      have solid : ∃ c ∈ token, Text.isBlank c = false := by
        simpa [Text.trim_eq_nil_iff] using filled
      obtain ⟨c, member, notBlank⟩ := solid
      rw [escape_token_of_bare token quotes]
      refine Lexer.between.lex_ne_nil token (Or.inr ⟨c, member, ?_⟩)
      cases separates : isSeparator c with
      | false => rfl
      | true => simp [blank_of_separator c separates] at notBlank

end LuceneQuery
