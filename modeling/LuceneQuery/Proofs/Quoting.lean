import LuceneQuery.Toml.Token
import LuceneQuery.Toml.Writer

/-!
# Strings that are written and read

A written string is one token again, and the token holds the string. What is put between the
quotes does not end before they do: it is followed through the cut of its notation, and each
character is spelled in a way that its reader takes back.
-/

namespace LuceneQuery.Toml

set_option autoImplicit false

/-- Whether a string ends at the character, before what follows it. -/
def endsAt (block : Bool) (quote : Char) (escaped : Bool) (c : Char) (rest : Text) : Bool :=
  if block then c == quote && !escaped && rest.take 2 == [quote, quote]
  else c == '\n' || (c == quote && !escaped)

/-- The text does not end a string that it stands in, and leaves no escape open. -/
def holds (block : Bool) (quote : Char) (escaped : Bool) : Text → Bool
  | [] => !escaped
  | c :: rest =>
      !endsAt block quote escaped c rest &&
        holds block quote (startsEscape quote c && !escaped) rest

theorem cut_line_of_holds (quote : Char) (isQuote : isQuote quote = true) (later : Text)
    (body : Text) : ∀ escaped, holds false quote escaped body = true →
      cutLine quote escaped (body ++ quote :: later) = (some body, later) := by
  induction body with
  | nil =>
      intro escaped held
      have closed : escaped = false := by simpa [holds] using held
      have noLineEnd : quote ≠ '\n' := by
        rintro rfl
        cases isQuote
      simp [cutLine, closed, noLineEnd]
  | cons c rest induction =>
      intro escaped held
      simp only [holds, endsAt, Bool.and_eq_true] at held
      obtain ⟨stays, later⟩ := held
      have noLineEnd : c ≠ '\n' := by
        rintro rfl
        simp at stays
      have unended : ¬ (c = quote && !escaped) = true := by
        intro ends
        simp_all
      rw [List.cons_append, cutLine, if_neg noLineEnd, if_neg unended, induction _ later]
      rfl

/-- Quotes behind the closing ones belong to the string, as long as they are two at most. -/
theorem close_block (quote : Char) (count : Nat) (few : count ≤ 2) (later : Text)
    (stops : later.head? ≠ some quote) :
    closeBlock quote (List.replicate count quote ++ later) =
      (some (List.replicate count quote), later) := by
  have none : ∀ rest : Nat, (later.take rest).takeWhile (fun c => c == quote) = [] := by
    intro rest
    cases later with
    | nil => simp
    | cons c more =>
        have other : c ≠ quote := by simpa using stops
        cases rest <;> simp [other]
  have counted : count = 0 ∨ count = 1 ∨ count = 2 := by omega
  rcases counted with rfl | rfl | rfl
  · simp [closeBlock, none]
  · simp [closeBlock, none, List.replicate]
  · simp [closeBlock, List.replicate]

theorem cut_block_of_holds (quote : Char) (later : Text) (stops : later.head? ≠ some quote)
    (body : Text) : ∀ escaped, holds true quote escaped body = true →
      cutBlock quote escaped (body ++ quote :: quote :: quote :: later) = (some body, later) := by
  have closed := fun count few => close_block quote count few later stops
  induction body with
  | nil =>
      intro escaped held
      have shut : escaped = false := by simpa [holds] using held
      simpa [cutBlock, shut] using closed 0 (by omega)
  | cons c rest induction =>
      intro escaped held
      simp only [holds, endsAt, Bool.and_eq_true] at held
      obtain ⟨stays, further⟩ := held
      rw [List.cons_append, cutBlock]
      split
      · next ends =>
        -- The closing quotes come into sight only from the last two characters.
        match rest, ends, stays with
        | [], ends, _ =>
            obtain ⟨rfl, _⟩ : c = quote ∧ escaped = false := by simpa using ends
            simpa using closed 1 (by omega)
        | [second], ends, _ =>
            obtain ⟨⟨rfl, _⟩, rfl⟩ : (c = quote ∧ escaped = false) ∧ second = quote := by
              simpa using ends
            simpa using closed 2 (by omega)
        | second :: third :: more, ends, stays => simp_all
      · rw [induction _ further]
        rfl

/-- How one character may stand in a string with escapes. -/
inductive Spells (block : Bool) (c : Char) : Text → Prop
  | itself (noQuote : c ≠ '"') (noEscape : c ≠ '\\')
      (plain : isPlain c = true ∨ (block = true ∧ c = '\n')) : Spells block c [c]
  | named (name : Char) (known : simpleEscape name = some c) : Spells block c ['\\', name]
  | numbered (high low : Char) (upper lower : Nat) (first : hexValue high = some upper)
      (second : hexValue low = some lower) (number : 16 * upper + lower = c.toNat) :
      Spells block c ['\\', 'u', '0', '0', high, low]

theorem hex_not_mark (c : Char) (value : Nat) (digit : hexValue c = some value) :
    c ≠ '"' ∧ c ≠ '\\' ∧ c ≠ '\n' := by
  refine ⟨?_, ?_, ?_⟩ <;>
  · rintro rfl
    cases digit

theorem numbered_control (c : Char) (control : isPlain c = false) :
    ∃ high low, numbered c = ['\\', 'u', '0', '0', high, low] ∧
      hexValue high = some (c.toNat / 16) ∧ hexValue low = some (c.toNat % 16) := by
  have table : ∀ number < 128, isPlain (Char.ofNat number) = false →
      numbered (Char.ofNat number) = ['\\', 'u', '0', '0', (Nat.digitChar (number / 16)).toUpper,
        (Nat.digitChar (number % 16)).toUpper] ∧
      hexValue (Nat.digitChar (number / 16)).toUpper = some (number / 16) ∧
      hexValue (Nat.digitChar (number % 16)).toUpper = some (number % 16) := by decide
  have small : c.toNat < 128 := by
    simp [isPlain] at control
    omega
  have found := table c.toNat small (by rwa [Char.ofNat_toNat])
  rw [Char.ofNat_toNat] at found
  exact ⟨_, _, found⟩

theorem escaped_char_spells (block : Bool) (c : Char) (noQuote : c ≠ '"') :
    Spells block c (escapedChar block c) := by
  unfold escapedChar
  split
  · exact .named 'b' rfl
  · exact .named 't' rfl
  · cases block with
    | true => exact .itself (by decide) (by decide) (.inr ⟨rfl, rfl⟩)
    | false => exact .named 'n' rfl
  · exact .named 'f' rfl
  · exact .named 'r' rfl
  · exact .named '\\' rfl
  · next noEscape =>
    split
    · next plain => exact .itself noQuote noEscape (.inl plain)
    · next control =>
      obtain ⟨high, low, spelled, first, second⟩ :=
        numbered_control c (by simpa using control)
      rw [spelled]
      exact .numbered high low _ _ first second (by omega)

theorem holds_cons (block : Bool) (c : Char) (rest : Text) (noQuote : c ≠ '"')
    (noEscape : c ≠ '\\') (lineEnd : block = true ∨ c ≠ '\n') :
    holds block '"' false (c :: rest) = holds block '"' false rest := by
  have unmarked : (c == '"') = false := by simpa using noQuote
  have unescaped : (c == '\\') = false := by simpa using noEscape
  cases block with
  | true => simp [holds, endsAt, startsEscape, unmarked, unescaped]
  | false =>
      have noLineEnd : (c == '\n') = false := by simpa using lineEnd
      simp [holds, endsAt, startsEscape, unmarked, unescaped, noLineEnd]

/-- The character behind a backslash never ends a string. -/
theorem holds_escape (block : Bool) (c : Char) (rest : Text) (lineEnd : c ≠ '\n') :
    holds block '"' false ('\\' :: c :: rest) = holds block '"' false rest := by
  cases block <;> simp [holds, endsAt, startsEscape, lineEnd]

theorem unescape_cons (block : Bool) (c : Char) (rest : Text) (noEscape : c ≠ '\\')
    (plain : isPlain c = true ∨ (block = true ∧ c = '\n')) :
    unescape block .nothing (c :: rest) = (unescape block .nothing rest).map (c :: ·) := by
  have stands : standsFor block c rest = true := by
    rcases plain with plain | ⟨rfl, rfl⟩
    · simp [standsFor, plain]
    · simp [standsFor, startsLine]
  simp [unescape, noEscape, stands]

namespace Spells

variable {block : Bool} {c : Char} {spelled : Text}

theorem holds (spells : Spells block c spelled) (rest : Text) :
    Toml.holds block '"' false (spelled ++ rest) = Toml.holds block '"' false rest := by
  cases spells with
  | itself noQuote noEscape plain =>
      have lineEnd : block = true ∨ c ≠ '\n' := by
        rcases plain with plain | ⟨inBlock, _⟩
        · refine .inr ?_
          rintro rfl
          cases plain
        · exact .inl inBlock
      exact holds_cons block c rest noQuote noEscape lineEnd
  | named name known =>
      refine holds_escape block name rest ?_
      rintro rfl
      cases known
  | numbered high low upper lower first second number =>
      obtain ⟨highQuote, highEscape, highEnd⟩ := hex_not_mark high upper first
      obtain ⟨lowQuote, lowEscape, lowEnd⟩ := hex_not_mark low lower second
      have zero := fun rest => holds_cons block '0' rest (by decide) (by decide) (.inr (by decide))
      simp only [List.cons_append, List.nil_append]
      rw [holds_escape block 'u' _ (by decide), zero, zero,
        holds_cons block high _ highQuote highEscape (.inr highEnd),
        holds_cons block low _ lowQuote lowEscape (.inr lowEnd)]

theorem unescapes (spells : Spells block c spelled) (rest : Text) :
    unescape block .nothing (spelled ++ rest) = (unescape block .nothing rest).map (c :: ·) := by
  cases spells with
  | itself noQuote noEscape plain => exact unescape_cons block c rest noEscape plain
  | named name known => simp [unescape, known]
  | numbered high low upper lower first second number =>
      have digit : hexValue '0' = some 0 := rfl
      have simple : simpleEscape 'u' = none := rfl
      have four : numberedEscape 'u' = some 4 := rfl
      have valid : (16 * upper + lower).isValidChar := number ▸ c.valid
      have char : charOf (16 * upper + lower) = some c := by
        rw [charOf, if_pos valid, number, Char.ofNat_toNat]
      simp only [List.cons_append, List.nil_append, unescape, simple, four, digit, first, second]
      simp [char]
      cases unescape block .nothing rest <;> rfl

theorem no_line_end (spells : Spells block c spelled) (other : c ≠ '\n') : '\n' ∉ spelled := by
  cases spells with
  | itself => simpa using Ne.symm other
  | named name known =>
      have unnamed : name ≠ '\n' := by
        rintro rfl
        cases known
      simp [Ne.symm unnamed]
  | numbered high low upper lower first second =>
      have upperEnd := (hex_not_mark high upper first).2.2
      have lowerEnd := (hex_not_mark low lower second).2.2
      simp [Ne.symm upperEnd, Ne.symm lowerEnd]

end Spells

/-- Between the quotes no more than two of them stand in a row unescaped. -/
theorem escaped_take (block : Bool) (text : Text) : ∀ quotes count, 0 < count →
    2 < quotes + count → (escaped block quotes text).take count ≠ List.replicate count '"' := by
  induction text with
  | nil =>
      intro quotes count some _
      simp [escaped, List.replicate_eq_nil_iff]
      omega
  | cons c later induction =>
      intro quotes count some many
      obtain ⟨count, rfl⟩ := Nat.exists_eq_succ_of_ne_zero (by omega : count ≠ 0)
      by_cases isQuote : c = '"'
      · subst isQuote
        rw [escaped]
        split
        · next room =>
          have few : quotes < 2 := by simp_all
          simpa [List.replicate_succ] using induction (quotes + 1) count (by omega) (by omega)
        · simp [List.replicate_succ]
      · rw [escaped.eq_3 _ _ _ _ isQuote]
        have spells := escaped_char_spells block c isQuote
        generalize escapedChar block c = spelled at spells
        cases spells <;> simp [List.replicate_succ, isQuote]

theorem escaped_holds (block : Bool) (text : Text) :
    ∀ quotes, holds block '"' false (escaped block quotes text) = true := by
  induction text with
  | nil => exact fun _ => rfl
  | cons c later induction =>
      intro quotes
      by_cases isQuote : c = '"'
      · subst isQuote
        rw [escaped]
        split
        · next room =>
          obtain ⟨rfl, few⟩ : block = true ∧ quotes < 2 := by simpa using room
          have apart : (escaped true (quotes + 1) later).take 2 ≠ ['"', '"'] :=
            escaped_take true later (quotes + 1) 2 (by omega) (by omega)
          simpa [holds, endsAt, startsEscape, apart] using induction (quotes + 1)
        · rw [holds_escape block '"' _ (by decide)]
          exact induction 0
      · rw [escaped.eq_3 _ _ _ _ isQuote, (escaped_char_spells block c isQuote).holds]
        exact induction 0

/-- Every string is spelled in a way that reads back. -/
theorem unescape_escaped (block : Bool) (text : Text) :
    ∀ quotes, unescape block .nothing (escaped block quotes text) = some text := by
  induction text with
  | nil => exact fun _ => rfl
  | cons c later induction =>
      intro quotes
      by_cases isQuote : c = '"'
      · subst isQuote
        rw [escaped]
        split
        · rw [unescape_cons block '"' _ (by decide) (.inl (by decide)), induction]
          rfl
        · have named : Spells block '"' ['\\', '"'] := .named '"' rfl
          exact (named.unescapes (escaped block 0 later)).trans (by rw [induction]; rfl)
      · rw [escaped.eq_3 _ _ _ _ isQuote, (escaped_char_spells block c isQuote).unescapes,
          induction]
        rfl

theorem escaped_no_line_end (block : Bool) (text : Text) (flat : '\n' ∉ text) :
    ∀ quotes, '\n' ∉ escaped block quotes text := by
  induction text with
  | nil => simp [escaped]
  | cons c later induction =>
      intro quotes
      obtain ⟨other, further⟩ : c ≠ '\n' ∧ '\n' ∉ later := by
        simpa [eq_comm] using flat
      have rest := induction further
      by_cases isQuote : c = '"'
      · subst isQuote
        rw [escaped]
        split <;> simp [rest]
      · rw [escaped.eq_3 _ _ _ _ isQuote, List.mem_append]
        exact not_or.mpr ⟨(escaped_char_spells block c isQuote).no_line_end other, rest 0⟩

theorem starts_escape_literal (c : Char) : startsEscape '\'' c = false := rfl

theorem literal_holds (text : Text) (noQuote : '\'' ∉ text) (flat : '\n' ∉ text) :
    holds false '\'' false text = true := by
  induction text with
  | nil => rfl
  | cons c later induction =>
      obtain ⟨⟨unquoted, later⟩, other, further⟩ :
          (c ≠ '\'' ∧ '\'' ∉ later) ∧ c ≠ '\n' ∧ '\n' ∉ later := by
        simpa [eq_comm] using And.intro noQuote flat
      simpa [holds, endsAt, starts_escape_literal, unquoted, other] using induction later further

theorem has_triple_cons (quote c : Char) (later : Text) :
    Quoting.hasTriple quote (c :: later) =
      (c == quote && later.take 2 == [quote, quote] || Quoting.hasTriple quote later) := by
  match later with
  | [] => simp [Quoting.hasTriple]
  | [second] => simp [Quoting.hasTriple]
  | second :: third :: more => simp [Quoting.hasTriple, Bool.and_assoc]

theorem literal_block_holds (text : Text) (apart : Quoting.hasTriple '\'' text = false) :
    holds true '\'' false text = true := by
  induction text with
  | nil => rfl
  | cons c later induction =>
      rw [has_triple_cons, Bool.or_eq_false_iff] at apart
      simpa [holds, endsAt, starts_escape_literal, apart.1] using induction apart.2

theorem take_literal (block : Bool) (text : Text)
    (plain : ∀ c ∈ text, isPlain c = true ∨ (block = true ∧ c = '\n')) :
    takeLiteral block text = some text := by
  induction text with
  | nil => rfl
  | cons c later induction =>
      have stands : standsFor block c later = true := by
        rcases plain c (by simp) with plain | ⟨rfl, rfl⟩
        · simp [standsFor, plain]
        · simp [standsFor, startsLine]
      rw [takeLiteral, if_pos stands,
        induction fun other member => plain other (List.mem_cons_of_mem _ member)]
      rfl

namespace Quoting

def quote : Quoting → Char
  | .basic => '"'
  | .basicBlock => '"'
  | .literal => '\''
  | .literalBlock => '\''

/-- With escapes every text can be written, and without them those that show their characters. -/
def Suits (form : Quoting) (text : Text) : Prop := form.quote = '"' ∨ form.shows text = true

/-- The token of a string in this notation. -/
def token (form : Quoting) (text : Text) : Token :=
  if form.isBlock then .block (some text) else .string (some text)

theorem for_text_suits (text : Text) : (forText text).Suits text := by
  unfold forText
  split
  · next form found => exact .inr (by simpa using List.find?_some found)
  · split <;> exact .inl rfl

theorem plain_of_shows (form : Quoting) (text : Text) (shown : form.shows text = true) :
    ∀ c ∈ text, isPlain c = true ∨ c = '\n' := by
  simp only [shows, Bool.and_eq_true, Bool.not_eq_true', List.any_eq_false] at shown
  intro c member
  have calm : ¬ isControl c = true := shown.1 c member
  by_cases lineEnd : c = '\n'
  · exact .inr lineEnd
  · refine .inl ?_
    simpa [isControl, lineEnd] using calm

theorem literal_of_shows (text : Text) (shown : literal.shows text = true) :
    '\'' ∉ text ∧ '\n' ∉ text := by
  simp only [shows, Bool.and_eq_true] at shown
  simpa using shown.2

theorem content_holds (form : Quoting) (text : Text) (suits : form.Suits text) :
    holds form.isBlock form.quote false (form.content text) = true := by
  cases form with
  | basic => exact escaped_holds false text 0
  | basicBlock => exact escaped_holds true text 0
  | literal =>
      have shown := suits.resolve_left (by decide)
      obtain ⟨noQuote, flat⟩ := literal_of_shows text shown
      exact literal_holds text noQuote flat
  | literalBlock =>
      have shown := suits.resolve_left (by decide)
      simp only [shows, Bool.and_eq_true, Bool.not_eq_true'] at shown
      exact literal_block_holds text shown.2

/-- What stands between the quotes reads as the text. -/
theorem content_decodes (form : Quoting) (text : Text) (suits : form.Suits text) :
    (if form.quote = '"' then unescape form.isBlock .nothing (form.content text)
      else takeLiteral form.isBlock (form.content text)) = some text := by
  cases form with
  | basic => exact unescape_escaped false text 0
  | basicBlock => exact unescape_escaped true text 0
  | literal =>
      have shown := suits.resolve_left (by decide)
      obtain ⟨_, flat⟩ := literal_of_shows text shown
      refine take_literal false text fun c member => .inl ?_
      refine (plain_of_shows _ text shown c member).resolve_right ?_
      rintro rfl
      exact flat member
  | literalBlock =>
      have shown := suits.resolve_left (by decide)
      refine take_literal true text fun c member => ?_
      exact (plain_of_shows _ text shown c member).imp_right fun lineEnd => ⟨rfl, lineEnd⟩

theorem content_no_line_end (form : Quoting) (text : Text) (flat : '\n' ∉ text) :
    '\n' ∉ form.content text := by
  cases form with
  | basic => exact escaped_no_line_end false text flat 0
  | basicBlock => exact escaped_no_line_end true text flat 0
  | literal => exact flat
  | literalBlock => exact flat

theorem drop_line_start_of_flat (text : Text) (flat : '\n' ∉ text) : dropLineStart text = text := by
  unfold dropLineStart
  split <;> simp_all

/-- A text with line ends starts on a line of its own, and no other starts with a line end. -/
theorem drop_line_start_content (form : Quoting) (text : Text) :
    dropLineStart ((if text.contains '\n' then ['\n'] else []) ++ form.content text) =
      form.content text := by
  split
  · rfl
  · next flat =>
    exact drop_line_start_of_flat _ (form.content_no_line_end text (by simpa using flat))

theorem quote_is_quote (form : Quoting) : isQuote form.quote = true := by
  cases form <;> rfl

theorem quote_ne_line_end (form : Quoting) : form.quote ≠ '\n' := by
  cases form <;> decide

variable (form : Quoting) (text later : Text) (suits : form.Suits text)
  (stops : later.head? ≠ some form.quote)

include suits stops

theorem of_quoted_line (line : form.isBlock = false) :
    Token.ofQuoted form.quote (form.content text ++ form.quote :: later) =
      (form.token text, later) := by
  have held := form.content_holds text suits
  have reads := form.content_decodes text suits
  rw [line] at held reads
  have single : ((form.content text ++ form.quote :: later).take 2 ==
      [form.quote, form.quote]) = false := by
    cases content : form.content text with
    | nil =>
        cases later with
        | nil => simp
        | cons c more => simpa using stops
    | cons c rest =>
        rw [content] at held
        have other : c ≠ form.quote := by
          rintro same
          simp [holds, endsAt, same] at held
        simp [other]
  rw [Token.ofQuoted, single, cut_line_of_holds _ form.quote_is_quote later _ false held]
  simp [token, line, readLine, reads]

theorem of_quoted_block (block : form.isBlock = true) :
    Token.ofQuoted form.quote (form.quote :: form.quote ::
      ((if text.contains '\n' then ['\n'] else []) ++ form.content text ++
        form.quote :: form.quote :: form.quote :: later)) = (form.token text, later) := by
  have held := form.content_holds text suits
  have reads := form.content_decodes text suits
  rw [block] at held reads
  have begun : holds true form.quote false
      ((if text.contains '\n' then ['\n'] else []) ++ form.content text) = true := by
    split
    · have other := form.quote_ne_line_end
      simpa [holds, endsAt, startsEscape, Ne.symm other] using held
    · exact held
  have between : readBlock form.quote
      ((if text.contains '\n' then ['\n'] else []) ++ form.content text) = some text := by
    rw [readBlock, form.drop_line_start_content text]
    exact reads
  rw [Token.ofQuoted]
  simp only [List.take_succ_cons, List.take_zero, BEq.rfl, if_true, List.drop_succ_cons,
    List.drop_zero]
  rw [cut_block_of_holds _ later stops _ false begun, Option.bind_some, between, token, block]
  rfl

/-- A string that is written in one of its notations is its token. -/
theorem first_write : ∃ rest, form.write text ++ later = form.quote :: rest ∧
    Token.ofQuoted form.quote rest = (form.token text, later) := by
  cases block : form.isBlock with
  | false =>
      refine ⟨_, ?_, form.of_quoted_line text later suits stops block⟩
      cases form <;> simp_all [write, delimiter, isBlock, quote]
  | true =>
      refine ⟨_, ?_, form.of_quoted_block text later suits stops block⟩
      cases form <;> simp_all [write, delimiter, isBlock, quote]

end Quoting

def Token.ofString (text : Text) : Token := (Quoting.forText text).token text

theorem Token.scan_cons (c : Char) (rest : Text) :
    scan (c :: rest) = (first c rest).bind fun (token, later) => (scan later).map (token :: ·) := by
  rw [scan]
  split <;> simp_all

/-- A written string is scanned as one token, in front of anything but a quote. -/
theorem Token.scan_write_string (text later : Text)
    (stops : ∀ c ∈ later.head?, isQuote c = false) :
    scan (writeString text ++ later) = (scan later).map (ofString text :: ·) := by
  let form := Quoting.forText text
  have other : later.head? ≠ some form.quote := by
    intro same
    have quoted := stops form.quote same
    rw [form.quote_is_quote] at quoted
    cases quoted
  obtain ⟨rest, written, read⟩ := form.first_write text later (Quoting.for_text_suits text) other
  have opens : ∀ form : Quoting, first form.quote rest = some (ofQuoted form.quote rest) := by
    intro form
    cases form <;> rfl
  rw [writeString, written, scan_cons, opens, read]
  rfl

end LuceneQuery.Toml
