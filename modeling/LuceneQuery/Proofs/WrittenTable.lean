import LuceneQuery.Toml.Reading
import LuceneQuery.Proofs.Quoting

/-!
# Tables that are written and read

A table of strings is written as a header and a line for each entry. Its text is taken apart
into just these lines: bare names are words, the strings are tokens, and no bracket but those of
the header is left outside of them.
-/

namespace LuceneQuery.Toml

set_option autoImplicit false

/-- A name that needs no quotes where it stands for a key. -/
def IsBareName (name : Text) : Prop := name ≠ [] ∧ ∀ c ∈ name, KeyForm.isBare c = true

namespace Token

theorem word_char_of_bare (c : Char) (bare : KeyForm.isBare c = true) :
    isWordChar c = true ∧ c ≠ '.' ∧ isQuote c = false := by
  have other : ∀ mark, (!KeyForm.isBare mark) = true → c ≠ mark := by
    rintro mark marked rfl
    rw [bare] at marked
    cases marked
  have listed : (['=', ',', '[', ']', '{', '}', ' ', '\t', '#', '\r', '\n', '.', '"',
      '\''].all fun mark => !KeyForm.isBare mark) = true := by decide
  have marks := fun mark member => other mark (List.all_eq_true.mp listed mark member)
  simp only [List.forall_mem_cons] at marks
  simp [isWordChar, isMark, isSpace, wordEnds, isQuote, marks]

/-- A word of bare characters ends where they do. -/
theorem take_word_of_bare (later : Text) (stops : ∀ c ∈ later.head?, isWordChar c = false)
    (name : Text) (bare : ∀ c ∈ name, KeyForm.isBare c = true) :
    takeWord false (name ++ later) = (name, later) := by
  induction name with
  | nil =>
      cases later with
      | nil => rfl
      | cons c more => simp [takeWord, stops c (by simp)]
  | cons c rest induction =>
      obtain ⟨word, undotted, _⟩ := word_char_of_bare c (bare c (by simp))
      have further := induction fun other member => bare other (List.mem_cons_of_mem _ member)
      have dot : (c == '.') = false := by simpa using undotted
      simp [takeWord, word, dot, further]

/-- A bare name is one word, unless it could go on as the time of a date. -/
theorem scan_name (name later : Text) (named : IsBareName name)
    (stops : ∀ c ∈ later.head?, isWordChar c = false)
    (untimed : joinTime name later = (name, later)) :
    scan (name ++ later) = (scan later).map (.word name :: ·) := by
  obtain ⟨filled, bare⟩ := named
  obtain ⟨c, rest, rfl⟩ := List.exists_cons_of_ne_nil filled
  obtain ⟨word, undotted, unquoted⟩ := word_char_of_bare c (bare c (by simp))
  have dot : (c == '.') = false := by simpa using undotted
  have taken := take_word_of_bare later stops rest
    fun other member => bare other (List.mem_cons_of_mem _ member)
  have whole : ofWord c (rest ++ later) = (.word (c :: rest), later) := by
    simp only [ofWord, dot, taken, untimed]
  obtain ⟨⟨unmarked, unspaced⟩, noComment, noReturn, noLineEnd⟩ :
      (isMark c = false ∧ isSpace c = false) ∧ c ≠ '#' ∧ c ≠ '\r' ∧ c ≠ '\n' := by
    simpa [isWordChar, wordEnds] using word
  have start : first c (rest ++ later) = some (.word (c :: rest), later) := by
    simp [first, unmarked, unspaced, noComment, noReturn, noLineEnd, unquoted, whole]
  rw [List.cons_append, scan_cons, start]
  rfl

theorem scan_mark (c : Char) (later : Text) (marked : isMark c = true) :
    scan (c :: later) = (scan later).map (.mark c :: ·) := by
  have listed : c ∈ ['=', ',', '[', ']', '{', '}'] := by simpa [isMark] using marked
  have start : first c later = some (.mark c, later) := by
    simp only [List.mem_cons, List.not_mem_nil, or_false] at listed
    rcases listed with rfl | rfl | rfl | rfl | rfl | rfl <;> rfl
  rw [scan_cons, start]
  rfl

theorem scan_space (later : Text) : scan (' ' :: later) = (scan later).map (.blank :: ·) := by
  rw [scan_cons]
  rfl

theorem scan_line_end (later : Text) :
    scan ('\n' :: later) = (scan later).map (.newline :: ·) := by
  rw [scan_cons]
  rfl

end Token

/-- The tokens of an entry, its line end apart. -/
def entryTokens (name text : Text) : List Token :=
  [.word name, .blank, .mark '=', .blank, .ofString text]

theorem scan_write_entry (name : String) (text later : Text) (named : IsBareName name.toList) :
    Token.scan (writeEntry name text ++ later) =
      (Token.scan later).map (entryTokens name.toList text ++ .newline :: ·) := by
  have written : writeEntry name text ++ later =
      name.toList ++ ' ' :: '=' :: ' ' :: (writeString text ++ '\n' :: later) := by
    simp [writeEntry]
  rw [written, Token.scan_name _ _ named (by simp [Token.isWordChar, isSpace])
      (by simp [Token.joinTime]),
    Token.scan_space, Token.scan_mark '=' _ rfl, Token.scan_space,
    Token.scan_write_string _ _ (by simp [isQuote]), Token.scan_line_end]
  simp [entryTokens, Function.comp_def]

/-- A table of strings under one header. -/
def writeTable (name : Text) (entries : List (String × Text)) : Text :=
  '[' :: name ++ ']' :: '\n' :: entries.flatMap fun (name, text) => writeEntry name text

/-- The tokens of the lines behind a header. -/
def bodyTokens (entries : List (String × Text)) : List Token :=
  entries.flatMap fun (name, text) => entryTokens name.toList text ++ [.newline]

theorem scan_entries (entries : List (String × Text))
    (named : ∀ entry ∈ entries, IsBareName entry.1.toList) :
    Token.scan (entries.flatMap fun (name, text) => writeEntry name text) =
      some (bodyTokens entries) := by
  induction entries with
  | nil => rw [List.flatMap_nil, Token.scan]; rfl
  | cons entry later induction =>
      rw [List.flatMap_cons, scan_write_entry _ _ _ (named entry (by simp)),
        induction fun other member => named other (List.mem_cons_of_mem _ member)]
      simp [bodyTokens]

theorem scan_write_table (name : Text) (entries : List (String × Text)) (header : IsBareName name)
    (named : ∀ entry ∈ entries, IsBareName entry.1.toList) :
    Token.scan (writeTable name entries) =
      some (.mark '[' :: .word name :: .mark ']' :: .newline :: bodyTokens entries) := by
  rw [writeTable, List.cons_append, Token.scan_mark '[' _ rfl,
    Token.scan_name _ _ header (by simp [Token.isWordChar, Token.isMark])
      (by simp [Token.joinTime]),
    Token.scan_mark ']' _ rfl, Token.scan_line_end, scan_entries entries named]
  rfl

namespace Tree

/-- Tokens that are no brackets stand beside each other. -/
theorem fold_leaves (tokens : List Token)
    (flat : ∀ token ∈ tokens, ∀ nesting : Nesting,
      nesting.step token = some (nesting.push (.leaf token))) :
    ∀ nesting : Nesting, tokens.foldlM Nesting.step nesting =
      some { nesting with current := (tokens.map leaf).reverse ++ nesting.current } := by
  induction tokens with
  | nil => exact fun _ => rfl
  | cons token later induction =>
      intro nesting
      rw [List.foldlM_cons, flat token (by simp), Option.bind_eq_bind, Option.bind_some,
        induction fun other member => flat other (List.mem_cons_of_mem _ member)]
      simp [Nesting.push]

end Tree

theorem Token.of_string_cases (text : Text) :
    ofString text = .string (some text) ∨ ofString text = .block (some text) := by
  unfold ofString Quoting.token
  split
  · exact .inr rfl
  · exact .inl rfl

theorem entry_tokens_flat (name text : Text) (nesting : Tree.Nesting) :
    ∀ token ∈ entryTokens name text, nesting.step token = some (nesting.push (.leaf token)) := by
  intro token member
  simp only [entryTokens, List.mem_cons, List.not_mem_nil, or_false] at member
  rcases member with rfl | rfl | rfl | rfl | rfl
  · rfl
  · rfl
  · rfl
  · rfl
  · rcases Token.of_string_cases text with quoted | quoted <;> rw [quoted] <;> rfl

theorem trees_of_table (name : Text) (entries : List (String × Text)) :
    Tree.ofTokens? (.mark '[' :: .word name :: .mark ']' :: .newline :: bodyTokens entries) =
      some (.brackets [.leaf (.word name)] :: .leaf .newline ::
        (bodyTokens entries).map Tree.leaf) := by
  have flat : ∀ token ∈ bodyTokens entries, ∀ nesting : Tree.Nesting,
      nesting.step token = some (nesting.push (.leaf token)) := by
    intro token member nesting
    obtain ⟨entry, _, inside⟩ := List.mem_flatMap.mp member
    rcases List.mem_append.mp inside with inside | lineEnd
    · exact entry_tokens_flat _ _ nesting token inside
    · obtain rfl := List.mem_singleton.mp lineEnd
      rfl
  have header : Tree.ofTokens? (.mark '[' :: .word name :: .mark ']' :: .newline ::
      bodyTokens entries) = ((bodyTokens entries).foldlM Tree.Nesting.step
        ⟨[.leaf .newline, .brackets [.leaf (.word name)]], []⟩).bind fun nesting =>
          if nesting.around.isEmpty then some nesting.current.reverse else none := rfl
  rw [header, Tree.fold_leaves _ flat]
  simp

namespace Line

/-- The first line of a text, up to its end. -/
theorem split_line (line later : List Tree)
    (filled : line.head?.any (fun tree => !tree.isBlank) = true)
    (whole : ∀ tree ∈ line, tree.isNewline = false) :
    split (line ++ .leaf .newline :: later) = line :: split later := by
  obtain ⟨first, rest, rfl⟩ : ∃ first rest, line = first :: rest := by
    cases line with
    | nil => cases filled
    | cons first rest => exact ⟨first, rest, rfl⟩
  have solid : first.isBlank = false := by simpa using filled
  rw [split, List.splitOnP_append_cons_of_forall_mem whole _ rfl]
  simp [solid, split]

theorem newline_of_entry (name text : Text) :
    ∀ tree ∈ (entryTokens name text).map Tree.leaf, tree.isNewline = false := by
  simp only [entryTokens, List.map_cons, List.map_nil, List.forall_mem_cons]
  rcases Token.of_string_cases text with quoted | quoted <;> rw [quoted] <;> simp [Tree.isNewline]

theorem split_body (entries : List (String × Text)) :
    split ((bodyTokens entries).map Tree.leaf) =
      entries.map fun (name, text) => (entryTokens name.toList text).map Tree.leaf := by
  induction entries with
  | nil => rfl
  | cons entry later induction =>
      have lines : (bodyTokens (entry :: later)).map Tree.leaf =
          (entryTokens entry.1.toList entry.2).map Tree.leaf ++
            .leaf .newline :: (bodyTokens later).map Tree.leaf := by
        simp [bodyTokens]
      rw [lines, split_line _ _ rfl (newline_of_entry _ _), induction]
      rfl

end Line

namespace KeyForm

theorem pieces_of_bare (name : Text) (named : IsBareName name) :
    piecesOfWord name = [.name (some name)] := by
  obtain ⟨filled, bare⟩ := named
  have undotted : ∀ c ∈ name, (c == '.') = false := by
    intro c member
    simpa using (Token.word_char_of_bare c (bare c member)).2.1
  have single : name.splitOn '.' = [name] := List.splitOnP_eq_singleton undotted
  simp [piecesOfWord, single, bareName, filled]
  exact bare

/-- A bare name alone is a key, with or without a gap behind it. -/
theorem of_bare (name : Text) (named : IsBareName name) (gap : List Token)
    (blank : gap = [] ∨ gap = [.blank]) :
    ofTokens? (.word name :: gap) = some ⟨[], some name⟩ := by
  have pieces := pieces_of_bare name named
  rcases blank with rfl | rfl <;> simp [ofTokens?, piecesOf, pieces, ofPieces]

end KeyForm

namespace Line

theorem entry_of_tokens (name text : Text) (named : IsBareName name) :
    ofTrees? ((entryTokens name text).map Tree.leaf) =
      some (.entry ⟨[], some name⟩ (.scalar (.ofString text))) := by
  have key : key? [.leaf (.word name), .leaf .blank] = some ⟨[], some name⟩ :=
    KeyForm.of_bare name named [.blank] (.inr rfl)
  have value : Form.ofTree? (.leaf (.ofString text)) = some (.scalar (.ofString text)) := by
    rcases Token.of_string_cases text with quoted | quoted <;> rw [quoted] <;> rfl
  have solid : Tree.isBlank (.leaf (.ofString text)) = false := by
    rcases Token.of_string_cases text with quoted | quoted <;> rw [quoted] <;> rfl
  have gap : [Tree.leaf .blank, .leaf (.ofString text)].dropWhile Tree.isBlank =
      [.leaf (.ofString text)] := by
    rw [List.dropWhile_cons_of_pos rfl, List.dropWhile_cons_of_neg (by simp [solid])]
  have steps : ofTrees? ((entryTokens name text).map Tree.leaf) = (do
      let key ← key? [.leaf (.word name), .leaf .blank]
      return .entry key (← Form.ofTree? (← single
        ([Tree.leaf .blank, .leaf (.ofString text)].dropWhile Tree.isBlank)))) := rfl
  have alone : single [.leaf (.ofString text)] = some (.leaf (.ofString text)) := rfl
  rw [steps, key, gap, alone]
  simp [value]

/-- The lines of the entries under a header. -/
def bodyLines (entries : List (String × Text)) : List Line :=
  entries.map fun (name, text) => .entry ⟨[], some name.toList⟩ (.scalar (.ofString text))

theorem of_body (entries : List (String × Text))
    (named : ∀ entry ∈ entries, IsBareName entry.1.toList) :
    (split ((bodyTokens entries).map Tree.leaf)).mapM ofTrees? = some (bodyLines entries) := by
  rw [split_body]
  induction entries with
  | nil => rfl
  | cons entry later induction =>
      rw [List.map_cons, List.mapM_cons, entry_of_tokens _ _ (named entry (by simp)),
        induction fun other member => named other (List.mem_cons_of_mem _ member)]
      rfl

theorem of_write_table (name : Text) (entries : List (String × Text)) (header : IsBareName name)
    (named : ∀ entry ∈ entries, IsBareName entry.1.toList) :
    ofText? (writeTable name entries) = some (.table ⟨[], some name⟩ :: bodyLines entries) := by
  have unmarked : withoutMark (writeTable name entries) = writeTable name entries := rfl
  have first : ofTrees? [.brackets [.leaf (.word name)]] = some (.table ⟨[], some name⟩) := by
    have key : key? [.leaf (.word name)] = some ⟨[], some name⟩ :=
      KeyForm.of_bare name header [] (.inl rfl)
    simp [ofTrees?, header?, key]
  have lines := split_line [.brackets [.leaf (.word name)]] ((bodyTokens entries).map Tree.leaf)
    rfl (by simp [Tree.isNewline])
  rw [List.singleton_append] at lines
  simp [ofText?, unmarked, scan_write_table name entries header named, trees_of_table, lines,
    first, of_body entries named]

end Line

theorem Form.value_of_string (text : Text) :
    value (.scalar (.ofString text)) = .ok (.string text) := by
  rcases Token.of_string_cases text with quoted | quoted <;> rw [quoted] <;> rfl

/-- Under one header no line opens another table. -/
theorem read_write_table (name : Text) (entries : List (String × Text)) (header : IsBareName name)
    (named : ∀ entry ∈ entries, IsBareName entry.1.toList) :
    read (writeTable name entries) = (fill (Line.bodyLines entries) []).map fun drafts =>
      [(name, .table (Draft.finishEntries drafts))] := by
  have skipped : ∀ (entries : List (String × Text)) (drafts : Draft.Entries),
      tables (Line.bodyLines entries) drafts = .ok drafts := by
    intro entries drafts
    induction entries with
    | nil => rfl
    | cons entry later induction => exact induction
  have opened : Draft.openTable [] name (fill (Line.bodyLines entries)) [] =
      (fill (Line.bodyLines entries) []).map fun drafts => [(name, .table .header drafts)] := by
    have steps : Draft.openTable [] name (fill (Line.bodyLines entries)) [] =
        ((fill (Line.bodyLines entries) []).map (Draft.table .header)).map
          fun made => [(name, made)] := rfl
    rw [steps]
    cases fill (Line.bodyLines entries) [] <;> rfl
  have key : KeyForm.key ⟨[], some name⟩ = .ok ⟨[], name⟩ := by
    simp [KeyForm.key, depthLimit]
  have before : fill (.table ⟨[], some name⟩ :: Line.bodyLines entries) [] = .ok [] := by
    simp [fill]
  have under : tables (.table ⟨[], some name⟩ :: Line.bodyLines entries) [] =
      (Draft.openTable [] name (fill (Line.bodyLines entries)) []).bind
        (tables (Line.bodyLines entries)) := by
    rw [tables, key]
    rfl
  rw [read, Line.of_write_table name entries header named]
  simp only [Reading.ofOption, bind, Except.bind, before, under, opened]
  cases fill (Line.bodyLines entries) [] with
  | error refusal => rfl
  | ok drafts =>
      simp only [Except.map, skipped]
      rfl

end LuceneQuery.Toml
