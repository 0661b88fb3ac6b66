import LuceneQuery.Proofs.ClauseTree
import LuceneQuery.Proofs.Keywords
import LuceneQuery.Proofs.Merging

/-!
# Respelled keywords

A document and the settings files in force are read alike however the operators and exclusions in
them are spelled: they build the same query and set the same settings, or are refused in the same
place for the same word. Of what is refused only the hint can differ, and only where white space
hides it.
-/

namespace LuceneQuery

set_option autoImplicit false

/-- The same keyword in both places, or none. -/
def SameKeyword : Option Text → Option Text → Prop := Option.Rel Text.SameWord

/-- Something is given in both places, or in neither. -/
theorem SameKeyword.is_some_eq {given other : Option Text} (same : SameKeyword given other) :
    other.isSome = given.isSome := by
  cases same <;> rfl

theorem read_exclusion_alike {given other : Option Text} (same : SameKeyword given other) :
    EndsAlike QueryError.Alike (Exclusion.read (given.getD []))
      (Exclusion.read (other.getD [])) := by
  cases same with
  | none => exact rfl
  | some word => exact Exclusion.read_alike word

theorem resolve_operator_alike {given other : Option Text} (same : SameKeyword given other)
    (standing : Operator) :
    EndsAlike QueryError.Alike (resolveOperator given standing)
      (resolveOperator other standing) := by
  cases same with
  | none => exact rfl
  | some word => exact Operator.read_alike word

inductive Fault.Alike : Fault → Fault → Prop
  | refused (problem other : QueryError) (alike : problem.Alike other) :
      Alike (.refused problem) (.refused other)
  | same (fault : Fault) : Alike fault fault

namespace DocumentError

inductive Alike : DocumentError → DocumentError → Prop
  | operator (problem other : QueryError) (alike : problem.Alike other) :
      Alike (.operator problem) (.operator other)
  | clause (position : Position) (fault other : Fault) (alike : fault.Alike other) :
      Alike (.clause position fault) (.clause position other)
  | same (error : DocumentError) : Alike error error

def HidesHint : DocumentError → Prop
  | .operator problem => problem.HidesHint
  | .clause _ (.refused problem) => problem.HidesHint
  | _ => False

theorem Alike.suggestion_eq_iff {error other : DocumentError} (alike : error.Alike other) :
    error.suggestion = other.suggestion ↔ (error.HidesHint ↔ other.HidesHint) := by
  cases alike with
  | operator problem other alike => exact alike.suggestion_eq_iff
  | clause position fault other alike =>
      cases alike with
      | refused problem other alike => exact alike.suggestion_eq_iff
      | same => exact ⟨fun _ => .rfl, fun _ => rfl⟩
  | same => exact ⟨fun _ => .rfl, fun _ => rfl⟩

end DocumentError

namespace Checked

variable {Result : Type}

theorem of_query_alike {outcome other : Except QueryError Result}
    (alike : EndsAlike QueryError.Alike outcome other) :
    EndsAlike Fault.Alike (ofQuery outcome) (ofQuery other) := by
  cases outcome <;> cases other
  · exact .refused _ _ alike
  · exact alike.elim
  · exact alike.elim
  · exact alike

theorem at_alike {outcome other : Checked Result} (alike : EndsAlike Fault.Alike outcome other)
    (position : Position) :
    EndsAlike DocumentError.Alike (outcome.at position) (other.at position) := by
  cases outcome <;> cases other
  · exact .clause position _ _ alike
  · exact alike.elim
  · exact alike.elim
  · exact alike

end Checked

namespace ClauseOptions

/-- The options with their exclusion and their operator spelled in another way. -/
inductive Respells (options : ClauseOptions) : ClauseOptions → Prop
  | mk (exclusion operator : Option Text) (marked : SameKeyword options.exclusion exclusion)
      (joined : SameKeyword options.operator operator) :
      Respells options { options with exclusion := exclusion, operator := operator }

variable {options other : ClauseOptions} (respelled : options.Respells other)

include respelled

theorem Respells.kind_eq : other.kind = options.kind := by
  cases respelled
  rfl

theorem Respells.term_eq : other.term = options.term := by
  cases respelled
  rfl

theorem Respells.range_eq (format : BoundFormat) (now later : Timestamp) :
    other.range format now later = options.range format now later := by
  cases respelled
  rfl

theorem Respells.operator_is_some_eq : other.operator.isSome = options.operator.isSome := by
  cases respelled with
  | mk exclusion operator marked joined => exact joined.is_some_eq

theorem Respells.terms_alike (settings : Settings) :
    EndsAlike Fault.Alike (options.terms settings) (other.terms settings) := by
  cases respelled with
  | mk exclusion operator marked joined =>
      unfold terms
      refine .bind (.refl .same _) fun values => ?_
      have resolved := resolve_operator_alike joined settings.collectionOperator
      exact (Checked.of_query_alike resolved).bind fun _ => rfl

theorem Respells.group_operator_alike (settings : Settings) :
    EndsAlike Fault.Alike (options.groupOperator settings) (other.groupOperator settings) := by
  cases respelled with
  | mk exclusion operator marked joined =>
      exact Checked.of_query_alike (resolve_operator_alike joined settings.operator)

theorem Respells.decorate_alike (settings : Settings) (node : Node) :
    EndsAlike Fault.Alike (options.decorate settings node) (other.decorate settings node) := by
  cases respelled with
  | mk exclusion operator marked joined =>
      have excluded := read_exclusion_alike marked
      exact (Checked.of_query_alike excluded).bind fun _ => .refl .same _

end ClauseOptions

namespace Clause

/-- Respelled throughout, in the clause and in every clause nested in it. -/
inductive Respells : Clause → Clause → Prop
  | leaf (options other : ClauseOptions) (own : options.Respells other) :
      Respells ⟨options, none⟩ ⟨other, none⟩
  | nested (options other : ClauseOptions) (clauses others : List Clause)
      (own : options.Respells other) (each : List.Forall₂ Respells clauses others) :
      Respells ⟨options, some clauses⟩ ⟨other, some others⟩

theorem Respells.own {clause other : Clause} (respelled : clause.Respells other) :
    clause.options.Respells other.options := by
  cases respelled <;> assumption

theorem Respells.nested_paired {clause other : Clause} (respelled : clause.Respells other) :
    List.Forall₂ Respells clause.nested other.nested := by
  cases respelled with
  | leaf => exact .nil
  | nested options other clauses others own each => exact each

theorem Respells.is_set_in_eq {clause other : Clause} (respelled : clause.Respells other)
    (option : SpecialOption) : option.isSetIn other = option.isSetIn clause := by
  have own := respelled.own
  cases option with
  | operator => exact own.operator_is_some_eq
  | clauses => cases respelled <;> rfl
  | _ =>
      obtain ⟨_, _⟩ := other
      cases own
      rfl

theorem Respells.unaccepted_eq {clause other : Clause} (respelled : clause.Respells other) :
    other.unaccepted = clause.unaccepted := by
  unfold unaccepted
  simp only [respelled.own.kind_eq, respelled.is_set_in_eq]

theorem Respells.check_options_eq {clause other : Clause} (respelled : clause.Respells other) :
    other.checkOptions = clause.checkOptions := by
  rw [checkOptions, checkOptions, respelled.unaccepted_eq, respelled.own.kind_eq]

variable (settings : Settings) (clock : Clock)

/-- Built in any one place they end alike. -/
def BuildAlike (clause other : Clause) : Prop :=
  ∀ position, EndsAlike DocumentError.Alike (clause.build settings clock position)
    (other.build settings clock position)

theorem build_all_alike (position : Position) {clauses others : List Clause}
    (paired : List.Forall₂ (BuildAlike settings clock) clauses others) : ∀ number,
      EndsAlike DocumentError.Alike (buildAll settings clock position number clauses)
        (buildAll settings clock position number others) := by
  induction paired with
  | nil =>
      intro number
      rw [buildAll]
      exact rfl
  | cons first _ induction =>
      intro number
      rw [buildAll, buildAll]
      refine (first (position ++ [number])).bind fun node => ?_
      exact (induction (number + 1)).bind fun _ => rfl

theorem bare_alike {clause other : Clause} (respelled : clause.Respells other)
    (position : Position)
    (children : EndsAlike DocumentError.Alike (buildAll settings clock position 1 clause.nested)
      (buildAll settings clock position 1 other.nested)) :
    EndsAlike DocumentError.Alike (clause.bare settings clock position)
      (other.bare settings clock position) := by
  have own := respelled.own
  unfold bare
  rw [own.kind_eq]
  cases clause.options.kind with
  | term => exact Checked.at_alike (own.term_eq ▸ .refl .same _) position
  | terms => exact Checked.at_alike (own.terms_alike settings) position
  | range => exact Checked.at_alike (own.range_eq .plain _ _ ▸ .refl .same _) position
  | dateRange => exact Checked.at_alike (own.range_eq .date _ _ ▸ .refl .same _) position
  | group =>
      refine (Checked.at_alike (own.group_operator_alike settings) position).bind fun operator => ?_
      exact children.bind fun _ => rfl

theorem build_alike (clause : Clause) : ∀ other, clause.Respells other →
    clause.BuildAlike settings clock other := by
  induction clause with
  | clause options clauses induction =>
      intro other respelled position
      have paired : List.Forall₂ (BuildAlike settings clock) (nested ⟨options, clauses⟩)
          other.nested :=
        ((List.forall₂_and_left _ _).mpr ⟨induction, respelled.nested_paired⟩).imp
          fun child other ⟨alike, respelled⟩ => alike other respelled
      have children := build_all_alike settings clock position paired 1
      rw [build_eq, build_eq, respelled.check_options_eq]
      refine .bind (.refl .same _) fun _ => ?_
      refine (bare_alike settings clock respelled position children).bind fun node => ?_
      exact Checked.at_alike (respelled.own.decorate_alike settings node) position

end Clause

namespace Document

structure Respells (document other : Document) : Prop where
  operator : SameKeyword document.operator other.operator
  clauses : List.Forall₂ Clause.Respells document.clauses other.clauses

theorem build_alike (document other : Document) (respelled : document.Respells other)
    (settings : Settings) (clock : Clock) :
    EndsAlike DocumentError.Alike (document.build settings clock) (other.build settings clock) := by
  have children := Clause.build_all_alike settings clock [] (respelled.clauses.imp
    fun clause other same => clause.build_alike settings clock other same) 1
  have resolved := resolve_operator_alike respelled.operator settings.operator
  unfold build
  generalize resolveOperator document.operator settings.operator = first at resolved
  generalize resolveOperator other.operator settings.operator = second at resolved
  cases first <;> cases second
  · exact .operator _ _ resolved
  · exact resolved.elim
  · exact resolved.elim
  · next operator given =>
    obtain rfl : operator = given := resolved
    exact children.bind fun _ => rfl

end Document

namespace SettingsError

inductive Alike : SettingsError → SettingsError → Prop
  | refused (path : Text) (setting : String) (problem other : QueryError)
      (alike : problem.Alike other) :
      Alike (.refused path setting problem) (.refused path setting other)
  | same (error : SettingsError) : Alike error error

def HidesHint : SettingsError → Prop
  | .refused _ _ problem => problem.HidesHint
  | _ => False

theorem Alike.suggestion_eq_iff {error other : SettingsError} (alike : error.Alike other) :
    error.suggestion = other.suggestion ↔ (error.HidesHint ↔ other.HidesHint) := by
  cases alike with
  | refused path setting problem other alike => exact alike.suggestion_eq_iff
  | same => exact ⟨fun _ => .rfl, fun _ => rfl⟩

end SettingsError

namespace NamedFile

/-- The same settings from the same path, with the operators spelled in another way. -/
structure Respells (file other : NamedFile) : Prop where
  path : other.path = file.path
  operator : SameKeyword file.overrides.operator other.overrides.operator
  collectionOperator :
    SameKeyword file.overrides.collectionOperator other.overrides.collectionOperator
  defaultField : other.overrides.defaultField = file.overrides.defaultField

theorem read_operator_alike (path : Text) (setting : String) (standing : Operator)
    {given other : Option Text} (same : SameKeyword given other) :
    EndsAlike SettingsError.Alike (readOperator path setting standing given)
      (readOperator path setting standing other) := by
  rw [read_operator_eq, read_operator_eq]
  have read : EndsAlike QueryError.Alike (given.elim (.ok standing) Operator.read)
      (other.elim (.ok standing) Operator.read) := by
    cases same with
    | none => exact rfl
    | some word => exact Operator.read_alike word
  exact read.map_error (.refused path setting)

theorem Respells.apply_to_alike {file other : NamedFile} (respelled : file.Respells other)
    (settings : Settings) :
    EndsAlike SettingsError.Alike (file.applyTo settings) (other.applyTo settings) := by
  rw [apply_to_eq, apply_to_eq, respelled.path, respelled.defaultField]
  refine (read_operator_alike _ _ _ respelled.operator).bind fun operator => ?_
  exact (read_operator_alike _ _ _ respelled.collectionOperator).bind fun _ => rfl

end NamedFile

theorem Settings.merge_alike {files others : List NamedFile}
    (respelled : List.Forall₂ NamedFile.Respells files others) :
    EndsAlike SettingsError.Alike (merge files) (merge others) := by
  induction respelled with
  | nil => exact rfl
  | cons nearest _ induction => exact induction.bind nearest.apply_to_alike

theorem Effective.of_files_alike {files others : List NamedFile}
    (respelled : List.Forall₂ NamedFile.Respells files others) :
    EndsAlike SettingsError.Alike (ofFiles files) (ofFiles others) := by
  have paths : others.map NamedFile.path = files.map NamedFile.path := by
    induction respelled with
    | nil => rfl
    | cons nearest _ induction => rw [List.map_cons, List.map_cons, nearest.path, induction]
  unfold ofFiles
  rw [paths]
  exact (Settings.merge_alike respelled).bind fun _ => rfl

/-- White space around a keyword and the case of its letters decide neither its value nor whether
it is refused, in a document and in settings files as on its own. They decide one hint: a refused
operator has the hint for the negation where it is that word with no white space around it. -/
theorem respelled_keywords_read_alike (text front core back : Text)
    (before : ∀ c ∈ front, Text.isBlank c = true) (after : ∀ c ∈ back, Text.isBlank c = true)
    (letters : Text.lowerAscii core = Text.lowerAscii text) :
    EndsAlike (fun problem other => problem.Alike other ∧
        (problem.suggestion = other.suggestion ↔
          (Text.lowerAscii text = negation → front = [] ∧ back = [])))
      (Operator.read text) (Operator.read (front ++ core ++ back)) ∧
    EndsAlike (fun problem other => problem.Alike other ∧ problem.suggestion = other.suggestion)
      (Exclusion.read text) (Exclusion.read (front ++ core ++ back)) ∧
    (∀ document other : Document, document.Respells other → ∀ settings clock,
      EndsAlike (fun error given => error.Alike given ∧
          (error.suggestion = given.suggestion ↔ (error.HidesHint ↔ given.HidesHint)))
        (document.build settings clock) (other.build settings clock)) ∧
    (∀ files others, List.Forall₂ NamedFile.Respells files others →
      EndsAlike (fun error given => error.Alike given ∧
          (error.suggestion = given.suggestion ↔ (error.HidesHint ↔ given.HidesHint)))
        (Effective.ofFiles files) (Effective.ofFiles others)) := by
  have same := Text.SameWord.of_padded text front core back before after letters
  refine ⟨?_, ?_, ?_, ?_⟩
  · refine (Operator.read_alike same).mono fun problem other refused also alike => ⟨alike, ?_⟩
    rw [Operator.read_error _ _ refused, Operator.read_error _ _ also]
    exact QueryError.padded_suggestion_eq_iff text front core back before after letters
  · refine (Exclusion.read_alike same).mono fun problem other refused also alike => ⟨alike, ?_⟩
    rw [Exclusion.read_error _ _ refused, Exclusion.read_error _ _ also]
    rfl
  · intro document other respelled settings clock
    exact (document.build_alike other respelled settings clock).mono
      fun _ _ _ _ alike => ⟨alike, alike.suggestion_eq_iff⟩
  · intro files others respelled
    exact (Effective.of_files_alike respelled).mono
      fun _ _ _ _ alike => ⟨alike, alike.suggestion_eq_iff⟩

/-- Two words, given as a group with a sign. -/
def markedWords (joined marked : Text) : Document :=
  ⟨none,
    [⟨{ kind := .terms, values := some [.text ['a'], .text ['b']], exclusion := some marked,
        operator := some joined }, none⟩]⟩

theorem padded_words_read_alike :
    (∃ problem other, Operator.read ['x', 'o', 'r'] = .error problem ∧
      Operator.read ['\u3000', 'X', 'o', 'R', '\n'] = .error other ∧
      problem.suggestion = other.suggestion) ∧
    ∃ query, (markedWords ['o', 'r'] ['-']).build {} (.still ⟨0, 0, 0⟩) = .ok query ∧
      (markedWords ['\t', 'O', 'r'] ['-', ' ']).build {} (.still ⟨0, 0, 0⟩) = .ok query ∧
      query.render = "-(a OR b)".toList := by
  obtain ⟨refused, _, documents, _⟩ := respelled_keywords_read_alike ['x', 'o', 'r'] ['\u3000']
    ['X', 'o', 'R'] ['\n'] (by simp [Text.isBlank]) (by simp [Text.isBlank]) (by decide)
  have joined : Text.SameWord ['o', 'r'] ['\t', 'O', 'r'] :=
    .of_padded _ ['\t'] ['O', 'r'] [] (by simp [Text.isBlank]) (by simp) (by decide)
  have marked : Text.SameWord ['-'] ['-', ' '] :=
    .of_padded _ [] ['-'] [' '] (by simp) (by simp [Text.isBlank]) (by decide)
  have respelled : (markedWords ['o', 'r'] ['-']).Respells
      (markedWords ['\t', 'O', 'r'] ['-', ' ']) :=
    ⟨.none, .cons (.leaf _ _ (.mk _ _ (.some marked) (.some joined))) .nil⟩
  have alike := documents _ _ respelled {} (.still ⟨0, 0, 0⟩)
  exact ⟨⟨_, _, rfl, rfl, refused.2.mpr (by decide)⟩, _, rfl, alike.ok rfl, by decide +kernel⟩

/-- The hint is lost with white space around the word, and only the hint. -/
theorem padded_negation_not_hinted :
    ∃ problem other, Operator.read negation = .error problem ∧
      Operator.read (' ' :: negation ++ [' ']) = .error other ∧ problem.Alike other ∧
      problem.suggestion =
        some "Negate a clause with a prohibit exclusion instead of a NOT operator" ∧
      other.suggestion = none := by
  have same : Text.SameWord negation (' ' :: negation ++ [' ']) :=
    .of_padded _ [' '] negation [' '] (by simp [Text.isBlank]) (by simp [Text.isBlank]) rfl
  exact ⟨_, _, rfl, rfl, .operator _ _ same, by decide, by decide⟩

end LuceneQuery
