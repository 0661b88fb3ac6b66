import LuceneQuery.Proofs.ClauseTree

/-!
# Documents with their defaults written out

What a document leaves out, its settings decide: the operators, the field of a clause, and for
any settings the same exclusion, boost and inclusive bounds. Written out, the document means
under all settings what it meant under its own, also where it is refused.
-/

namespace LuceneQuery

set_option autoImplicit false

theorem Operator.read_keyword (operator : Operator) : read operator.keyword = .ok operator := by
  cases operator <;> rfl

/-- The operator that stands for one that is left out. -/
def Settings.standingOperator (settings : Settings) : ClauseKind → Option Operator
  | .terms => some settings.collectionOperator
  | .group => some settings.operator
  | _ => none

/-- Both bounds of a range belong to it where nothing else is said. -/
def standingInclusive : ClauseKind → Option Bool
  | .range => some true
  | .dateRange => some true
  | _ => none

namespace ClauseOptions

def filled (settings : Settings) (options : ClauseOptions) : ClauseOptions :=
  { options with
    field := options.field.or (some settings.defaultField)
    exclusion := options.exclusion.or (some Exclusion.none.keyword)
    boost := options.boost.or (some 0)
    inclusive := options.inclusive.or (standingInclusive options.kind)
    operator := options.operator.or
      ((settings.standingOperator options.kind).map Operator.keyword) }

end ClauseOptions

namespace Clause

mutual

def filled (settings : Settings) : Clause → Clause
  | ⟨options, none⟩ => ⟨options.filled settings, none⟩
  | ⟨options, some nested⟩ => ⟨options.filled settings, some (filledAll settings nested)⟩

def filledAll (settings : Settings) : List Clause → List Clause
  | [] => []
  | clause :: later => clause.filled settings :: filledAll settings later

end

theorem filled_eq (settings : Settings) (clause : Clause) :
    clause.filled settings =
      ⟨clause.options.filled settings, clause.clauses.map (filledAll settings)⟩ := by
  obtain ⟨options, clauses⟩ := clause
  cases clauses <;> rfl

end Clause

def Document.filled (settings : Settings) (document : Document) : Document :=
  { operator := document.operator.or (some settings.operator.keyword)
    clauses := Clause.filledAll settings document.clauses }

/-- An operator that is written out does not ask the settings any more. -/
theorem resolve_operator_written (given : Option Text) (standing other : Operator) :
    resolveOperator (given.or (some standing.keyword)) other = resolveOperator given standing := by
  cases given with
  | none => exact standing.read_keyword
  | some text => rfl

namespace ClauseOptions

variable (options : ClauseOptions) (settings other : Settings)

theorem terms_filled (kind : options.kind = .terms) :
    (options.filled settings).terms other = options.terms settings := by
  have written : resolveOperator (options.filled settings).operator other.collectionOperator =
      resolveOperator options.operator settings.collectionOperator := by
    simp only [filled, kind, Settings.standingOperator, Option.map_some,
      resolve_operator_written]
  unfold terms
  rw [written]
  rfl

theorem group_operator_filled (kind : options.kind = .group) :
    (options.filled settings).groupOperator other = options.groupOperator settings := by
  simp only [groupOperator, filled, kind, Settings.standingOperator, Option.map_some,
    resolve_operator_written]

theorem range_filled (format : BoundFormat) (now later : Timestamp)
    (kind : options.kind = .range ∨ options.kind = .dateRange) :
    (options.filled settings).range format now later = options.range format now later := by
  have standing : standingInclusive options.kind = some true := by
    rcases kind with kind | kind <;> rw [kind] <;> rfl
  have inclusive : (options.inclusive.or (some true)).getD true = options.inclusive.getD true := by
    cases options.inclusive <;> rfl
  simp only [range, filled, standing, inclusive]

theorem decorate_filled (node : Node) :
    (options.filled settings).decorate other node = options.decorate settings node := by
  have exclusion : Exclusion.read ((options.exclusion.or (some Exclusion.none.keyword)).getD []) =
      Exclusion.read (options.exclusion.getD []) := by
    cases options.exclusion with
    | none => rfl
    | some text => rfl
  have field : (options.field.or (some settings.defaultField)).getD other.defaultField =
      options.field.getD settings.defaultField := by
    cases options.field <;> rfl
  have boost : (options.boost.or (some 0)).getD 0 = options.boost.getD 0 := by
    cases options.boost <;> rfl
  simp only [decorate, filled, exclusion, field, boost]

end ClauseOptions

namespace Clause

variable (settings other : Settings) (clock : Clock)

/-- A default is written only where the kind of the clause accepts it. -/
theorem unaccepted_filled (clause : Clause) :
    (clause.filled settings).unaccepted = clause.unaccepted := by
  rw [filled_eq]
  refine List.filter_congr fun option _ => ?_
  cases option with
  | inclusive =>
      cases kind : clause.options.kind <;>
        simp [SpecialOption.isSetIn, SpecialOption.acceptedBy, ClauseOptions.filled,
          standingInclusive, kind]
  | operator =>
      cases kind : clause.options.kind <;>
        simp [SpecialOption.isSetIn, SpecialOption.acceptedBy, ClauseOptions.filled,
          Settings.standingOperator, kind]
  | clauses => simp [SpecialOption.isSetIn, ClauseOptions.filled]
  | _ => rfl

theorem options_filled (clause : Clause) :
    (clause.filled settings).options = clause.options.filled settings := by
  rw [filled_eq]

theorem nested_filled (clause : Clause) :
    (clause.filled settings).nested = filledAll settings clause.nested := by
  rw [filled_eq, nested, nested]
  cases clause.clauses <;> rfl

theorem check_options_filled (clause : Clause) :
    (clause.filled settings).checkOptions = clause.checkOptions := by
  rw [checkOptions, unaccepted_filled, options_filled]
  rfl

theorem bare_filled (clause : Clause) (position : Position)
    (children : buildAll other clock position 1 (filledAll settings clause.nested) =
      buildAll settings clock position 1 clause.nested) :
    (clause.filled settings).bare other clock position = clause.bare settings clock position := by
  have kept : (clause.options.filled settings).kind = clause.options.kind := rfl
  unfold bare
  rw [options_filled, nested_filled, children, kept]
  cases kind : clause.options.kind with
  | term => rfl
  | terms => simp only [clause.options.terms_filled settings other kind]
  | range => simp only [clause.options.range_filled settings .plain _ _ (.inl kind)]
  | dateRange => simp only [clause.options.range_filled settings .date _ _ (.inr kind)]
  | group => simp only [clause.options.group_operator_filled settings other kind]

theorem build_all_filled (position : Position) (clauses : List Clause)
    (each : ∀ clause ∈ clauses, ∀ place,
      (clause.filled settings).build other clock place = clause.build settings clock place) :
    ∀ number, buildAll other clock position number (filledAll settings clauses) =
      buildAll settings clock position number clauses := by
  induction clauses with
  | nil =>
      intro number
      rfl
  | cons clause later induction =>
      intro number
      rw [filledAll, buildAll, buildAll, each clause (by simp),
        induction fun child member => each child (List.mem_cons_of_mem _ member)]

theorem build_filled (clause : Clause) : ∀ position,
    (clause.filled settings).build other clock position = clause.build settings clock position := by
  induction clause with
  | clause options clauses induction =>
      intro position
      have children :=
        build_all_filled settings other clock position (nested ⟨options, clauses⟩) induction 1
      rw [build_eq, build_eq, check_options_filled, bare_filled _ _ _ _ _ children]
      simp only [options_filled, ClauseOptions.decorate_filled]

end Clause

/-- Settings only fill gaps: the document with its defaults written out is built under any other
settings to what it was built to, or refused with the same error at the same position. -/
theorem Document.written_defaults_build_alike (document : Document) (settings other : Settings)
    (clock : Clock) :
    (document.filled settings).build other clock = document.build settings clock := by
  have children := Clause.build_all_filled settings other clock [] document.clauses
    (fun clause _ => clause.build_filled settings other clock) 1
  rw [build, build, filled, resolve_operator_written, children]

end LuceneQuery
