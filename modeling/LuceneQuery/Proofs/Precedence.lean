import LuceneQuery.Proofs.Keywords
import LuceneQuery.Proofs.Merging

/-!
# Which file decides

A setting has the value of the nearest file that gives it one. An operator that cannot be read is
looked for the other way round: the farthest file that has one is reported, even where a nearer file
gives the setting a value that can be read.
-/

namespace LuceneQuery

set_option autoImplicit false

namespace NamedFile

/-- What is reported of a file: an operator that cannot be read, and where both cannot, the one that
joins the clauses of a document. -/
inductive Reports (file : NamedFile) : SettingsError → Prop
  | operator (given : Text) (set : file.overrides.operator = some given)
      (unread : Operator.read given = .error (.invalidOperator given)) :
      Reports file (.refused file.path "query.operator" (.invalidOperator given))
  | collectionOperator (given : Text)
      (first : ∀ text ∈ file.overrides.operator, ∃ operator, Operator.read text = .ok operator)
      (set : file.overrides.collectionOperator = some given)
      (unread : Operator.read given = .error (.invalidOperator given)) :
      Reports file (.refused file.path "query.collection_operator" (.invalidOperator given))

theorem refused_head_iff (file : NamedFile) (error : SettingsError) :
    file.refused.head? = some error ↔ file.Reports error := by
  rw [refused, List.head?_append, List.head?_map, List.head?_map, Option.or_eq_some_iff,
    Option.map_eq_none_iff, List.head?_eq_none_iff, refusals_eq_nil]
  simp only [Option.map_eq_some_iff, refusals_head_iff, never_error_iff]
  constructor
  · rintro (⟨problem, ⟨given, set, unread⟩, rfl⟩ | ⟨first, problem, ⟨given, set, unread⟩, rfl⟩)
    · obtain rfl := Operator.read_error given problem unread
      exact .operator given set unread
    · obtain rfl := Operator.read_error given problem unread
      exact .collectionOperator given first set unread
  · rintro (⟨given, set, unread⟩ | ⟨given, first, set, unread⟩)
    · exact .inl ⟨_, ⟨given, set, unread⟩, rfl⟩
    · exact .inr ⟨first, _, ⟨given, set, unread⟩, rfl⟩

end NamedFile

namespace Effective

theorem of_files_fails_iff (files : List NamedFile) :
    (∃ error, ofFiles files = .error error) ↔ ∃ file ∈ files, file.HasInvalidOperator := by
  rw [(of_files_stops files).fails_iff, Ne, List.flatMap_eq_nil_iff]
  simp only [List.mem_reverse, NamedFile.refused_eq_nil, not_forall, not_not, exists_prop]

theorem of_files_error_iff (files : List NamedFile) (error : SettingsError) :
    ofFiles files = .error error ↔
      ∃ nearer file farther, files = nearer ++ file :: farther ∧ file.Reports error ∧
        ∀ far ∈ farther, ¬ far.HasInvalidOperator := by
  rw [(of_files_stops files).error_iff, List.head?_flatMap, List.findSome?_eq_some_iff]
  simp only [NamedFile.refused_head_iff, List.head?_eq_none_iff, NamedFile.refused_eq_nil]
  constructor
  · rintro ⟨farther, file, nearer, reversed, reports, valid⟩
    refine ⟨nearer.reverse, file, farther.reverse, ?_, reports, ?_⟩
    · rw [← List.reverse_reverse files, reversed]
      simp
    · simpa using valid
  · rintro ⟨nearer, file, farther, rfl, reports, valid⟩
    refine ⟨farther.reverse, file, nearer.reverse, by simp, reports, ?_⟩
    simpa using valid

/-- Files are merged unless an operator in one of them cannot be read. The error then is that of the
farthest such file, and otherwise each setting is that of the nearest file that has it. -/
theorem nearest_file_decides (files : List NamedFile) :
    ((∃ error, ofFiles files = .error error) ↔ ∃ file ∈ files, file.HasInvalidOperator) ∧
    (∀ error, ofFiles files = .error error ↔
      ∃ nearer file farther, files = nearer ++ file :: farther ∧ file.Reports error ∧
        ∀ far ∈ farther, ¬ far.HasInvalidOperator) ∧
    (∀ effective, ofFiles files = .ok effective →
      Settings.InForce files effective.settings ∧ effective.files = files.map NamedFile.path) :=
  ⟨of_files_fails_iff files, of_files_error_iff files, of_files_eq_ok files⟩

/-- The farther file is named, though the nearer one sets the operator anew. -/
example :
    let near : NamedFile := ⟨['n'], { query := some { operator := some "or".toList } }⟩
    let far : NamedFile := ⟨['f'], { query := some { operator := some "nor".toList } }⟩
    ofFiles [near, far] =
      .error (.refused ['f'] "query.operator" (.invalidOperator "nor".toList)) := rfl

end Effective

end LuceneQuery
