import LuceneQuery.Settings
import LuceneQuery.Proofs.Outcome

/-!
# Merged settings

Files are merged from the farthest to the nearest, and the first operator on the way that cannot
be read is reported. Where all can be read, the nearest file that has a value decides.
-/

namespace LuceneQuery

set_option autoImplicit false

namespace NamedFile

/-- A file without a table of settings overrides none. -/
def overrides (file : NamedFile) : Overrides := file.content.query.getD {}

theorem read_operator_eq (path : Text) (setting : String) (standing : Operator)
    (given : Option Text) :
    readOperator path setting standing given =
      (given.elim (.ok standing) Operator.read).mapError (.refused path setting) := by
  cases given with
  | none => rfl
  | some text =>
      simp only [readOperator, Option.elim_some]
      cases Operator.read text <;> rfl

theorem apply_to_eq (file : NamedFile) (settings : Settings) :
    file.applyTo settings = (do
      let operator ← readOperator file.path "query.operator" settings.operator
        file.overrides.operator
      let collectionOperator ← readOperator file.path "query.collection_operator"
        settings.collectionOperator file.overrides.collectionOperator
      return ⟨operator, collectionOperator,
        (file.overrides.defaultField.map Text.trim).getD settings.defaultField⟩) := by
  unfold applyTo overrides
  cases file.content.query with
  | none => rfl
  | some given =>
      simp only [Option.getD_some]
      cases given.defaultField <;> rfl

theorem apply_to_eq_ok (file : NamedFile) (settings result : Settings)
    (applied : file.applyTo settings = .ok result) :
    file.overrides.operator.elim (.ok settings.operator) Operator.read = .ok result.operator ∧
    file.overrides.collectionOperator.elim (.ok settings.collectionOperator) Operator.read =
      .ok result.collectionOperator ∧
    result.defaultField =
      (file.overrides.defaultField.map Text.trim).getD settings.defaultField := by
  rw [apply_to_eq] at applied
  simp only [bind_eq_ok, read_operator_eq, map_error_eq_ok] at applied
  obtain ⟨operator, read, collectionOperator, readCollection, same⟩ := applied
  cases same
  exact ⟨read, readCollection, rfl⟩

/-- The operators of a file that cannot be read, in the order in which they are looked at. -/
def refused (file : NamedFile) : List SettingsError :=
  (refusals Operator.read file.overrides.operator).map (.refused file.path "query.operator") ++
    (refusals Operator.read file.overrides.collectionOperator).map
      (.refused file.path "query.collection_operator")

theorem apply_to_stops (file : NamedFile) (settings : Settings) :
    StopsAtFirst file.refused (file.applyTo settings) := by
  rw [apply_to_eq, read_operator_eq, refused]
  have operator := StopsAtFirst.given Operator.read file.overrides.operator settings.operator
  refine (operator.map_error _).bind fun _ _ => ?_
  rw [read_operator_eq]
  exact ((StopsAtFirst.given Operator.read _ _).map_error _).map _

def HasInvalidOperator (file : NamedFile) : Prop :=
  ∃ text problem, Operator.read text = .error problem ∧
    (file.overrides.operator = some text ∨ file.overrides.collectionOperator = some text)

theorem refused_eq_nil (file : NamedFile) : file.refused = [] ↔ ¬ file.HasInvalidOperator := by
  simp only [refused, List.append_eq_nil_iff, List.map_eq_nil_iff, refusals_eq_nil,
    HasInvalidOperator, Option.mem_def]
  constructor
  · rintro ⟨operators, collections⟩ ⟨text, problem, unread, given | given⟩
    · exact operators text given problem unread
    · exact collections text given problem unread
  · intro valid
    refine ⟨fun text given problem unread => valid ?_, fun text given problem unread => valid ?_⟩
    · exact ⟨text, problem, unread, .inl given⟩
    · exact ⟨text, problem, unread, .inr given⟩

end NamedFile

namespace Settings

theorem merge_stops (files : List NamedFile) :
    StopsAtFirst (files.reverse.flatMap NamedFile.refused) (merge files) := by
  induction files with
  | nil => exact rfl
  | cons nearest farther induction =>
      rw [List.reverse_cons, List.flatMap_append, List.flatMap_singleton]
      exact induction.bind fun standing _ => nearest.apply_to_stops standing

/-- For each setting the first of the files that has a value decides, and the default where none
has one. -/
structure InForce (files : List NamedFile) (settings : Settings) : Prop where
  operator : (files.findSome? fun file => file.overrides.operator).elim (.ok .and)
    Operator.read = .ok settings.operator
  collectionOperator : (files.findSome? fun file => file.overrides.collectionOperator).elim
    (.ok .or) Operator.read = .ok settings.collectionOperator
  defaultField : settings.defaultField =
    ((files.findSome? fun file => file.overrides.defaultField).map Text.trim).getD []

/-- An operator is read from the nearest file or stands as it was. -/
theorem first_operator {Layer : Type} (given : Layer → Option Text) (nearest : Layer)
    (farther : List Layer) (default standing operator : Operator)
    (behind : (farther.findSome? given).elim (.ok default) Operator.read = .ok standing)
    (here : (given nearest).elim (.ok standing) Operator.read = .ok operator) :
    ((nearest :: farther).findSome? given).elim (.ok default) Operator.read = .ok operator := by
  rw [List.findSome?_cons]
  cases own : given nearest with
  | none =>
      rw [own] at here
      cases here
      exact behind
  | some text =>
      rw [own] at here
      exact here

theorem merge_in_force (files : List NamedFile) : ∀ settings,
    merge files = .ok settings → InForce files settings := by
  induction files with
  | nil =>
      intro settings merged
      cases merged
      exact ⟨rfl, rfl, rfl⟩
  | cons nearest farther induction =>
      intro settings merged
      simp only [merge, bind_eq_ok] at merged
      obtain ⟨standing, behind, applied⟩ := merged
      have force := induction standing behind
      obtain ⟨operator, collectionOperator, defaultField⟩ :=
        nearest.apply_to_eq_ok standing settings applied
      refine ⟨?_, ?_, ?_⟩
      · exact first_operator _ nearest farther .and _ _ force.operator operator
      · exact first_operator _ nearest farther .or _ _ force.collectionOperator collectionOperator
      · rw [defaultField, force.defaultField, List.findSome?_cons]
        cases nearest.overrides.defaultField <;> rfl

end Settings

namespace Effective

theorem of_files_stops (files : List NamedFile) :
    StopsAtFirst (files.reverse.flatMap NamedFile.refused) (ofFiles files) :=
  (Settings.merge_stops files).map _

theorem of_files_eq_ok (files : List NamedFile) (effective : Effective)
    (merged : ofFiles files = .ok effective) :
    Settings.InForce files effective.settings ∧ effective.files = files.map NamedFile.path := by
  unfold ofFiles at merged
  simp only [bind_eq_ok] at merged
  obtain ⟨settings, inForce, same⟩ := merged
  cases same
  exact ⟨Settings.merge_in_force files settings inForce, rfl⟩

end Effective

end LuceneQuery
