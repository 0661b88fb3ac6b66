import LuceneQuery.Proofs.Merging
import LuceneQuery.Settings.Template

/-!
# New settings files among others

A new settings file spells out the values that hold without any file. Behind all other files it
changes nothing. Among them it hides what the files behind it set, so it changes nothing just
where they set nothing but those values, or a file in front of it decides anyway.
-/

namespace LuceneQuery

set_option autoImplicit false

namespace Template

/-- What a new settings file says. -/
def content : Template → SettingsFile
  | .forProject =>
      { root := some false
        query := some
          { operator := some Operator.and.keyword
            collectionOperator := some Operator.or.keyword
            defaultField := some [] } }
  | .forHome =>
      { query := some
          { operator := some Operator.and.keyword
            collectionOperator := some Operator.or.keyword } }

set_option maxRecDepth 4000 in
theorem read_text (template : Template) :
    SettingsFile.read template.text = .ok template.content := by
  have read : (SettingsFile.read template.text).toOption = some template.content := by
    -- The lines are turned into lists of characters first, which the kernel is slow to do.
    cases template with
    | forProject =>
        unfold text lines projectLines
        simp only [List.flatMap_cons, List.flatMap_nil]
        repeat rw [String.toList_ofList]
        decide +kernel
    | forHome =>
        unfold text lines homeLines
        simp only [List.flatMap_cons, List.flatMap_nil]
        repeat rw [String.toList_ofList]
        decide +kernel
  cases outcome : SettingsFile.read template.text with
  | ok file =>
      rw [outcome] at read
      cases read
      rfl
  | error problem =>
      rw [outcome] at read
      cases read

theorem named_read_text (template : Template) (path : Text) :
    NamedFile.read path template.text = .ok ⟨path, template.content⟩ := by
  rw [NamedFile.read, read_text]

end Template

namespace Settings

theorem merge_succeeds_iff (files : List NamedFile) :
    (∃ settings, merge files = .ok settings) ↔ ∀ file ∈ files, file.refused = [] := by
  rw [(merge_stops files).ok_iff, List.flatMap_eq_nil_iff]
  simp only [List.mem_reverse]

theorem merge_home_behind (path : Text) (files : List NamedFile) :
    merge (files ++ [⟨path, Template.forHome.content⟩]) = merge files := by
  induction files with
  | nil => rfl
  | cons nearest farther induction => rw [List.cons_append, merge, merge, induction]

/-- One setting with and without a file that spells out its default, in front of some files and
behind others. -/
theorem kept_iff {Value : Type} (given : NamedFile → Option Text)
    (read : Text → Except QueryError Value) (default : Value) (nearer farther : List NamedFile)
    (file : NamedFile) (spelled : ∃ text, given file = some text ∧ read text = .ok default)
    (before after behind : Value)
    (without : ((nearer ++ farther).findSome? given).elim (.ok default) read = .ok before)
    (among : ((nearer ++ file :: farther).findSome? given).elim (.ok default) read = .ok after)
    (standing : (farther.findSome? given).elim (.ok default) read = .ok behind) :
    after = before ↔ behind = default ∨ ∃ near ∈ nearer, (given near).isSome = true := by
  obtain ⟨text, here, meaning⟩ := spelled
  rw [List.findSome?_append] at without among
  rw [List.findSome?_cons, here] at among
  cases decided : nearer.findSome? given with
  | some own =>
      rw [decided] at without among
      have same : after = before := by
        simpa using among.symm.trans without
      obtain ⟨near, member, sets⟩ := List.exists_of_findSome?_eq_some decided
      exact iff_of_true same (.inr ⟨near, member, by simp [sets]⟩)
  | none =>
      rw [decided] at without among
      have defaulted : after = default := by
        simpa [meaning, eq_comm] using among
      have uncovered : before = behind := by
        simpa using without.symm.trans standing
      have silent : ¬ ∃ near ∈ nearer, (given near).isSome = true := by
        simpa [List.findSome?_eq_none_iff] using decided
      rw [defaulted, uncovered, or_iff_left silent, eq_comm]

/-- Each of the settings either is the default or is set by one of the files. -/
structure CoveredBy (settings : Settings) (files : List NamedFile) : Prop where
  operator : settings.operator = .and ∨
    ∃ file ∈ files, file.overrides.operator.isSome = true
  collectionOperator : settings.collectionOperator = .or ∨
    ∃ file ∈ files, file.overrides.collectionOperator.isSome = true
  defaultField : settings.defaultField = [] ∨
    ∃ file ∈ files, file.overrides.defaultField.isSome = true

/-- The default field as it is in force, in the form of the operators. -/
theorem default_field_in_force (files : List NamedFile) (settings : Settings)
    (force : InForce files settings) :
    (files.findSome? fun file => file.overrides.defaultField).elim (.ok [])
      (fun given => Except.ok (ε := QueryError) (Text.trim given)) = .ok settings.defaultField := by
  rw [force.defaultField]
  cases files.findSome? fun file => file.overrides.defaultField <;> rfl

theorem among_project_iff (nearer farther : List NamedFile) (path : Text)
    (before after behind : Settings) (without : merge (nearer ++ farther) = .ok before)
    (among : merge (nearer ++ ⟨path, Template.forProject.content⟩ :: farther) = .ok after)
    (standing : merge farther = .ok behind) :
    after = before ↔ behind.CoveredBy nearer := by
  have without := merge_in_force _ _ without
  have among := merge_in_force _ _ among
  have standing := merge_in_force _ _ standing
  let file : NamedFile := ⟨path, Template.forProject.content⟩
  have operator := kept_iff (fun file => file.overrides.operator) Operator.read .and nearer farther
    file ⟨_, rfl, rfl⟩ _ _ _ without.operator among.operator standing.operator
  have collectionOperator := kept_iff (fun file => file.overrides.collectionOperator)
    Operator.read .or nearer farther file ⟨_, rfl, rfl⟩ _ _ _ without.collectionOperator
    among.collectionOperator standing.collectionOperator
  have defaultField := kept_iff (fun file => file.overrides.defaultField)
    (fun given => .ok (Text.trim given)) [] nearer farther file ⟨_, rfl, rfl⟩ _ _ _
    (default_field_in_force _ _ without) (default_field_in_force _ _ among)
    (default_field_in_force _ _ standing)
  constructor
  · rintro rfl
    exact ⟨operator.mp rfl, collectionOperator.mp rfl, defaultField.mp rfl⟩
  · intro covered
    have first := operator.mpr covered.operator
    have second := collectionOperator.mpr covered.collectionOperator
    have third := defaultField.mpr covered.defaultField
    cases after
    cases before
    simp_all

/-- Wherever files can be merged, they still can with a new settings file among them. A new file
of a project changes nothing just where the files behind it put nothing but defaults in force or
the files in front of it decide. A new file of the home directory, which comes last, changes
nothing at all. -/
theorem new_file_neutral_iff (nearer farther : List NamedFile) (before : Settings) (path : Text)
    (merged : merge (nearer ++ farther) = .ok before) :
    ∃ project home behind after,
      NamedFile.read path Template.forProject.text = .ok project ∧
      NamedFile.read path Template.forHome.text = .ok home ∧
      merge farther = .ok behind ∧
      merge (nearer ++ project :: farther) = .ok after ∧
      (after = before ↔ behind.CoveredBy nearer) ∧
      merge (nearer ++ farther ++ [home]) = .ok before := by
  have sound := (merge_succeeds_iff _).mp ⟨before, merged⟩
  obtain ⟨behind, standing⟩ := (merge_succeeds_iff farther).mpr
    fun file member => sound file (List.mem_append_right _ member)
  obtain ⟨after, among⟩ := (merge_succeeds_iff
      (nearer ++ ⟨path, Template.forProject.content⟩ :: farther)).mpr (by
    intro file member
    rcases List.mem_append.mp member with near | rest
    · exact sound file (List.mem_append_left _ near)
    · rcases List.mem_cons.mp rest with rfl | far
      · rfl
      · exact sound file (List.mem_append_right _ far))
  refine ⟨_, _, behind, after, Template.named_read_text .forProject path,
    Template.named_read_text .forHome path, standing, among,
    among_project_iff nearer farther path before after behind merged among standing, ?_⟩
  rw [merge_home_behind, merged]

/-- A file that joins clauses by the operator that is no default, and names a field. -/
def wideFile : NamedFile :=
  ⟨['b'], { query := some { operator := some "or".toList, defaultField := some "body".toList } }⟩

/-- A file that decides on both before it. -/
def narrowFile : NamedFile :=
  ⟨['a'], { query := some { operator := some "Or".toList, defaultField := some "title".toList } }⟩

theorem narrow_file_decides :
    ∃ project, merge ([narrowFile] ++ [wideFile]) = .ok ⟨.or, .or, "title".toList⟩ ∧
      NamedFile.read ['p'] Template.forProject.text = .ok project ∧
      merge ([narrowFile] ++ project :: [wideFile]) = .ok ⟨.or, .or, "title".toList⟩ := by
  have merged : merge ([narrowFile] ++ [wideFile]) = .ok ⟨.or, .or, "title".toList⟩ := rfl
  obtain ⟨project, _, behind, after, read, _, standing, among, kept, _⟩ :=
    new_file_neutral_iff [narrowFile] [wideFile] _ ['p'] merged
  have covered : behind.CoveredBy [narrowFile] :=
    ⟨.inr ⟨narrowFile, by simp, rfl⟩, by cases standing; exact .inl rfl,
      .inr ⟨narrowFile, by simp, rfl⟩⟩
  exact ⟨project, merged, read, kept.mpr covered ▸ among⟩

/-- In front of a file that sets anything else, the new file of a project hides it. -/
theorem new_file_hides_wide_file :
    ∃ project, NamedFile.read ['p'] Template.forProject.text = .ok project ∧
      merge [wideFile] = .ok ⟨.or, .or, "body".toList⟩ ∧
      merge [project, wideFile] = .ok {} ∧
      (⟨.or, .or, "body".toList⟩ : Settings) ≠ {} :=
  ⟨_, Template.named_read_text .forProject ['p'], rfl, rfl, by decide⟩

end Settings

end LuceneQuery
