import LuceneQuery.Proofs.Defaults
import LuceneQuery.Proofs.Merging
import LuceneQuery.Proofs.Trim
import LuceneQuery.Proofs.WrittenTable

/-!
# Settings that are written and read

The settings in force are written as a settings file that overrides all of them. Read again and
merged alone, it puts the same settings in force. The settings that files can put in force are
those whose default field is trimmed.
-/

namespace LuceneQuery

set_option autoImplicit false

namespace Settings

/-- The settings file that the written settings are. -/
def asFile (settings : Settings) : SettingsFile :=
  { query := some
      { operator := some settings.operator.keyword
        collectionOperator := some settings.collectionOperator.keyword
        defaultField := some settings.defaultField } }

theorem write_eq_table (settings : Settings) :
    settings.write = Toml.writeTable "query".toList
      [("operator", settings.operator.keyword),
        ("collection_operator", settings.collectionOperator.keyword),
        ("default_field", settings.defaultField)] := by
  have header : "[query]\n".toList = '[' :: "query".toList ++ [']', '\n'] := by decide
  unfold write
  rw [header]
  simp only [Toml.writeTable, List.flatMap_cons, List.flatMap_nil, List.append_nil,
    List.cons_append, List.append_assoc, List.nil_append]

theorem bare_names : ∀ name ∈ ["query", "operator", "collection_operator", "default_field"],
    Toml.IsBareName name.toList := by
  have bare : ∀ name ∈ ["query", "operator", "collection_operator", "default_field"],
      name.toList ≠ [] ∧ name.toList.all Toml.KeyForm.isBare = true := by decide
  intro name listed
  exact (bare name listed).imp_right List.all_eq_true.mp

/-- The entries of the table go to their places in the order of their keys. -/
theorem fill_written (operator collectionOperator defaultField : Text) :
    Toml.fill (Toml.Line.bodyLines [("operator", operator),
      ("collection_operator", collectionOperator), ("default_field", defaultField)]) [] =
    .ok [("collection_operator".toList, .leaf (.string collectionOperator)),
      ("default_field".toList, .leaf (.string defaultField)),
      ("operator".toList, .leaf (.string operator))] := by
  have key : ∀ name : Text, Toml.KeyForm.key ⟨[], some name⟩ = .ok ⟨[], name⟩ := by
    intro name
    simp [Toml.KeyForm.key, Toml.depthLimit]
  simp only [Toml.Line.bodyLines, List.map_cons, List.map_nil, Toml.fill,
    Toml.Form.value_of_string, key]
  rfl

theorem read_write (settings : Settings) :
    SettingsFile.read settings.write = .ok settings.asFile := by
  obtain ⟨query, operator, collectionOperator, defaultField⟩ :
      Toml.IsBareName "query".toList ∧ Toml.IsBareName "operator".toList ∧
        Toml.IsBareName "collection_operator".toList ∧
          Toml.IsBareName "default_field".toList := by
    simpa only [List.forall_mem_cons, List.not_mem_nil, false_imp_iff, implies_true,
      and_true] using bare_names
  have table := Toml.read_write_table "query".toList
    [("operator", settings.operator.keyword),
      ("collection_operator", settings.collectionOperator.keyword),
      ("default_field", settings.defaultField)] query
    (by simp only [List.forall_mem_cons, List.not_mem_nil, false_imp_iff, implies_true]
        exact ⟨operator, collectionOperator, defaultField, trivial⟩)
  rw [← write_eq_table, fill_written] at table
  rw [SettingsFile.read, Toml.decode, table]
  rfl

theorem merge_as_file (settings : Settings) (path : Text)
    (trimmed : Text.trim settings.defaultField = settings.defaultField) :
    merge [⟨path, settings.asFile⟩] = .ok settings := by
  have operator : NamedFile.readOperator path "query.operator" .and
      (some settings.operator.keyword) = .ok settings.operator := by
    rw [NamedFile.readOperator, Operator.read_keyword]
  have collectionOperator : NamedFile.readOperator path "query.collection_operator" .or
      (some settings.collectionOperator.keyword) = .ok settings.collectionOperator := by
    rw [NamedFile.readOperator, Operator.read_keyword]
  have applied : NamedFile.applyTo ⟨path, settings.asFile⟩ {} = .ok settings := by
    rw [NamedFile.apply_to_eq]
    simp only [NamedFile.overrides, asFile, Option.getD_some, operator, collectionOperator,
      Option.map_some, trimmed]
    rfl
  exact applied

theorem trimmed_of_merge (files : List NamedFile) (settings : Settings)
    (merged : merge files = .ok settings) :
    Text.trim settings.defaultField = settings.defaultField := by
  have force := merge_in_force files settings merged
  rw [force.defaultField]
  cases files.findSome? fun file => file.overrides.defaultField with
  | none => rfl
  | some given =>
      exact Text.trim_of_ends _ (Text.starts_blank_trim given) (Text.ends_blank_trim given)

/-- Files can put any operators in force, and any default field that is trimmed. -/
theorem merged_iff_trimmed (settings : Settings) :
    (∃ files, merge files = .ok settings) ↔
      Text.trim settings.defaultField = settings.defaultField := by
  constructor
  · rintro ⟨files, merged⟩
    exact trimmed_of_merge files settings merged
  · intro trimmed
    exact ⟨_, settings.merge_as_file [] trimmed⟩

/-- The settings that files put in force are written as a file that is no root and reads without
an error; merged alone, whatever its path, it puts exactly them in force again. -/
theorem written_settings_read_back (files : List NamedFile) (effective : Effective) (path : Text)
    (merged : Effective.ofFiles files = .ok effective) :
    ∃ content, SettingsFile.read effective.settings.write = .ok content ∧ content.root = none ∧
      Effective.ofFiles [⟨path, content⟩] = .ok ⟨effective.settings, [path]⟩ := by
  simp only [Effective.ofFiles, bind_eq_ok] at merged
  obtain ⟨settings, merged, same⟩ := merged
  cases same
  have trimmed := (merged_iff_trimmed settings).mp ⟨files, merged⟩
  have again := settings.merge_as_file path trimmed
  refine ⟨settings.asFile, settings.read_write, rfl, ?_⟩
  simp only [Effective.ofFiles, again]
  rfl

/-- Two files, the nearer of which sets a field with white space around it, both quotes, three of
them in a row, a backslash, a line end, a tab and a control. -/
def fieldFiles : List NamedFile :=
  [⟨['a'], { query := some { defaultField := some (" it's \"\"\"\\\n\t\x01 ".toList) } }⟩,
    ⟨['b'], { query := some { operator := some (" Or".toList) } }⟩]

theorem field_files_read_back :
    ∃ effective content, Effective.ofFiles fieldFiles = .ok effective ∧
      effective.settings.defaultField = "it's \"\"\"\\\n\t\x01".toList ∧
      SettingsFile.read effective.settings.write = .ok content ∧ content.root = none ∧
      Effective.ofFiles [⟨['c'], content⟩] = .ok ⟨effective.settings, [['c']]⟩ := by
  have merged : Effective.ofFiles fieldFiles =
      .ok ⟨⟨.or, .or, "it's \"\"\"\\\n\t\x01".toList⟩, [['a'], ['b']]⟩ := rfl
  obtain ⟨content, read⟩ := written_settings_read_back fieldFiles _ ['c'] merged
  exact ⟨_, content, merged, rfl, read⟩

end Settings

end LuceneQuery
