import LuceneQuery.Proofs.ClauseReading

/-!
# No key of a document is ignored

Names that no clause knows are refused when the document is read, and options that belong to
other kinds of clause when the query is built. Both reach every clause of every group, so each
key of a document from which a query is built says something about that query.
-/

namespace LuceneQuery

set_option autoImplicit false

/-- The options that only this kind of clause, or few beside it, can have. -/
def ClauseKind.ownKeys : ClauseKind → List String
  | .term => ["value", "fuzziness"]
  | .terms => ["values", "operator"]
  | .range => ["start", "stop", "inclusive"]
  | .dateRange => ["start", "stop", "inclusive"]
  | .group => ["operator", "clause"]

def ClauseKind.keys (kind : ClauseKind) : List String :=
  ["kind", "field", "exclusion", "boost"] ++ kind.ownKeys

namespace Clause

/-- The table of a clause of one kind, in which no key is unknown or belongs to other kinds. Keys
of other tables stand in the clauses nested in it, or spell out its kind. -/
structure HasKeysOf (kind : ClauseKind) (entries : Toml.Table) : Prop where
  kinded : ∃ value, (kindField, value) ∈ entries ∧ ClauseKind.ofValue? value = .ok kind
  known : ∀ entry ∈ entries, String.ofList entry.1 ∈ kind.keys
  listed : ∀ value, (clausesField, value) ∈ entries → ∃ items, value = .array items
  keyless : ∀ entry ∈ entries, entry.1 ≠ kindField → entry.1 ≠ clausesField → entry.2.IsKeyless

/-- What stands for a clause in the table of a document, at any depth. -/
inductive Within (table : Toml.Table) : Toml.Value → Prop
  | top (items : List Toml.Value) (item : Toml.Value)
      (listed : (clausesField, .array items) ∈ table)
      (member : item ∈ items) : Within table item
  | nested (entries : Toml.Table) (items : List Toml.Value) (item : Toml.Value)
      (outer : Within table (.table entries)) (listed : (clausesField, .array items) ∈ entries)
      (member : item ∈ items) : Within table item

/-- What sets an option can only be built as a kind that accepts it. -/
theorem accepted_of_set (clause : Clause) (sound : clause.unaccepted = [])
    (option : SpecialOption) (set : option.isSetIn clause = true) :
    option.name ∈ clause.options.kind.ownKeys := by
  have listed : option ∈ SpecialOption.all := by cases option <;> decide
  have accepted : clause.options.kind ∈ option.acceptedBy := by
    have kept := List.filter_eq_nil_iff.mp sound option listed
    simpa [set] using kept
  revert accepted
  cases option <;> cases clause.options.kind <;> decide

theorem known_name_cases (name : String) (known : name ∈ ClauseOptions.fieldNames) :
    name ∈ ["kind", "field", "exclusion", "boost"] ∨
      ∃ option : SpecialOption, option.name = name := by
  have split : ClauseOptions.fieldNames =
      ["kind", "field", "exclusion", "boost"] ++ SpecialOption.all.map SpecialOption.name := rfl
  rw [split, List.mem_append, List.mem_map] at known
  exact known.imp_right fun ⟨option, _, named⟩ => ⟨option, named⟩

theorem has_keys_of_read (entries : Toml.Table) (clause : Clause)
    (read : ofEntries? unread entries = .ok clause)
    (kinded : ∃ entry ∈ entries, entry.1 = kindField) (sound : clause.unaccepted = []) :
    HasKeysOf clause.options.kind entries := by
  obtain ⟨-, taken⟩ := entries_taken entries unread clause read
  refine ⟨entries_kind entries unread clause read kinded, fun entry member => ?_,
    fun value member => ?_, fun entry member notKind notClauses => ?_⟩
  · obtain ⟨before, after, takes, kept⟩ := taken entry member
    rw [ClauseKind.keys, List.mem_append]
    refine (known_name_cases _ takes.known).imp_right fun ⟨option, named⟩ => ?_
    exact named ▸ accepted_of_set clause sound option (kept option (takes.sets option named))
  · obtain ⟨before, after, takes, -⟩ := taken _ member
    rw [(clauses_name clausesField).mpr rfl] at takes
    obtain ⟨nested, listed, -⟩ := takes.clauses_read
    obtain ⟨items, held, -⟩ := list_of_value value nested listed
    exact ⟨items, held⟩
  · obtain ⟨before, after, takes, -⟩ := taken entry member
    exact takes.keyless (mt (kind_name _).mp notKind) (mt (clauses_name _).mp notClauses)

/-- An array with an item for each field sets options that no kind accepts together. -/
theorem array_not_built (items : List Toml.Value) (clause : Clause)
    (read : ofValue? (.array items) = .ok clause) : clause.unaccepted ≠ [] := by
  intro sound
  simp only [ofValue?, bind_eq_ok] at read
  obtain ⟨result, taken, counted⟩ := read
  split at counted
  · cases counted
  next long =>
  cases counted
  rw [of_items_eq] at taken
  obtain ⟨-, each⟩ := entries_taken _ unread clause taken
  have named : ((ClauseOptions.fieldNames.map String.toList).zip items).map Prod.fst =
      ClauseOptions.fieldNames.map String.toList :=
    List.map_fst_zip (by simpa using long)
  have set : ∀ option : SpecialOption, option.name ∈ clause.options.kind.ownKeys := by
    intro option
    have listed : option.name.toList ∈ ClauseOptions.fieldNames.map String.toList :=
      List.mem_map.mpr ⟨option.name, by cases option <;> decide, rfl⟩
    rw [← named, List.mem_map] at listed
    obtain ⟨entry, member, spelled⟩ := listed
    obtain ⟨before, after, takes, kept⟩ := each entry member
    refine accepted_of_set clause sound option (kept option (takes.sets option ?_))
    rw [spelled, String.ofList_toList]
  -- The value belongs to a term and the values to a group of terms.
  have value := set .value
  have values := set .values
  revert value values
  cases clause.options.kind <;> decide

/-- What reads as a clause that can be built is a table with the keys of its kind. -/
theorem table_of_built (item : Toml.Value) (clause : Clause) (read : ofValue? item = .ok clause)
    (sound : clause.unaccepted = []) :
    ∃ entries, item = .table entries ∧ HasKeysOf clause.options.kind entries ∧
      ofEntries? unread entries = .ok clause := by
  cases item with
  | table entries =>
      simp only [ofValue?, bind_eq_ok] at read
      obtain ⟨result, taken, kinded⟩ := read
      split at kinded
      · next named =>
          cases kinded
          refine ⟨entries, rfl, has_keys_of_read entries clause taken ?_ sound, taken⟩
          simpa using named
      · cases kinded
  | array items => exact absurd sound (array_not_built items clause read)
  | dateTime => simp [ofValue?] at read
  | _ => simp [ofValue?] at read

variable {settings : Settings} {clock : Clock}

/-- The value is read as a clause, and the clause can be built. -/
structure IsBuilt (settings : Settings) (clock : Clock) (item : Toml.Value) : Prop where
  ordered : item.Ordered
  built : ∃ clause position node, ofValue? item = .ok clause ∧
    clause.build settings clock position = .ok node

theorem built_of_list (items : List Toml.Value) (clauses : List Clause)
    (ordered : (Toml.Value.array items).Ordered)
    (read : List.Forall₂ (fun item clause => ofValue? item = .ok clause) items clauses)
    (position : Position) (number : Nat) (nodes : List Node)
    (built : buildAll settings clock position number clauses = .ok nodes) :
    ∀ item ∈ items, IsBuilt settings clock item := by
  intro item member
  cases ordered with
  | plain _ plain => cases plain
  | array _ each =>
      obtain ⟨clause, held, here⟩ := partner_of_mem read item member
      obtain ⟨node, -, place, made⟩ :=
        partner_of_mem (build_all_eq_ok settings clock position clauses number nodes built)
          clause held
      exact ⟨each item member, clause, place, node, here, made⟩

/-- One clause that is built has the keys of its kind, and so have the clauses of its own. -/
theorem built_step (item : Toml.Value) (built : IsBuilt settings clock item) :
    ∃ entries kind, item = .table entries ∧ HasKeysOf kind entries ∧
      ∀ items, (clausesField, .array items) ∈ entries →
        ∀ inner ∈ items, IsBuilt settings clock inner := by
  obtain ⟨ordered, clause, position, node, read, made⟩ := built
  obtain ⟨sound, bare, raw, -⟩ := build_eq_ok settings clock position clause node made
  obtain ⟨entries, rfl, keys, taken⟩ := table_of_built item clause read sound
  refine ⟨entries, _, rfl, keys, fun items member => ?_⟩
  cases ordered with
  | plain _ plain => cases plain
  | table _ inOrder each =>
      obtain ⟨nested, listed, held⟩ :=
        entries_clauses entries inOrder _ member unread clause taken
      obtain ⟨_, same, read⟩ := list_of_value _ nested listed
      cases same
      -- No other kind accepts clauses, and a group builds each of them.
      have group : clause.options.kind = .group := by
        have own := accepted_of_set clause sound .clauses (by simp [SpecialOption.isSetIn, held])
        revert own
        cases clause.options.kind <;> decide
      rw [Clause.bare, group] at raw
      simp only [bind_eq_ok] at raw
      obtain ⟨_, _, children, inner, _⟩ := raw
      rw [Clause.nested, held, Option.getD_some] at inner
      exact built_of_list items nested (each _ member) read _ _ _ inner

end Clause

namespace Document

theorem with_field_cases (document changed : Document) (name : Text) (value : Toml.Value)
    (read : document.withField name value = .ok changed) :
    (String.ofList name = "operator" ∧ changed.clauses = document.clauses ∧
        value.isPlain = true) ∨
      (String.ofList name = "clause" ∧ Clause.listOfValue? value = .ok changed.clauses) := by
  unfold withField at read
  split at read
  · next named =>
      simp only [bind_eq_ok] at read
      obtain ⟨_, plain, same⟩ := read
      cases same
      exact .inl ⟨named, rfl, value.text_plain _ plain⟩
  · next named =>
      simp only [bind_eq_ok] at read
      obtain ⟨_, listed, same⟩ := read
      cases same
      exact .inr ⟨named, listed⟩
  · cases read

def addFields (document : Document) (table : Toml.Table) : Toml.Decoded Document :=
  table.foldlM (fun document (name, value) => document.withField name value) document

theorem fields_known (table : Toml.Table) : ∀ before document,
    addFields before table = .ok document → ∀ entry ∈ table,
      String.ofList entry.1 ∈ ["operator", "clause"] ∧
        (entry.1 ≠ Clause.clausesField → entry.2.isPlain = true) := by
  induction table with
  | nil => exact fun _ _ _ => nofun
  | cons entry later induction =>
      intro before document read
      simp only [addFields, List.foldlM_cons, bind_eq_ok] at read
      obtain ⟨changed, taken, rest⟩ := read
      refine List.forall_mem_cons.mpr ⟨?_, induction changed document rest⟩
      rcases with_field_cases before changed _ _ taken with ⟨named, -, plain⟩ | ⟨named, -⟩
      · exact ⟨by simp [named], fun _ => plain⟩
      · exact ⟨by simp [named], fun other => absurd ((Clause.clauses_name _).mp named) other⟩

theorem fields_keep (table : Toml.Table) (other : ∀ entry ∈ table, entry.1 ≠ Clause.clausesField) :
    ∀ before document, addFields before table = .ok document →
      document.clauses = before.clauses := by
  induction table with
  | nil =>
      intro before document read
      cases read
      rfl
  | cons entry later induction =>
      intro before document read
      obtain ⟨first, behind⟩ := List.forall_mem_cons.mp other
      simp only [addFields, List.foldlM_cons, bind_eq_ok] at read
      obtain ⟨changed, taken, rest⟩ := read
      rcases with_field_cases before changed _ _ taken with ⟨-, kept, -⟩ | ⟨named, -⟩
      · rw [induction behind changed document rest, kept]
      · exact absurd ((Clause.clauses_name _).mp named) first

theorem fields_clauses (table : Toml.Table) (inOrder : Toml.InOrder table) (value : Toml.Value)
    (member : (Clause.clausesField, value) ∈ table) : ∀ before document,
      addFields before table = .ok document →
        Clause.listOfValue? value = .ok document.clauses := by
  induction table with
  | nil => exact nomatch member
  | cons entry later induction =>
      intro before document read
      obtain ⟨behind, laterInOrder⟩ := List.pairwise_cons.mp inOrder
      simp only [addFields, List.foldlM_cons, bind_eq_ok] at read
      obtain ⟨changed, taken, rest⟩ := read
      rcases List.mem_cons.mp member with rfl | further
      · rw [fields_keep later (fun entry member => (behind entry member).ne') changed document rest]
        rcases with_field_cases before changed _ _ taken with ⟨named, -⟩ | ⟨-, listed⟩
        · rw [(Clause.clauses_name Clause.clausesField).mpr rfl] at named
          exact absurd named (by decide)
        · exact listed
      · exact induction laterInOrder further changed document rest

/-- What is read as a document was a table of its fields. -/
theorem read_eq_ok (text : Text) (document : Document) (got : read text = .ok document) :
    ∃ table, Toml.read text = .ok table ∧ ofTable? table = .ok document := by
  unfold read Toml.decode at got
  cases denoted : Toml.read text with
  | error refusal => simp [denoted] at got
  | ok table =>
      cases taken : ofTable? table with
      | error problem => simp [denoted, taken] at got
      | ok held =>
          simp only [denoted, taken] at got
          cases got
          exact ⟨table, rfl, taken⟩

/-- The table of a document with no other keys than those at its top and those in its clauses. -/
structure HasKnownKeys (table : Toml.Table) : Prop where
  known : ∀ entry ∈ table, String.ofList entry.1 ∈ ["operator", "clause"]
  listed : ∀ value, (Clause.clausesField, value) ∈ table → ∃ items, value = .array items
  keyless : ∀ entry ∈ table, entry.1 ≠ Clause.clausesField → entry.2.IsKeyless
  clauses : ∀ item, Clause.Within table item →
    ∃ entries kind, item = .table entries ∧ Clause.HasKeysOf kind entries

/-- What stands for a clause in a document from which a query is built, at any depth, is built. -/
theorem within_built (table : Toml.Table) (settings : Settings) (clock : Clock)
    (top : ∀ items, (Clause.clausesField, .array items) ∈ table →
      ∀ item ∈ items, Clause.IsBuilt settings clock item)
    (item : Toml.Value) (within : Clause.Within table item) :
    Clause.IsBuilt settings clock item := by
  induction within with
  | top items item listed member => exact top items listed item member
  | nested entries items item outer listed member built =>
      obtain ⟨_, _, same, _, inner⟩ := Clause.built_step _ built
      cases same
      exact inner items listed item member

/-- A text from which a query is built has no key but those that are known where they stand: at
the top the operator and the clauses, and in each clause, however deep, its kind, what all
clauses may have, and what its own kind accepts. -/
theorem built_of_known_keys (text : Text) (document : Document) (settings : Settings)
    (clock : Clock) (query : Query) (got : read text = .ok document)
    (built : document.build settings clock = .ok query) :
    ∃ table, Toml.read text = .ok table ∧ HasKnownKeys table := by
  obtain ⟨table, denoted, taken⟩ := read_eq_ok text document got
  have fields := fields_known table _ document taken
  have clauses : ∀ value, (Clause.clausesField, value) ∈ table → ∃ items, value = .array items ∧
      ∀ item ∈ items, Clause.IsBuilt settings clock item := by
    intro value member
    cases Toml.read_ordered text table denoted with
    | plain _ plain => cases plain
    | table _ inOrder each =>
        obtain ⟨items, rfl, held⟩ := Clause.list_of_value value _
          (fields_clauses table inOrder value member _ document taken)
        exact ⟨items, rfl, Clause.built_of_list items _ (each _ member) held _ _ _
          (build_eq_ok document settings clock query built)⟩
  have top : ∀ items, (Clause.clausesField, .array items) ∈ table →
      ∀ item ∈ items, Clause.IsBuilt settings clock item := by
    intro items member
    obtain ⟨_, same, each⟩ := clauses _ member
    cases same
    exact each
  refine ⟨table, denoted, fun entry member => (fields entry member).1, fun value member => ?_,
    fun entry member other => .inl ((fields entry member).2 other), fun item within => ?_⟩
  · obtain ⟨items, same, -⟩ := clauses value member
    exact ⟨items, same⟩
  · obtain ⟨entries, kind, same, keys, -⟩ :=
      Clause.built_step item (within_built table settings clock top item within)
    exact ⟨entries, kind, same, keys⟩

/-- A group with one term in it. -/
def nestedText : Text :=
  "[[clause]]\nkind = \"group\"\n[[clause.clause]]\nkind = \"term\"\nvalue = \"x\"\n".toList

set_option maxRecDepth 4000 in
theorem nested_keys_known :
    ∃ document query table, read nestedText = .ok document ∧
      document.build {} (.still ⟨0, 0, 0⟩) = .ok query ∧ Toml.read nestedText = .ok table ∧
      HasKnownKeys table := by
  have succeeds : ((read nestedText).toOption.bind fun document =>
      (document.build {} (.still ⟨0, 0, 0⟩)).toOption).isSome = true := by
    unfold nestedText
    rw [String.toList_ofList]
    decide +kernel
  cases got : read nestedText with
  | error problem => simp [got, Except.toOption] at succeeds
  | ok document =>
      cases built : document.build {} (.still ⟨0, 0, 0⟩) with
      | error problem => simp [got, built, Except.toOption] at succeeds
      | ok query =>
          obtain ⟨table, denoted, known⟩ :=
            built_of_known_keys nestedText document {} (.still ⟨0, 0, 0⟩) query got built
          exact ⟨document, query, table, rfl, built, denoted, known⟩

end Document

end LuceneQuery
