import LuceneQuery.Proofs.ClauseTree
import LuceneQuery.Proofs.OrderedTables

/-!
# How a clause is read

The entries of a table are read into a clause one after another. Each sets a field of its own,
what is set stays set, and since no name stands twice nothing is set anew.
-/

namespace LuceneQuery

set_option autoImplicit false

/-- One value, or a list of such values: nothing with a key in it. -/
def Toml.Value.IsKeyless (value : Toml.Value) : Prop :=
  value.isPlain = true ∨ ∃ items, value = .array items ∧ ∀ item ∈ items, item.isPlain = true

namespace Toml.Value

theorem text_plain (value : Value) (text : Text) (read : value.text? = .ok text) :
    value.isPlain = true := by
  cases value <;> first | rfl | cases read

theorem flag_plain (value : Value) (flag : Bool) (read : value.flag? = .ok flag) :
    value.isPlain = true := by
  cases value <;> first | rfl | cases read

theorem number_plain (value : Value) (number : Float) (read : value.number? = .ok number) :
    value.isPlain = true := by
  cases value <;> first | rfl | cases read

end Toml.Value

namespace Scalar

theorem of_value_plain (value : Toml.Value) (scalar : Scalar) (read : ofValue? value = .ok scalar) :
    value.isPlain = true := by
  cases value <;> first | rfl | cases read

theorem list_of_value_plain (value : Toml.Value) (scalars : List Scalar)
    (read : listOfValue? value = .ok scalars) :
    ∃ items, value = .array items ∧ ∀ item ∈ items, item.isPlain = true := by
  cases value with
  | array items =>
      refine ⟨items, rfl, fun item member => ?_⟩
      obtain ⟨scalar, _, here⟩ := partner_of_mem (map_m_eq_ok _ _ _ read) item member
      exact of_value_plain item scalar here
  | _ => cases read

end Scalar

namespace Clause

/-- What one entry makes of a clause: a field of its own is set, and no other. -/
inductive Takes (clause : Clause) : String → Toml.Value → Clause → Prop
  | kind (value : Toml.Value) (kind : ClauseKind) (read : ClauseKind.ofValue? value = .ok kind) :
      Takes clause "kind" value { clause with options := { clause.options with kind := kind } }
  | field (value : Toml.Value) (text : Text) (read : value.text? = .ok text) :
      Takes clause "field" value
        { clause with options := { clause.options with field := some text } }
  | exclusion (value : Toml.Value) (text : Text) (read : value.text? = .ok text) :
      Takes clause "exclusion" value
        { clause with options := { clause.options with exclusion := some text } }
  | boost (value : Toml.Value) (number : Float) (read : value.number? = .ok number) :
      Takes clause "boost" value
        { clause with options := { clause.options with boost := some number } }
  | value (value : Toml.Value) (scalar : Scalar) (read : Scalar.ofValue? value = .ok scalar) :
      Takes clause "value" value
        { clause with options := { clause.options with value := some scalar } }
  | fuzziness (value : Toml.Value) (number : Float) (read : value.number? = .ok number) :
      Takes clause "fuzziness" value
        { clause with options := { clause.options with fuzziness := some number } }
  | values (value : Toml.Value) (scalars : List Scalar)
      (read : Scalar.listOfValue? value = .ok scalars) :
      Takes clause "values" value
        { clause with options := { clause.options with values := some scalars } }
  | start (value : Toml.Value) (scalar : Scalar) (read : Scalar.ofValue? value = .ok scalar) :
      Takes clause "start" value
        { clause with options := { clause.options with start := some scalar } }
  | stop (value : Toml.Value) (scalar : Scalar) (read : Scalar.ofValue? value = .ok scalar) :
      Takes clause "stop" value
        { clause with options := { clause.options with stop := some scalar } }
  | inclusive (value : Toml.Value) (flag : Bool) (read : value.flag? = .ok flag) :
      Takes clause "inclusive" value
        { clause with options := { clause.options with inclusive := some flag } }
  | operator (value : Toml.Value) (text : Text) (read : value.text? = .ok text) :
      Takes clause "operator" value
        { clause with options := { clause.options with operator := some text } }
  | clauses (value : Toml.Value) (nested : List Clause) (read : listOfValue? value = .ok nested) :
      Takes clause "clause" value { clause with clauses := some nested }

theorem takes_option (clause : Clause) (name : Text) (value : Toml.Value) (changed : Clause)
    (read : clause.withOption name value = .ok changed) :
    Takes clause (String.ofList name) value changed := by
  simp only [withOption, bind_eq_ok, ClauseOptions.withField] at read
  obtain ⟨options, set, same⟩ := read
  cases same
  split at set
  case h_12 => cases set
  all_goals
    next named =>
      rw [named]
      simp only [bind_eq_ok] at set
      obtain ⟨held, read, same⟩ := set
      cases same
      constructor
      exact read

theorem spelled_iff (name : Text) (spelled : String) :
    String.ofList name = spelled ↔ name = spelled.toList := by
  constructor
  · rintro rfl
    exact String.toList_ofList.symm
  · rintro rfl
    exact String.ofList_toList

theorem kind_name (name : Text) : String.ofList name = "kind" ↔ name = kindField :=
  spelled_iff name "kind"

theorem clauses_name (name : Text) : String.ofList name = "clause" ↔ name = clausesField :=
  spelled_iff name "clause"

theorem of_entries_cons (clause : Clause) (name : Text) (value : Toml.Value) (later : Toml.Table)
    (result : Clause) (read : ofEntries? clause ((name, value) :: later) = .ok result) :
    ∃ changed, Takes clause (String.ofList name) value changed ∧
      ofEntries? changed later = .ok result := by
  simp only [ofEntries?] at read
  split at read
  · next named =>
      simp only [bind_eq_ok, map_eq_ok] at read
      obtain ⟨changed, ⟨nested, listed, rfl⟩, rest⟩ := read
      refine ⟨_, ?_, rest⟩
      rw [(clauses_name name).mpr named]
      exact .clauses value nested listed
  · rw [bind_eq_ok] at read
    obtain ⟨changed, taken, rest⟩ := read
    exact ⟨changed, takes_option clause name value changed taken, rest⟩

/-- Items without names are read as if each stood under its name. -/
theorem of_items_eq (names : List Text) : ∀ (clause : Clause) (items : List Toml.Value),
    ofItems? clause names items = ofEntries? clause (names.zip items) := by
  induction names with
  | nil => exact fun _ _ => by rw [ofItems?, List.zip_nil_left, ofEntries?]; simp
  | cons name names induction =>
      intro clause items
      cases items with
      | nil => rw [ofItems?, List.zip_nil_right, ofEntries?]; simp
      | cons item later => simp only [ofItems?, List.zip_cons_cons, ofEntries?, induction]

namespace Takes

variable {clause changed : Clause} {name : String} {value : Toml.Value}

theorem known (takes : Takes clause name value changed) : name ∈ ClauseOptions.fieldNames := by
  cases takes <;> decide

theorem keeps (takes : Takes clause name value changed) (option : SpecialOption)
    (set : option.isSetIn clause = true) : option.isSetIn changed = true := by
  cases takes <;> cases option <;> first | rfl | exact set

theorem sets (takes : Takes clause name value changed) (option : SpecialOption)
    (named : option.name = name) : option.isSetIn changed = true := by
  cases takes <;> cases option <;> first | rfl | exact absurd named (by decide)

theorem kind_kept (takes : Takes clause name value changed) (other : name ≠ "kind") :
    changed.options.kind = clause.options.kind := by
  cases takes <;> first | rfl | exact absurd rfl other

theorem kind_read (takes : Takes clause "kind" value changed) :
    ClauseKind.ofValue? value = .ok changed.options.kind := by
  generalize named : "kind" = name at takes
  cases takes <;> first | assumption | exact absurd named (by decide)

theorem clauses_kept (takes : Takes clause name value changed) (other : name ≠ "clause") :
    changed.clauses = clause.clauses := by
  cases takes <;> first | rfl | exact absurd rfl other

theorem clauses_read (takes : Takes clause "clause" value changed) :
    ∃ nested, listOfValue? value = .ok nested ∧ changed.clauses = some nested := by
  generalize named : "clause" = name at takes
  cases takes <;> first | exact ⟨_, ‹_›, rfl⟩ | exact absurd named (by decide)

theorem keyless (takes : Takes clause name value changed) (notKind : name ≠ "kind")
    (notClauses : name ≠ "clause") : value.IsKeyless := by
  cases takes with
  | kind => exact absurd rfl notKind
  | clauses => exact absurd rfl notClauses
  | field _ _ read | exclusion _ _ read | operator _ _ read =>
      exact .inl (Toml.Value.text_plain value _ read)
  | boost _ _ read | fuzziness _ _ read => exact .inl (Toml.Value.number_plain value _ read)
  | inclusive _ _ read => exact .inl (Toml.Value.flag_plain value _ read)
  | value _ _ read | start _ _ read | stop _ _ read =>
      exact .inl (Scalar.of_value_plain value _ read)
  | values _ _ read => exact .inr (Scalar.list_of_value_plain value _ read)

end Takes

/-- Each entry is read, and what it sets stays set. -/
theorem entries_taken (entries : Toml.Table) : ∀ clause result,
    ofEntries? clause entries = .ok result →
      (∀ option : SpecialOption, option.isSetIn clause = true → option.isSetIn result = true) ∧
      ∀ entry ∈ entries, ∃ before after, Takes before (String.ofList entry.1) entry.2 after ∧
        ∀ option : SpecialOption, option.isSetIn after = true → option.isSetIn result = true := by
  induction entries with
  | nil =>
      intro clause result read
      rw [ofEntries?] at read
      cases read
      exact ⟨fun _ set => set, nofun⟩
  | cons entry later induction =>
      intro clause result read
      obtain ⟨changed, takes, behind⟩ := of_entries_cons clause _ _ later result read
      obtain ⟨kept, rest⟩ := induction changed result behind
      exact ⟨fun option set => kept option (takes.keeps option set),
        List.forall_mem_cons.mpr ⟨⟨clause, changed, takes, kept⟩, rest⟩⟩

/-- What no entry changes is in the end as it was. -/
theorem entries_keep {Held : Type} (held : Clause → Held) (entries : Toml.Table)
    (kept : ∀ entry ∈ entries, ∀ before after,
      Takes before (String.ofList entry.1) entry.2 after → held after = held before) :
    ∀ clause result, ofEntries? clause entries = .ok result → held result = held clause := by
  induction entries with
  | nil =>
      intro clause result read
      rw [ofEntries?] at read
      cases read
      rfl
  | cons entry later induction =>
      intro clause result read
      obtain ⟨first, rest⟩ := List.forall_mem_cons.mp kept
      obtain ⟨changed, takes, behind⟩ := of_entries_cons clause _ _ later result read
      rw [induction rest changed result behind, first clause changed takes]

/-- The kind of a clause is spelled out by one of its entries, if any is there for it. -/
theorem entries_kind (entries : Toml.Table) : ∀ clause result,
    ofEntries? clause entries = .ok result → (∃ entry ∈ entries, entry.1 = kindField) →
      ∃ value, (kindField, value) ∈ entries ∧
        ClauseKind.ofValue? value = .ok result.options.kind := by
  induction entries with
  | nil => exact fun _ _ _ ⟨_, member, _⟩ => nomatch member
  | cons entry later induction =>
      intro clause result read kinded
      obtain ⟨name, value⟩ := entry
      obtain ⟨changed, takes, behind⟩ := of_entries_cons clause name value later result read
      by_cases further : ∃ entry ∈ later, entry.1 = kindField
      · obtain ⟨value, member, named⟩ := induction changed result behind further
        exact ⟨value, List.mem_cons_of_mem _ member, named⟩
      · have kept : result.options.kind = changed.options.kind :=
          entries_keep (fun clause => clause.options.kind) later
            (fun entry member before after takes => takes.kind_kept fun named =>
              further ⟨entry, member, (kind_name _).mp named⟩) changed result behind
        have here : name = kindField := by simpa [further] using kinded
        rw [(kind_name name).mpr here] at takes
        exact ⟨value, by simp [here], kept ▸ takes.kind_read⟩

/-- Since no name stands twice, the clauses under the name are the ones that count. -/
theorem entries_clauses (entries : Toml.Table) (inOrder : Toml.InOrder entries)
    (value : Toml.Value) (member : (clausesField, value) ∈ entries) : ∀ clause result,
    ofEntries? clause entries = .ok result →
      ∃ nested, listOfValue? value = .ok nested ∧ result.clauses = some nested := by
  induction entries with
  | nil => exact nomatch member
  | cons entry later induction =>
      intro clause result read
      obtain ⟨behind, laterInOrder⟩ := List.pairwise_cons.mp inOrder
      obtain ⟨changed, takes, rest⟩ := of_entries_cons clause _ _ later result read
      rcases List.mem_cons.mp member with rfl | further
      · rw [(clauses_name clausesField).mpr rfl] at takes
        obtain ⟨nested, listed, held⟩ := takes.clauses_read
        refine ⟨nested, listed, held ▸ ?_⟩
        exact entries_keep Clause.clauses later
          (fun entry member before after takes => takes.clauses_kept fun named =>
            (behind entry member).ne' ((clauses_name _).mp named)) changed result rest
      · exact induction laterInOrder further changed result rest

/-- The value of a list of clauses is an array, and each of its items is read. -/
theorem list_of_value (value : Toml.Value) (clauses : List Clause)
    (read : listOfValue? value = .ok clauses) :
    ∃ items, value = .array items ∧
      List.Forall₂ (fun item clause => ofValue? item = .ok clause) items clauses := by
  cases value with
  | array items =>
      refine ⟨items, rfl, ?_⟩
      rw [listOfValue?] at read
      induction items generalizing clauses with
      | nil =>
          cases read
          exact .nil
      | cons item later induction =>
          simp only [eachOfValues?, bind_eq_ok] at read
          obtain ⟨first, here, rest, behind, same⟩ := read
          cases same
          exact .cons here (induction rest behind)
  | _ =>
      rw [listOfValue?] at read
      · cases read
      · intro _ impossible
        cases impossible

end Clause

end LuceneQuery
