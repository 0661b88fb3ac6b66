import Mathlib.Data.Char
import Mathlib.Data.List.Lex
import LuceneQuery.Toml.Reading
import LuceneQuery.Proofs.Outcome

/-!
# Tables that are read are in order

Every table that a TOML text denotes, at any depth, holds its names in increasing order, and so
none of them twice. Each change to the tables under construction keeps them so.
-/

namespace LuceneQuery.Toml

set_option autoImplicit false

def InOrder {Held : Type} (entries : List (Text × Held)) : Prop :=
  entries.Pairwise fun first second => first.1 < second.1

def Value.isPlain : Value → Bool
  | .array _ => false
  | .table _ => false
  | _ => true

/-- Every table in the value has its names in order. -/
inductive Value.Ordered : Value → Prop
  | plain (value : Value) (plain : value.isPlain = true) : Ordered value
  | array (items : List Value) (each : ∀ item ∈ items, Ordered item) : Ordered (.array items)
  | table (entries : Table) (inOrder : InOrder entries)
      (each : ∀ entry ∈ entries, Ordered entry.2) : Ordered (.table entries)

namespace Draft

inductive Ordered : Draft → Prop
  | leaf (value : Value) (held : value.Ordered) : Ordered (.leaf value)
  | table (origin : Origin) (entries : Entries) (inOrder : InOrder entries)
      (each : ∀ entry ∈ entries, Ordered entry.2) : Ordered (.table origin entries)
  | tables (newest : Entries) (older : List Entries) (inOrder : InOrder newest)
      (each : ∀ entry ∈ newest, Ordered entry.2) (olderInOrder : ∀ entries ∈ older, InOrder entries)
      (olderEach : ∀ entries ∈ older, ∀ entry ∈ entries, Ordered entry.2) :
      Ordered (.tables newest older)

structure Entries.Ordered (entries : Entries) : Prop where
  inOrder : InOrder entries
  each : ∀ entry ∈ entries, entry.2.Ordered

theorem Entries.ordered_nil : Entries.Ordered [] := ⟨.nil, nofun⟩

theorem Entries.Ordered.table {entries : Entries} (ordered : entries.Ordered) (origin : Origin) :
    (Draft.table origin entries).Ordered :=
  .table origin entries ordered.inOrder ordered.each

theorem Ordered.inner {origin : Origin} {entries : Entries}
    (ordered : (Draft.table origin entries).Ordered) : entries.Ordered := by
  cases ordered with
  | table _ _ inOrder each => exact ⟨inOrder, each⟩

/-- A step on the entries of a table keeps what is in order. -/
def KeepsOrder (step : Entries → Reading Entries) : Prop :=
  ∀ entries result, entries.Ordered → step entries = .ok result → result.Ordered

/-- The names after a change are those before it, and the name of the change. -/
theorem update_names (key : Text) (change : Option Draft → Reading Draft) (entries : Entries) :
    ∀ result, update key change entries = .ok result →
      ∀ entry ∈ result, entry.1 = key ∨ ∃ old ∈ entries, old.1 = entry.1 := by
  induction entries with
  | nil =>
      intro result updated entry member
      rw [update, map_eq_ok] at updated
      obtain ⟨made, _, rfl⟩ := updated
      exact .inl (by simp_all)
  | cons head later induction =>
      intro result updated entry member
      rw [update] at updated
      split at updated
      · obtain ⟨changed, further, rfl⟩ := (map_eq_ok _ _ _).mp updated
        rcases List.mem_cons.mp member with rfl | rest
        · exact .inr ⟨_, by simp, rfl⟩
        · obtain here | ⟨old, held, same⟩ := induction changed further entry rest
          · exact .inl here
          · exact .inr ⟨old, List.mem_cons_of_mem _ held, same⟩
      split at updated
      · next same =>
          obtain ⟨made, _, rfl⟩ := (map_eq_ok _ _ _).mp updated
          rcases List.mem_cons.mp member with rfl | rest
          · exact .inl same
          · exact .inr ⟨entry, List.mem_cons_of_mem _ rest, rfl⟩
      · obtain ⟨made, _, rfl⟩ := (map_eq_ok _ _ _).mp updated
        rcases List.mem_cons.mp member with rfl | rest
        · exact .inl rfl
        · exact .inr ⟨entry, rest, rfl⟩

theorem update_ordered (key : Text) (change : Option Draft → Reading Draft)
    (changes : ∀ held made, (∀ draft ∈ held, draft.Ordered) → change held = .ok made →
      made.Ordered) : KeepsOrder (update key change) := by
  intro entries
  induction entries with
  | nil =>
      intro result _ updated
      rw [update, map_eq_ok] at updated
      obtain ⟨made, changed, rfl⟩ := updated
      exact ⟨List.pairwise_singleton _ _, by simpa using changes none made nofun changed⟩
  | cons head later induction =>
      rintro result ⟨inOrder, each⟩ updated
      obtain ⟨behind, laterInOrder⟩ := List.pairwise_cons.mp inOrder
      obtain ⟨first, laterEach⟩ := List.forall_mem_cons.mp each
      rw [update] at updated
      split at updated
      · next before =>
          obtain ⟨changed, further, rfl⟩ := (map_eq_ok _ _ _).mp updated
          obtain ⟨changedInOrder, changedEach⟩ :=
            induction changed ⟨laterInOrder, laterEach⟩ further
          refine ⟨List.pairwise_cons.mpr ⟨fun entry member => ?_, changedInOrder⟩,
            List.forall_mem_cons.mpr ⟨first, changedEach⟩⟩
          obtain here | ⟨old, held, same⟩ :=
            update_names key change later changed further entry member
          · exact here ▸ before
          · exact same ▸ behind old held
      split at updated
      · obtain ⟨made, changed, rfl⟩ := (map_eq_ok _ _ _).mp updated
        exact ⟨List.pairwise_cons.mpr ⟨behind, laterInOrder⟩,
          List.forall_mem_cons.mpr
            ⟨changes (some _) made (by simpa using first) changed, laterEach⟩⟩
      · next notBefore other =>
          -- A new name goes in front of the first that is greater, and so of all behind that one.
          obtain ⟨made, changed, rfl⟩ := (map_eq_ok _ _ _).mp updated
          have front : key < head.1 := lt_of_le_of_ne (not_lt.mp notBefore) (Ne.symm other)
          refine ⟨List.pairwise_cons.mpr ⟨List.forall_mem_cons.mpr ⟨front, fun entry member => ?_⟩,
            inOrder⟩, List.forall_mem_cons.mpr ⟨changes none made nofun changed, each⟩⟩
          exact lt_trans front (behind entry member)

theorem within_ordered (dotted : Bool) (change : Origin → Entries → Reading Entries)
    (changes : ∀ origin, KeepsOrder (change origin)) (path : List Text) :
    ∀ origin, KeepsOrder (within dotted change path origin) := by
  induction path with
  | nil => exact changes
  | cons key path induction =>
      intro origin entries result ordered changed
      rw [within] at changed
      refine update_ordered key _ ?_ entries result ordered changed
      rintro held made sound reached
      split at reached
      · obtain ⟨inner, further, rfl⟩ := (map_eq_ok _ _ _).mp reached
        exact (induction _ [] inner Entries.ordered_nil further).table _
      · cases reached
      · next origin inner =>
          split at reached
          · cases reached
          obtain ⟨changed, further, rfl⟩ := (map_eq_ok _ _ _).mp reached
          exact (induction _ inner changed (sound _ rfl).inner further).table origin
      · next newest older =>
          obtain ⟨changed, further, rfl⟩ := (map_eq_ok _ _ _).mp reached
          cases sound _ rfl with
          | tables _ _ inOrder each olderInOrder olderEach =>
              obtain ⟨inOrder, each⟩ := induction _ newest changed ⟨inOrder, each⟩ further
              exact .tables changed older inOrder each olderInOrder olderEach

theorem add_ordered (key : Key) (value : Value) (held : value.Ordered) :
    KeepsOrder (Draft.add key value) := by
  refine within_ordered true _ ?_ key.path .header
  intro origin entries result ordered inserted
  split at inserted
  · cases inserted
  refine update_ordered key.name _ ?_ entries result ordered inserted
  rintro (_ | _) made _ changed
  · cases changed
    exact .leaf value held
  · cases changed

theorem open_table_ordered (path : List Text) (key : Text) (fill : Entries → Reading Entries)
    (fills : KeepsOrder fill) : KeepsOrder (openTable path key fill) := by
  refine within_ordered false _ (fun _ => update_ordered key _ ?_) path .header
  rintro held made sound reached
  split at reached
  · obtain ⟨inner, filled, rfl⟩ := (map_eq_ok _ _ _).mp reached
    exact (fills [] inner Entries.ordered_nil filled).table _
  · next inner =>
      obtain ⟨changed, filled, rfl⟩ := (map_eq_ok _ _ _).mp reached
      exact (fills inner changed (sound _ rfl).inner filled).table _
  · cases reached

theorem open_element_ordered (path : List Text) (key : Text) (fill : Entries → Reading Entries)
    (fills : KeepsOrder fill) : KeepsOrder (openElement path key fill) := by
  refine within_ordered false _ (fun _ => update_ordered key _ ?_) path .header
  rintro held made sound reached
  split at reached
  · obtain ⟨inner, filled, rfl⟩ := (map_eq_ok _ _ _).mp reached
    obtain ⟨inOrder, each⟩ := fills [] inner Entries.ordered_nil filled
    exact .tables inner [] inOrder each nofun nofun
  · next newest older =>
      obtain ⟨inner, filled, rfl⟩ := (map_eq_ok _ _ _).mp reached
      obtain ⟨inOrder, each⟩ := fills [] inner Entries.ordered_nil filled
      cases sound _ rfl with
      | tables _ _ newestInOrder newestEach olderInOrder olderEach =>
          exact .tables inner (newest :: older) inOrder each
            (List.forall_mem_cons.mpr ⟨newestInOrder, olderInOrder⟩)
            (List.forall_mem_cons.mpr ⟨newestEach, olderEach⟩)
  · cases reached

theorem finish_entries_eq (entries : Entries) :
    finishEntries entries = entries.map fun (key, draft) => (key, draft.finish) := by
  induction entries with
  | nil => rfl
  | cons head later ih => simp [finishEntries, ih]

theorem finish_tables_eq (older : List Entries) :
    finishTables older = older.map fun entries => .table (finishEntries entries) := by
  induction older with
  | nil => rfl
  | cons head later ih => simp [finishTables, ih]

theorem finish_table_ordered (entries : Entries) (inOrder : InOrder entries)
    (each : ∀ entry ∈ entries, entry.2.finish.Ordered) :
    (Value.table (finishEntries entries)).Ordered := by
  rw [finish_entries_eq]
  exact .table _ (List.pairwise_map.mpr inOrder) (List.forall_mem_map.mpr each)

theorem finish_ordered (draft : Draft) (ordered : draft.Ordered) : draft.finish.Ordered := by
  induction ordered with
  | leaf value held => exact held
  | table origin entries inOrder each ih => exact finish_table_ordered entries inOrder ih
  | tables newest older inOrder each olderInOrder olderEach ih olderIh =>
      refine .array _ ?_
      simp only [List.mem_reverse, List.forall_mem_cons, finish_tables_eq, List.forall_mem_map]
      exact ⟨finish_table_ordered newest inOrder ih, fun entries member =>
        finish_table_ordered entries (olderInOrder entries member) (olderIh entries member)⟩

end Draft

theorem based_plain (base : Nat) (text : Text) (value : Value)
    (read : based base text = some value) : value.isPlain = true := by
  unfold based at read
  split at read
  · cases read
    rfl
  · simp only [Option.bind_eq_bind, Option.bind_eq_some_iff] at read
    obtain ⟨digits, _, same⟩ := read
    cases same
    rfl

theorem decimal_plain (text : Text) (value : Value) (read : decimal text = some value) :
    value.isPlain = true := by
  unfold decimal at read
  simp only at read
  split at read
  · cases read
  split at read
  · cases read
    split <;> rfl
  · cases read

theorem float_plain (text : Text) (value : Value) (read : float? text = some value) :
    value.isPlain = true := by
  unfold float? at read
  simp only at read
  split at read
  · cases read
    rfl
  split at read
  · cases read
    rfl
  split at read
  · cases read
  · simp only [Option.bind_eq_bind, Option.bind_eq_some_iff] at read
    obtain ⟨whole, _, fraction, _, exponent, _, same⟩ := read
    cases same
    split <;> rfl

/-- A word is no array and no table. -/
theorem scalar_plain (spelled : Text) (value : Value) (read : scalar? spelled = some value) :
    value.isPlain = true := by
  unfold scalar? at read
  split at read
  · cases read
    rfl
  split at read
  · cases read
    rfl
  split at read
  · cases read
    rfl
  rcases Option.or_eq_some_iff.mp read with number | ⟨_, number⟩
  · unfold integer? at number
    split at number
    · exact based_plain 16 _ value number
    · exact based_plain 8 _ value number
    · exact based_plain 2 _ value number
    · exact decimal_plain spelled value number
  · exact float_plain spelled value number

namespace Form

mutual

theorem value_ordered : ∀ (form : Form) (value : Value), form.value = .ok value → value.Ordered
  | .scalar (.string (some content)), value, read => by
      cases read
      exact .plain _ rfl
  | .scalar (.block (some content)), value, read => by
      cases read
      exact .plain _ rfl
  | .scalar (.word spelled), value, read => by
      rw [Form.value] at read
      cases word : scalar? spelled with
      | none =>
          rw [word] at read
          cases read
      | some held =>
          rw [word] at read
          cases read
          exact .plain _ (scalar_plain spelled _ word)
  | .array items, value, read => by
      rw [Form.value, map_eq_ok] at read
      obtain ⟨held, each, rfl⟩ := read
      exact .array held (values_ordered items held each)
  | .table entries, value, read => by
      rw [Form.value, map_eq_ok] at read
      obtain ⟨drafts, added, rfl⟩ := read
      exact Draft.finish_ordered (.table .header drafts)
        ((add_all_ordered entries [] drafts Draft.Entries.ordered_nil added).table _)

theorem values_ordered : ∀ (forms : List Form) (held : List Value), values forms = .ok held →
    ∀ value ∈ held, value.Ordered
  | [], held, read => by
      cases read
      exact nofun
  | form :: later, held, read => by
      rw [values, bind_eq_ok] at read
      obtain ⟨first, here, further⟩ := read
      obtain ⟨rest, behind, same⟩ := (bind_eq_ok _ _ _).mp further
      cases same
      exact List.forall_mem_cons.mpr
        ⟨value_ordered form first here, values_ordered later rest behind⟩

theorem add_all_ordered : ∀ (entries : List (KeyForm × Form)) (drafts result : Draft.Entries),
    drafts.Ordered → addAll entries drafts = .ok result → result.Ordered
  | [], drafts, result, ordered, added => by
      cases added
      exact ordered
  | (key, form) :: later, drafts, result, ordered, added => by
      rw [addAll, bind_eq_ok] at added
      obtain ⟨key, _, held⟩ := added
      obtain ⟨value, read, taken⟩ := (bind_eq_ok _ _ _).mp held
      obtain ⟨changed, here, behind⟩ := (bind_eq_ok _ _ _).mp taken
      exact add_all_ordered later changed result
        (Draft.add_ordered key value (value_ordered form value read) drafts changed ordered here)
        behind

end

end Form

theorem fill_ordered (lines : List Line) : Draft.KeepsOrder (fill lines) := by
  induction lines with
  | nil =>
      intro entries result ordered filled
      cases filled
      exact ordered
  | cons line later induction =>
      intro entries result ordered filled
      cases line with
      | entry key form =>
          simp only [fill, bind_eq_ok] at filled
          obtain ⟨key, _, value, read, changed, here, behind⟩ := filled
          exact induction changed result (Draft.add_ordered key value
            (form.value_ordered value read) entries changed ordered here) behind
      | _ =>
          cases filled
          exact ordered

theorem tables_ordered (lines : List Line) : Draft.KeepsOrder (tables lines) := by
  induction lines with
  | nil =>
      intro entries result ordered filled
      cases filled
      exact ordered
  | cons line later induction =>
      intro entries result ordered filled
      cases line with
      | entry key form => exact induction entries result ordered filled
      | table key =>
          simp only [tables, bind_eq_ok] at filled
          obtain ⟨key, _, changed, here, behind⟩ := filled
          exact induction changed result (Draft.open_table_ordered key.path key.name (fill later)
            (fill_ordered later) entries changed ordered here) behind
      | element key =>
          simp only [tables, bind_eq_ok] at filled
          obtain ⟨key, _, changed, here, behind⟩ := filled
          exact induction changed result (Draft.open_element_ordered key.path key.name (fill later)
            (fill_ordered later) entries changed ordered here) behind

/-- No text denotes a table with a name that stands twice, at any depth. -/
theorem read_ordered (text : Text) (table : Table) (denoted : read text = .ok table) :
    (Value.table table).Ordered := by
  simp only [read, bind_eq_ok] at denoted
  obtain ⟨lines, _, first, filled, drafts, opened, same⟩ := denoted
  cases same
  have start := fill_ordered lines [] first Draft.Entries.ordered_nil filled
  exact Draft.finish_ordered (.table .header drafts)
    ((tables_ordered lines first drafts start opened).table _)

end LuceneQuery.Toml
