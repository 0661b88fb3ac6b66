import LuceneQuery.Proofs.Faults

/-!
# Where a position leads

A position is read back from its dotted text, and followed number by number through the lists of
clauses. The first error of a document leads to the clause whose own check failed.
-/

namespace LuceneQuery

set_option autoImplicit false

/-- The numbers between the dots. -/
def Position.ofText (text : String) : Position :=
  (text.toList.splitOn '.').map fun digits => Nat.ofDigitChars 10 digits 0

theorem Position.of_text (position : Position) (filled : position ≠ []) :
    Position.ofText position.text = position := by
  have undotted : ∀ digits ∈ position.map (Nat.toDigits 10), '.' ∉ digits := by
    intro digits member dot
    obtain ⟨number, _, rfl⟩ := List.mem_map.mp member
    exact absurd (Nat.isDigit_of_mem_toDigits (by decide) (by decide) dot) (by decide)
  have spelled : position.text.toList =
      List.intercalate ['.'] (position.map (Nat.toDigits 10)) := by
    rw [Position.text, String.toList_intercalate, List.map_map]
    congr 2
    funext number
    simp [Nat.repr_eq_ofList_toDigits]
  rw [Position.ofText, spelled, List.splitOn_intercalate '.' undotted (by simpa using filled)]
  calc (position.map (Nat.toDigits 10)).map (fun digits => Nat.ofDigitChars 10 digits 0)
      = position.map fun number => Nat.ofDigitChars 10 (Nat.toDigits 10 number) 0 := by
        rw [List.map_map]
        rfl
    _ = position := by simp only [Nat.ofDigitChars_ten_toDigits, List.map_id']

/-- Clauses are counted from one. -/
def pick (clauses : List Clause) : Nat → Option Clause
  | 0 => none
  | index + 1 => clauses[index]?

namespace Clause

def reach : Clause → Position → Option Clause
  | clause, [] => some clause
  | clause, number :: inner => (pick clause.nested number).bind fun child => child.reach inner

/-- The error is the first fault of the clause that its position leads to, which is the one at
the given position or one below it. -/
def Explains (clause : Clause) (position : Position) (error : DocumentError) : Prop :=
  ∃ inner found fault, error = .clause (position ++ inner) fault ∧
    clause.reach inner = some found ∧ found.ownFaults.head? = some fault

theorem explains_own (clause : Clause) (position : Position) (fault : Fault)
    (first : clause.ownFaults.head? = some fault) :
    clause.Explains position (.clause position fault) :=
  ⟨[], clause, fault, by rw [List.append_nil], rfl, first⟩

theorem explains_nested (clause child : Clause) (position : Position) (number : Nat)
    (error : DocumentError) (picked : pick clause.nested number = some child)
    (explained : child.Explains (position ++ [number]) error) :
    clause.Explains position error := by
  obtain ⟨inner, found, fault, same, reached, first⟩ := explained
  refine ⟨number :: inner, found, fault, by rw [same, List.append_assoc, List.singleton_append],
    ?_, first⟩
  rw [reach, picked]
  exact reached

theorem errors_of_all_head (position : Position) (clauses : List Clause) :
    ∀ number error, (errorsOfAll position number clauses).head? = some error →
      ∃ (index : Nat) (clause : Clause), clauses[index]? = some clause ∧
        (clause.errors (position ++ [number + index])).head? = some error := by
  induction clauses with
  | nil =>
      intro number error first
      cases first
  | cons clause later induction =>
      intro number error first
      rw [errorsOfAll, List.head?_append, Option.or_eq_some_iff] at first
      rcases first with here | ⟨_, behind⟩
      · exact ⟨0, clause, rfl, here⟩
      · obtain ⟨index, found, listed, leads⟩ := induction (number + 1) error behind
        exact ⟨index + 1, found, listed, by rwa [Nat.add_comm index, ← Nat.add_assoc]⟩

/-- The first error of a list of clauses that are counted from one. -/
theorem exists_explains_of_head (position : Position) (clauses : List Clause)
    (error : DocumentError)
    (each : ∀ clause ∈ clauses, ∀ position, (clause.errors position).head? = some error →
      clause.Explains position error)
    (first : (errorsOfAll position 1 clauses).head? = some error) :
    ∃ number clause, pick clauses number = some clause ∧
      clause.Explains (position ++ [number]) error := by
  obtain ⟨index, clause, listed, head⟩ := errors_of_all_head position clauses 1 error first
  refine ⟨1 + index, clause, by rwa [Nat.add_comm], ?_⟩
  exact each clause (List.mem_of_getElem? listed) _ head

theorem explains_first_error (clause : Clause) (error : DocumentError) :
    ∀ position, (clause.errors position).head? = some error → clause.Explains position error := by
  induction clause with
  | clause options clauses induction =>
      intro position first
      rw [errors_eq] at first
      cases blocked : blocking ⟨options, clauses⟩ with
      | cons fault others =>
          simp only [blocked, List.map_cons, List.head?_cons, Option.some.injEq] at first
          rw [← first]
          exact explains_own _ position fault (by simp [ownFaults, blocked])
      | nil =>
          simp only [blocked, List.head?_append, Option.or_eq_some_iff, List.head?_map,
            Option.map_eq_some_iff, Option.or_eq_none_iff, Option.map_eq_none_iff] at first
          rcases first with (⟨fault, head, rfl⟩ | ⟨_, deep⟩) | ⟨⟨none, _⟩, fault, head, rfl⟩
          · exact explains_own _ position fault (by simp [ownFaults, blocked, head])
          · unfold nestedErrors at deep
            split at deep
            · obtain ⟨number, child, picked, explained⟩ :=
                exists_explains_of_head position _ error induction deep
              exact explains_nested _ child position number error picked explained
            · cases deep
          · exact explains_own _ position fault (by simp [ownFaults, blocked, none, head])

end Clause

namespace Document

/-- The clause that a dotted position leads to. -/
def clauseAt (document : Document) (text : String) : Option Clause :=
  match Position.ofText text with
  | [] => none
  | number :: inner => (pick document.clauses number).bind fun clause => clause.reach inner

theorem position_of_first_error (document : Document) (position : Position) (fault : Fault)
    (first : document.errors.head? = some (.clause position fault)) :
    ∃ clause, document.clauseAt position.text = some clause ∧
      clause.ownFaults.head? = some fault := by
  rw [errors, List.head?_append, Option.or_eq_some_iff, List.head?_map] at first
  rcases first with wrong | ⟨_, listed⟩
  · obtain ⟨_, _, impossible⟩ := Option.map_eq_some_iff.mp wrong
    cases impossible
  · obtain ⟨number, clause, picked, inner, found, own, same, reached, head⟩ :=
      Clause.exists_explains_of_head [] document.clauses _
        (fun clause _ => clause.explains_first_error _) listed
    simp only [List.nil_append, List.singleton_append, DocumentError.clause.injEq] at same
    obtain ⟨rfl, rfl⟩ := same
    refine ⟨found, ?_, head⟩
    rw [clauseAt, Position.of_text _ (by simp)]
    simp only [picked, Option.bind_some, reached]

end Document

end LuceneQuery
