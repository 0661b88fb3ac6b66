import LuceneQuery.QueryError

/-!
# Changes in place

Some changes to what a caller holds can be refused. The caller then learns why, and goes on with
what the change has left in its hands.
-/

namespace LuceneQuery

set_option autoImplicit false

structure Change (State : Type) where
  outcome : Except QueryError Unit
  after : State

namespace Change

variable {State Whole : Type}

def made (after : State) : Change State := ⟨.ok (), after⟩

def refused (problem : QueryError) (left : State) : Change State := ⟨.error problem, left⟩

@[simp]
theorem made_outcome (after : State) : (made after).outcome = .ok () := rfl

@[simp]
theorem made_after (after : State) : (made after).after = after := rfl

@[simp]
theorem refused_outcome (problem : QueryError) (left : State) :
    (refused problem left).outcome = .error problem := rfl

@[simp]
theorem refused_after (problem : QueryError) (left : State) :
    (refused problem left).after = left := rfl

/-- The change of a part, seen on the whole that holds it. -/
def map (change : Change State) (rebuild : State → Whole) : Change Whole :=
  ⟨change.outcome, rebuild change.after⟩

/-- The next change is only tried where this one was made. -/
def andThen (change : Change State) (next : State → Change State) : Change State :=
  match change.outcome with
  | .ok () => next change.after
  | .error problem => .refused problem change.after

/-- What is left to a caller that gives up where the change is refused. -/
def result (change : Change State) : Except QueryError State :=
  match change.outcome with
  | .ok () => .ok change.after
  | .error problem => .error problem

@[simp]
theorem made_and_then (after : State) (next : State → Change State) :
    (made after).andThen next = next after := rfl

instance : Coe (Change State) (Except QueryError State) := ⟨result⟩

@[simp]
theorem result_made (after : State) : (made after).result = .ok after := rfl

@[simp]
theorem result_refused (problem : QueryError) (left : State) :
    (refused problem left).result = .error problem := rfl

theorem result_map (change : Change State) (rebuild : State → Whole) :
    (change.map rebuild).result = change.result.map rebuild := by
  obtain ⟨outcome, after⟩ := change
  cases outcome <;> rfl

end Change

end LuceneQuery
