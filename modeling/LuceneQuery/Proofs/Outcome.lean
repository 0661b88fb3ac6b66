import Mathlib.Data.List.Forall2

/-!
# Outcomes and the problems they stop at

A step that can fail stops at the first problem it meets. Where all of the problems can be
listed beforehand, the outcome is the first of them, and a result just when there are none.
-/

namespace LuceneQuery

set_option autoImplicit false

theorem bind_eq_ok {Problem First Second : Type} (outcome : Except Problem First)
    (next : First → Except Problem Second) (result : Second) :
    (outcome >>= next) = .ok result ↔ ∃ first, outcome = .ok first ∧ next first = .ok result := by
  cases outcome <;> simp [Bind.bind, Except.bind]

theorem map_eq_ok {Problem First Second : Type} (change : First → Second)
    (outcome : Except Problem First) (result : Second) :
    outcome.map change = .ok result ↔ ∃ first, outcome = .ok first ∧ change first = result := by
  cases outcome <;> simp [Except.map]

theorem map_bind_eq_of_alike {Problem First Second Shown Final : Type} {shown : First → Shown}
    {final : Second → Final} {left right : Except Problem First}
    {next other : First → Except Problem Second} (same : left.map shown = right.map shown)
    (after : ∀ first second, shown first = shown second →
      (next first).map final = (other second).map final) :
    (left >>= next).map final = (right >>= other).map final := by
  cases left with
  | error problem =>
      cases right with
      | error given =>
          cases same
          rfl
      | ok second => cases same
  | ok first =>
      cases right with
      | error given => cases same
      | ok second => exact after first second (Except.ok.inj same)

def StopsAtFirst {Problem Result : Type} (problems : List Problem) :
    Except Problem Result → Prop
  | .ok _ => problems = []
  | .error problem => problems.head? = some problem

theorem map_error_eq_ok {Problem Other Result : Type} (change : Problem → Other)
    (outcome : Except Problem Result) (result : Result) :
    outcome.mapError change = .ok result ↔ outcome = .ok result := by
  cases outcome <;> simp [Except.mapError]

/-- One result for each item, in order. -/
theorem map_m_eq_ok {Problem Item Result : Type} (step : Item → Except Problem Result)
    (items : List Item) : ∀ results, items.mapM step = .ok results →
      List.Forall₂ (fun item result => step item = .ok result) items results := by
  induction items with
  | nil =>
      intro results all
      cases all
      exact .nil
  | cons item later induction =>
      intro results all
      simp only [List.mapM_cons, bind_eq_ok] at all
      obtain ⟨first, here, rest, behind, same⟩ := all
      cases same
      exact .cons here (induction rest behind)

theorem partner_of_mem {Item Result : Type} {Paired : Item → Result → Prop} {items : List Item}
    {results : List Result} (paired : List.Forall₂ Paired items results) :
    ∀ item ∈ items, ∃ result ∈ results, Paired item result := by
  induction paired with
  | nil => exact nofun
  | cons first _ induction =>
      refine List.forall_mem_cons.mpr ⟨⟨_, by simp, first⟩, fun item member => ?_⟩
      obtain ⟨result, held, pair⟩ := induction item member
      exact ⟨result, List.mem_cons_of_mem _ held, pair⟩

theorem partner_at {Item Result : Type} {Paired : Item → Result → Prop} {items : List Item}
    {results : List Result} (paired : List.Forall₂ Paired items results) :
    ∀ (index : Nat) (item : Item), items[index]? = some item →
      ∃ result, results[index]? = some result ∧ Paired item result := by
  induction paired with
  | nil =>
      intro index item held
      simp at held
  | cons first _ induction =>
      intro index item held
      cases index with
      | zero =>
          obtain rfl : _ = item := by simpa using held
          exact ⟨_, rfl, first⟩
      | succ index => exact induction index item held

theorem map_m_congr {Problem Item Result : Type} (first second : Item → Except Problem Result)
    (items : List Item) (same : ∀ item ∈ items, first item = second item) :
    items.mapM first = items.mapM second := by
  induction items with
  | nil => rfl
  | cons item later induction =>
      rw [List.mapM_cons, List.mapM_cons, same item (by simp),
        induction fun item member => same item (List.mem_cons_of_mem _ member)]

/-- What a reader refuses, where it is given something. -/
def refusals {Problem Given Result : Type} (read : Given → Except Problem Result)
    (given : Option Given) : List Problem :=
  match given.map read with
  | some (.error problem) => [problem]
  | _ => []

theorem refusals_eq_nil {Problem Given Result : Type} (read : Given → Except Problem Result)
    (given : Option Given) :
    refusals read given = [] ↔ ∀ value ∈ given, ∀ problem, read value ≠ .error problem := by
  cases given with
  | none => simp [refusals]
  | some value =>
      cases outcome : read value <;> simp [refusals, outcome]

theorem refusals_head_iff {Problem Given Result : Type} (read : Given → Except Problem Result)
    (given : Option Given) (problem : Problem) :
    (refusals read given).head? = some problem ↔ ∃ value ∈ given, read value = .error problem := by
  cases given with
  | none => simp [refusals]
  | some value =>
      cases outcome : read value <;> simp [refusals, outcome]

theorem never_error_iff {Problem Result : Type} (outcome : Except Problem Result) :
    (∀ problem, outcome ≠ .error problem) ↔ ∃ result, outcome = .ok result := by
  cases outcome <;> simp

namespace StopsAtFirst

variable {Problem First Second Item : Type} {problems further : List Problem}

theorem ok_iff {outcome : Except Problem First} (stops : StopsAtFirst problems outcome) :
    (∃ result, outcome = .ok result) ↔ problems = [] := by
  cases outcome with
  | ok result => simpa [StopsAtFirst] using stops
  | error problem =>
      simp only [StopsAtFirst] at stops
      constructor
      · rintro ⟨_, impossible⟩
        cases impossible
      · rintro rfl
        cases stops

theorem fails_iff {outcome : Except Problem First} (stops : StopsAtFirst problems outcome) :
    (∃ problem, outcome = .error problem) ↔ problems ≠ [] := by
  rw [Ne, ← stops.ok_iff]
  cases outcome <;> simp

theorem error_iff {outcome : Except Problem First} (stops : StopsAtFirst problems outcome)
    (problem : Problem) : outcome = .error problem ↔ problems.head? = some problem := by
  cases outcome with
  | ok result =>
      simp only [StopsAtFirst] at stops
      simp [stops]
  | error own =>
      simp only [StopsAtFirst] at stops
      simp [stops]

/-- Only the first of the problems counts. -/
theorem of_head_eq {outcome : Except Problem First} (stops : StopsAtFirst problems outcome)
    (same : further.head? = problems.head?) : StopsAtFirst further outcome := by
  cases outcome with
  | ok result =>
      simp only [StopsAtFirst] at stops
      rw [stops, List.head?_nil, List.head?_eq_none_iff] at same
      exact same
  | error problem => exact same.trans stops

/-- Where nothing is given, something else stands for it. -/
theorem given (read : Item → Except Problem First) (given : Option Item) (standing : First) :
    StopsAtFirst (refusals read given) (given.elim (.ok standing) read) := by
  cases given with
  | none => exact rfl
  | some item =>
      simp only [refusals, Option.map_some, Option.elim_some]
      cases read item <;> exact rfl

theorem map_error {Other : Type} {outcome : Except Problem First}
    (stops : StopsAtFirst problems outcome) (change : Problem → Other) :
    StopsAtFirst (problems.map change) (outcome.mapError change) := by
  cases outcome with
  | ok result =>
      simp only [StopsAtFirst] at stops
      rw [stops]
      rfl
  | error problem =>
      simp only [StopsAtFirst] at stops
      simp [StopsAtFirst, Except.mapError, stops]

/-- The problems of a second step come after those of the first. -/
theorem bind {outcome : Except Problem First} {next : First → Except Problem Second}
    (stops : StopsAtFirst problems outcome)
    (later : ∀ result, outcome = .ok result → StopsAtFirst further (next result)) :
    StopsAtFirst (problems ++ further) (outcome >>= next) := by
  cases outcome with
  | ok result =>
      simp only [StopsAtFirst] at stops
      rw [stops, List.nil_append]
      exact later result rfl
  | error problem =>
      change (problems ++ further).head? = some problem
      rw [List.head?_append, stops]
      rfl

/-- A last step that cannot fail adds no problem. -/
theorem map {outcome : Except Problem First} (change : First → Second)
    (stops : StopsAtFirst problems outcome) :
    StopsAtFirst problems (outcome >>= fun result => .ok (change result)) := by
  rw [← List.append_nil problems]
  exact stops.bind fun _ _ => rfl

theorem mapM {step : Item → Except Problem First} {problemsOf : Item → List Problem}
    (items : List Item) (each : ∀ item ∈ items, StopsAtFirst (problemsOf item) (step item)) :
    StopsAtFirst (items.flatMap problemsOf) (items.mapM step) := by
  induction items with
  | nil => exact rfl
  | cons item later induction =>
      rw [List.flatMap_cons, List.mapM_cons]
      refine (each item (by simp)).bind fun result _ => ?_
      exact (induction fun item member => each item (List.mem_cons_of_mem _ member)).map _

end StopsAtFirst

/-- Both end with the same result, or both fail with problems that are alike. -/
def EndsAlike {Problem Result : Type} (Alike : Problem → Problem → Prop) :
    Except Problem Result → Except Problem Result → Prop
  | .ok result, .ok other => result = other
  | .error problem, .error other => Alike problem other
  | _, _ => False

namespace EndsAlike

variable {Problem Other First Second : Type} {Alike Wider : Problem → Problem → Prop}

theorem refl (same : ∀ problem, Alike problem problem) (outcome : Except Problem First) :
    EndsAlike Alike outcome outcome := by
  cases outcome with
  | ok result => exact rfl
  | error problem => exact same problem

theorem ok {outcome other : Except Problem First} (alike : EndsAlike Alike outcome other)
    {result : First} (first : outcome = .ok result) : other = .ok result := by
  subst first
  cases other with
  | ok given => exact congrArg Except.ok alike.symm
  | error problem => exact alike.elim

theorem mono {outcome other : Except Problem First} (alike : EndsAlike Alike outcome other)
    (wider : ∀ problem given, outcome = .error problem → other = .error given →
      Alike problem given → Wider problem given) :
    EndsAlike Wider outcome other := by
  cases outcome <;> cases other
  · exact wider _ _ rfl rfl alike
  · exact alike.elim
  · exact alike.elim
  · exact alike

theorem bind {outcome other : Except Problem First} {next after : First → Except Problem Second}
    (alike : EndsAlike Alike outcome other)
    (further : ∀ result, EndsAlike Alike (next result) (after result)) :
    EndsAlike Alike (outcome >>= next) (other >>= after) := by
  cases outcome <;> cases other
  · exact alike
  · exact alike.elim
  · exact alike.elim
  · next result given =>
    obtain rfl : result = given := alike
    exact further result

theorem map_error {Related : Other → Other → Prop} {outcome other : Except Problem First}
    {change otherwise : Problem → Other} (alike : EndsAlike Alike outcome other)
    (kept : ∀ problem given, Alike problem given → Related (change problem) (otherwise given)) :
    EndsAlike Related (outcome.mapError change) (other.mapError otherwise) := by
  cases outcome <;> cases other
  · exact kept _ _ alike
  · exact alike.elim
  · exact alike.elim
  · exact alike

end EndsAlike

end LuceneQuery
