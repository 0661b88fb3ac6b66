import LuceneQuery.Proofs.Calls

/-!
# Setters

A node is set up by calls of its setters, one after another. Each node has a field, an exclusion
and a boost to set; a term, a range and a group have settings of their own beside them. A call
with a number that is no weight is refused and leaves the node as it was.

What a setting is after such calls is found for any setting in the same way, from what one call
does to it.
-/

namespace LuceneQuery

set_option autoImplicit false

inductive Setter where
  | field
  | exclusion
  | boost
  | value
  | fuzziness
  | range
  | inclusive
  | operator
  deriving DecidableEq, Repr

def weightRefusal? (refuse : Float → QueryError) (value : Float) : Option QueryError :=
  if isWeight value then none else some (refuse value)

theorem weight_refusal_of_refused (refuse : Float → QueryError) (value : Float)
    (refused : Call.IsRefused value) : weightRefusal? refuse value = some (refuse value) := by
  rw [weightRefusal?, (Call.is_refused_iff value).mp refused]
  rfl

theorem weight_refusal_of_weight (refuse : Float → QueryError) (weight : Weight) :
    weightRefusal? refuse weight.value = none := by
  rw [weightRefusal?, weight.accepted]
  rfl

/-- The setters that a kind of node has beside those of every node. -/
class OwnSetters (Own : Type) where
  setter : Own → Setter
  refusal? : Own → Option QueryError

/-- A kind of node that is set up by calls. Which of them are refused does not hang on the node,
and none but the common ones touches the decoration. -/
class Settable (Kind : Type) (Own : outParam Type) [Decorated Kind] [OwnSetters Own] where
  setOwn : Kind → Own → Change Kind
  refused : ∀ node call problem, OwnSetters.refusal? call = some problem →
    setOwn node call = .refused problem node
  accepted : ∀ node call, OwnSetters.refusal? call = none →
    ∃ changed, setOwn node call = .made changed ∧
      Decorated.decoration changed = Decorated.decoration node

inductive SetterCall (Own : Type) where
  | setField (field : Text)
  | setExclusion (exclusion : Exclusion)
  | setBoost (boost : Float)
  | own (call : Own)

namespace SetterCall

section Common

variable {Own : Type} [OwnSetters Own]

def setter : SetterCall Own → Setter
  | .setField _ => .field
  | .setExclusion _ => .exclusion
  | .setBoost _ => .boost
  | .own call => OwnSetters.setter call

/-- What the call is refused for, whatever the node. -/
def refusal? : SetterCall Own → Option QueryError
  | .setField _ => none
  | .setExclusion _ => none
  | .setBoost boost => weightRefusal? .invalidBoost boost
  | .own call => OwnSetters.refusal? call

/-- The two runs have the same calls of each setter, in the same order. -/
def SameCalls (first second : List (SetterCall Own)) : Prop :=
  ∀ name : Setter, (first.filter fun call => call.setter = name) =
    second.filter fun call => call.setter = name

end Common

variable {Kind Own : Type} [Decorated Kind] [OwnSetters Own] [Settable Kind Own]

/-- What the caller sees, and the node that it goes on with. -/
def run (node : Kind) : SetterCall Own → Change Kind
  | .setField field => .made (Decorated.setField node field)
  | .setExclusion exclusion => .made (Decorated.setExclusion node exclusion)
  | .setBoost boost => Decorated.setBoost node boost
  | .own call => Settable.setOwn node call

def runAll (node : Kind) (calls : List (SetterCall Own)) : Kind :=
  calls.foldl (fun held call => (run held call).after) node

/-- The calls that succeeded, in order. -/
def made (node : Kind) : List (SetterCall Own) → List (SetterCall Own)
  | [] => []
  | call :: later =>
      let change := run node call
      if change.outcome.isOk then call :: made change.after later else made change.after later

/-- What a call that succeeds makes of a node. -/
inductive Sets : Kind → SetterCall Own → Kind → Prop
  | field (node : Kind) (field : Text) :
      Sets node (.setField field)
        (Decorated.redecorate node ((Decorated.decoration node).withField field))
  | exclusion (node : Kind) (exclusion : Exclusion) :
      Sets node (.setExclusion exclusion)
        (Decorated.redecorate node ((Decorated.decoration node).withExclusion exclusion))
  | boost (node : Kind) (weight : Weight) :
      Sets node (.setBoost weight.value)
        (Decorated.redecorate node { Decorated.decoration node with boost := weight })
  | own (node : Kind) (call : Own) (changed : Kind)
      (set : Settable.setOwn node call = .made changed)
      (undecorated : Decorated.decoration changed = Decorated.decoration node) :
      Sets node (.own call) changed

/-- What one call does to any node. -/
theorem run_cases (node : Kind) (call : SetterCall Own) :
    (∃ problem, call.refusal? = some problem ∧ run node call = .refused problem node) ∨
      (call.refusal? = none ∧
        ∃ changed, Sets node call changed ∧ run node call = .made changed) := by
  cases call with
  | setField field => exact .inr ⟨rfl, _, .field node field, rfl⟩
  | setExclusion exclusion => exact .inr ⟨rfl, _, .exclusion node exclusion, rfl⟩
  | setBoost boost =>
      obtain ⟨value, given, refused, stopped⟩ | ⟨_, weight, held, raised⟩ :=
        Call.set_boost_cases node (some boost)
      · obtain rfl : boost = value := Option.some.inj given
        exact .inl ⟨_, weight_refusal_of_refused _ boost refused, stopped⟩
      · obtain rfl : weight.value = boost := held
        exact .inr ⟨weight_refusal_of_weight _ weight, _, .boost node weight, raised⟩
  | own call =>
      cases refusal : OwnSetters.refusal? call with
      | some problem =>
          exact .inl ⟨problem, refusal, Settable.refused node call problem refusal⟩
      | none =>
          obtain ⟨changed, set, undecorated⟩ := Settable.accepted node call refusal
          exact .inr ⟨refusal, changed, .own node call changed set undecorated, set⟩

theorem refused_iff (node : Kind) (call : SetterCall Own) (problem : QueryError) :
    (run node call).outcome = .error problem ↔ call.refusal? = some problem := by
  obtain ⟨given, refusal, ran⟩ | ⟨refusal, _, _, ran⟩ := run_cases node call
  · simp [refusal, ran]
  · simp [refusal, ran]

theorem refused_unchanged (node : Kind) (call : SetterCall Own) (problem : QueryError)
    (refused : (run node call).outcome = .error problem) : (run node call).after = node := by
  obtain ⟨_, _, ran⟩ | ⟨_, _, _, ran⟩ := run_cases node call
  · rw [ran, Change.refused_after]
  · simp [ran] at refused

theorem made_eq_filter (calls : List (SetterCall Own)) : ∀ node : Kind,
    made node calls = calls.filter fun call => call.refusal?.isNone := by
  induction calls with
  | nil =>
      intro node
      rfl
  | cons call later induction =>
      intro node
      obtain ⟨_, refusal, ran⟩ | ⟨refusal, _, _, ran⟩ := run_cases node call
      · simp [made, ran, refusal, induction, Except.isOk, Except.toBool]
      · simp [made, ran, refusal, induction, Except.isOk, Except.toBool]

/-- What no call that succeeds breaks holds after all of the calls. -/
theorem run_all_keeps (Holds : Kind → Prop)
    (kept : ∀ node (call : SetterCall Own) changed, Holds node → Sets node call changed →
      Holds changed)
    (calls : List (SetterCall Own)) : ∀ node : Kind, Holds node → Holds (runAll node calls) := by
  induction calls with
  | nil =>
      intro node holds
      exact holds
  | cons call later induction =>
      intro node holds
      change Holds (runAll (run node call).after later)
      apply induction
      obtain ⟨_, _, ran⟩ | ⟨_, changed, sets, ran⟩ := run_cases node call
      · rw [ran]
        exact holds
      · rw [ran]
        exact kept node call changed holds sets

section Settings

variable {Value : Type}

/-- What the last of the calls of that setter gave, or the value that was there before. -/
def lastGiven (name : Setter) (given? : SetterCall Own → Option Value) (before : Value)
    (calls : List (SetterCall Own)) : Value :=
  (((calls.filter fun call => call.setter = name).filterMap given?).getLast?).getD before

theorem last_given_cons (name : Setter) (given? : SetterCall Own → Option Value) (before : Value)
    (call : SetterCall Own) (later : List (SetterCall Own)) :
    lastGiven name given? before (call :: later) =
      lastGiven name given? (lastGiven name given? before [call]) later := by
  unfold lastGiven
  by_cases named : call.setter = name
  · cases given : given? call with
    | none => simp [named, given]
    | some value => simp [named, given, List.getLast?_cons]
  · simp [named]

theorem last_given_of_none (name : Setter) (given? : SetterCall Own → Option Value)
    (before : Value) (call : SetterCall Own) (nothing : given? call = none) :
    lastGiven name given? before [call] = before := by
  unfold lastGiven
  by_cases named : call.setter = name
  · simp [named, nothing]
  · simp [named]

theorem last_given_of_same_calls {calls others : List (SetterCall Own)}
    (same : SameCalls calls others) (name : Setter) (given? : SetterCall Own → Option Value)
    (before : Value) :
    lastGiven name given? before calls = lastGiven name given? before others := by
  rw [lastGiven, lastGiven, same name]

/-- A setting that one call sets as `lastGiven` says is so after all of the calls, as far as they
succeeded. What the setter stores may hang on something that no call changes. -/
theorem run_all_setting (name : Setter) (Among : Kind → Prop) (read : Kind → Value)
    (given? : SetterCall Own → Option Value)
    (sets : ∀ node call changed, Among node → Sets node call changed →
      Among changed ∧ read changed = lastGiven name given? (read node) [call])
    (calls : List (SetterCall Own)) : ∀ node : Kind, Among node →
      read (runAll node calls) = lastGiven name given? (read node) (made node calls) := by
  induction calls with
  | nil =>
      intro node _
      rfl
  | cons call later induction =>
      intro node among
      change read (runAll (run node call).after later) = _
      unfold made
      obtain ⟨_, _, ran⟩ | ⟨_, changed, set, ran⟩ := run_cases node call
      -- A refused call leaves the node, and it is not among those that were made.
      · rw [ran]
        exact induction node among
      · obtain ⟨still, value⟩ := sets node call changed among set
        rw [ran]
        refine (induction changed still).trans ?_
        rw [value, ← last_given_cons]
        rfl

theorem SameCalls.filter {first second : List (SetterCall Own)} (same : SameCalls first second)
    (accept : SetterCall Own → Bool) : SameCalls (first.filter accept) (second.filter accept) := by
  intro name
  rw [List.filter_comm, same name, List.filter_comm]

end Settings

end SetterCall

/-! The kinds of nodes -/

inductive TermSetter where
  | setValue (value : Text)
  | setFuzziness (fuzziness : Option Float)

instance : OwnSetters TermSetter where
  setter
    | .setValue _ => .value
    | .setFuzziness _ => .fuzziness
  refusal?
    | .setValue _ => none
    | .setFuzziness fuzziness => fuzziness.bind (weightRefusal? .invalidFuzziness)

instance : Settable Term TermSetter where
  setOwn term
    | .setValue value => .made (term.setValue value)
    | .setFuzziness fuzziness => term.setFuzziness fuzziness
  refused term call problem refusal := by
    cases call with
    | setValue value => cases refusal
    | setFuzziness fuzziness =>
        obtain ⟨value, rfl, refused, stopped⟩ | ⟨_, fuzzy, rfl, _⟩ :=
          Call.set_fuzziness_cases term fuzziness
        · have same := weight_refusal_of_refused .invalidFuzziness value refused
          obtain rfl : QueryError.invalidFuzziness value = problem :=
            Option.some.inj (same.symm.trans refusal)
          exact stopped
        · cases fuzzy with
          | none => cases refusal
          | some weight =>
              have same := weight_refusal_of_weight .invalidFuzziness weight
              cases same.symm.trans refusal
  accepted term call refusal := by
    cases call with
    | setValue value => exact ⟨_, rfl, rfl⟩
    | setFuzziness fuzziness =>
        obtain ⟨value, rfl, refused, _⟩ | ⟨_, fuzzy, _, set⟩ :=
          Call.set_fuzziness_cases term fuzziness
        · have same := weight_refusal_of_refused .invalidFuzziness value refused
          cases same.symm.trans refusal
        · exact ⟨_, set, rfl⟩

/-- Setting a range reads the clock twice. -/
inductive RangeSetter where
  | setRange (now : Timestamp) (start stop : Bound) (later : Timestamp)
  | setInclusive (inclusive : Bool)

instance : OwnSetters RangeSetter where
  setter
    | .setRange _ _ _ _ => .range
    | .setInclusive _ => .inclusive
  refusal? _ := none

instance : Settable Range RangeSetter where
  setOwn range
    | .setRange now start stop later => .made (range.setRange now start stop later)
    | .setInclusive inclusive => .made (range.setInclusive inclusive)
  refused _ _ _ := nofun
  accepted range call _ := by cases call <;> exact ⟨_, rfl, rfl⟩

/-- Groups of terms and groups of clauses have the same setter. -/
inductive GroupSetter where
  | setOperator (operator : Operator)

instance : OwnSetters GroupSetter where
  setter _ := .operator
  refusal? _ := none

instance : Settable TermGroup GroupSetter where
  setOwn group
    | .setOperator operator => .made (group.setOperator operator)
  refused _ _ _ := nofun
  accepted group call _ := by cases call; exact ⟨_, rfl, rfl⟩

instance : Settable Query GroupSetter where
  setOwn query
    | .setOperator operator => .made (query.setOperator operator)
  refused _ _ _ := nofun
  accepted query call _ := by cases call; exact ⟨_, rfl, rfl⟩

/-- A node of any kind is only decorated. -/
instance : OwnSetters Empty where
  setter := nofun
  refusal? := nofun

instance : Settable Node Empty where
  setOwn _ := nofun
  refused _ := nofun
  accepted _ := nofun

end LuceneQuery
