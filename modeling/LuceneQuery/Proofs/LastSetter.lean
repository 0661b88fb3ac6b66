import LuceneQuery.Proofs.NumberText
import LuceneQuery.Proofs.Setters

/-!
# The last call decides

Each setting of a node is what the last successful call of its setter gave, or what it was before
any call. Calls of other setters, before it or after it, make no difference, and neither do calls
that are refused.

Boost and fuzziness are weights, so what is written behind their signs is always a number.
-/

namespace LuceneQuery

set_option autoImplicit false

namespace SetterCall

variable {Own : Type}

def field? : SetterCall Own → Option Text
  | .setField field => some field
  | _ => none

def exclusion? : SetterCall Own → Option Exclusion
  | .setExclusion exclusion => some exclusion
  | _ => none

def boost? : SetterCall Own → Option Float
  | .setBoost boost => some boost
  | _ => none

/-- What the setters of one kind alone give. -/
def ofOwn {Value : Type} (given? : Own → Option Value) : SetterCall Own → Option Value
  | .own call => given? call
  | _ => none

end SetterCall

namespace TermSetter

/-- Values are stored trimmed. -/
def value? : TermSetter → Option (Option Text)
  | .setValue value => some (some (Text.trim value))
  | .setFuzziness _ => none

def fuzziness? : TermSetter → Option (Option Float)
  | .setValue _ => none
  | .setFuzziness fuzziness => some fuzziness

end TermSetter

namespace RangeSetter

/-- Bounds are stored as the format of the range has them, each at its own reading of the clock. -/
def start? (format : BoundFormat) : RangeSetter → Option Bound
  | .setRange now start _ _ => some (format.normalize now start)
  | .setInclusive _ => none

def stop? (format : BoundFormat) : RangeSetter → Option Bound
  | .setRange _ _ stop later => some (format.normalize later stop)
  | .setInclusive _ => none

def inclusive? : RangeSetter → Option Bool
  | .setRange _ _ _ _ => none
  | .setInclusive inclusive => some inclusive

end RangeSetter

def GroupSetter.operator? : GroupSetter → Option Operator
  | .setOperator operator => some operator

open SetterCall

/-- The decoration that the calls which succeeded leave. -/
structure Decoration.Follows {Own : Type} [OwnSetters Own] (before after : Decoration)
    (calls : List (SetterCall Own)) : Prop where
  field : after.field = lastGiven .field field? before.field calls
  exclusion : after.exclusion = lastGiven .exclusion exclusion? before.exclusion calls
  boost : after.boost.value = lastGiven .boost boost? before.boost.value calls

structure Term.Follows (before after : Term) (calls : List (SetterCall TermSetter)) : Prop where
  value : after.value = lastGiven .value (ofOwn TermSetter.value?) before.value calls
  fuzziness : after.fuzziness.map Weight.value =
    lastGiven .fuzziness (ofOwn TermSetter.fuzziness?) (before.fuzziness.map Weight.value) calls
  decoration : before.decoration.Follows after.decoration calls

structure Range.Follows (before after : Range) (calls : List (SetterCall RangeSetter)) :
    Prop where
  start : after.start =
    lastGiven .range (ofOwn (RangeSetter.start? before.format)) before.start calls
  stop : after.stop = lastGiven .range (ofOwn (RangeSetter.stop? before.format)) before.stop calls
  inclusive : after.inclusive =
    lastGiven .inclusive (ofOwn RangeSetter.inclusive?) before.inclusive calls
  format : after.format = before.format
  decoration : before.decoration.Follows after.decoration calls

structure TermGroup.Follows (before after : TermGroup) (calls : List (SetterCall GroupSetter)) :
    Prop where
  operator : after.operator =
    lastGiven .operator (ofOwn GroupSetter.operator?) before.operator calls
  terms : after.terms = before.terms
  decoration : before.decoration.Follows after.decoration calls

structure Query.Follows (before after : Query) (calls : List (SetterCall GroupSetter)) :
    Prop where
  operator : after.operator =
    lastGiven .operator (ofOwn GroupSetter.operator?) before.operator calls
  children : after.children = before.children
  decoration : before.decoration.Follows after.decoration calls

structure Node.Follows (before after : Node) (calls : List (SetterCall Empty)) : Prop where
  undecorated : after = before.redecorate after.decoration
  decoration : before.decoration.Follows after.decoration calls

namespace SetterCall

variable {Kind Own Value : Type} [Decorated Kind] [OwnSetters Own] [Settable Kind Own]

/-- A setting that every node has, which no setter of the kind's own touches. -/
theorem run_all_common (name : Setter) (read : Decoration → Value)
    (given? : SetterCall Own → Option Value)
    (field : ∀ decoration text,
      read (decoration.withField text) =
        lastGiven name given? (read decoration) [.setField text])
    (exclusion : ∀ decoration sign,
      read (decoration.withExclusion sign) =
        lastGiven name given? (read decoration) [.setExclusion sign])
    (boost : ∀ (decoration : Decoration) (weight : Weight),
      read { decoration with boost := weight } =
        lastGiven name given? (read decoration) [.setBoost weight.value])
    (own : ∀ call, given? (.own call) = none) (calls : List (SetterCall Own)) (node : Kind) :
    read (Decorated.decoration (runAll node calls)) =
      lastGiven name given? (read (Decorated.decoration node)) (made node calls) := by
  apply run_all_setting name (fun _ => True)
    (fun held : Kind => read (Decorated.decoration held)) given? _ calls node trivial
  intro held call changed _ set
  apply And.intro trivial
  cases set with
  | field text => rw [Decorated.decoration_redecorate, field]
  | exclusion sign => rw [Decorated.decoration_redecorate, exclusion]
  | boost weight => rw [Decorated.decoration_redecorate, boost]
  | own call _ _ undecorated => rw [undecorated, last_given_of_none name given? _ _ (own call)]

theorem decoration_follows (calls : List (SetterCall Own)) (node : Kind) :
    (Decorated.decoration node).Follows (Decorated.decoration (runAll node calls))
      (made node calls) where
  field :=
    run_all_common .field Decoration.field field? (fun _ _ => rfl) (fun _ _ => rfl)
      (fun _ _ => rfl) (fun _ => rfl) calls node
  exclusion :=
    run_all_common .exclusion Decoration.exclusion exclusion? (fun _ _ => rfl) (fun _ _ => rfl)
      (fun _ _ => rfl) (fun _ => rfl) calls node
  boost :=
    run_all_common .boost (fun decoration => decoration.boost.value) boost? (fun _ _ => rfl)
      (fun _ _ => rfl) (fun _ _ => rfl) (fun _ => rfl) calls node

/-- A setting of the kind's own, which decorating does not touch. -/
theorem run_all_own_among (name : Setter) (Among : Kind → Prop) (read : Kind → Value)
    (given? : Own → Option Value)
    (decorated : ∀ node decoration, Among node →
      Among (Decorated.redecorate node decoration) ∧
        read (Decorated.redecorate node decoration) = read node)
    (sets : ∀ node call changed, Among node → Settable.setOwn node call = .made changed →
      Among changed ∧ read changed = lastGiven name (ofOwn given?) (read node) [.own call])
    (calls : List (SetterCall Own)) (node : Kind) (among : Among node) :
    read (runAll node calls) = lastGiven name (ofOwn given?) (read node) (made node calls) := by
  apply run_all_setting name Among read (ofOwn given?) _ calls node among
  intro held call changed here set
  cases set with
  | own call _ stored _ => exact sets held call changed here stored
  | _ =>
      rw [last_given_of_none name (ofOwn given?) _ _ rfl]
      exact decorated held _ here

theorem run_all_own (name : Setter) (read : Kind → Value) (given? : Own → Option Value)
    (decorated : ∀ node decoration, read (Decorated.redecorate node decoration) = read node)
    (sets : ∀ node call changed, Settable.setOwn node call = .made changed →
      read changed = lastGiven name (ofOwn given?) (read node) [.own call])
    (calls : List (SetterCall Own)) (node : Kind) :
    read (runAll node calls) = lastGiven name (ofOwn given?) (read node) (made node calls) :=
  run_all_own_among name (fun _ => True) read given?
    (fun held decoration _ => ⟨trivial, decorated held decoration⟩)
    (fun held call changed _ set => ⟨trivial, sets held call changed set⟩) calls node trivial

/-- What neither decorating nor a setter of the kind's own touches. -/
theorem run_all_fixed (read : Kind → Value)
    (decorated : ∀ node decoration, read (Decorated.redecorate node decoration) = read node)
    (sets : ∀ node call changed, Settable.setOwn node call = .made changed →
      read changed = read node)
    (calls : List (SetterCall Own)) (node : Kind) : read (runAll node calls) = read node := by
  apply run_all_keeps (fun held => read held = read node) _ calls node rfl
  intro held call changed same set
  cases set with
  | own call _ stored _ => exact (sets held call changed stored).trans same
  | _ => exact (decorated held _).trans same

end SetterCall

/-! Each kind of node -/

theorem Term.set_own_settings (term : Term) (call : TermSetter) (changed : Term)
    (set : Settable.setOwn term call = .made changed) :
    changed.value = lastGiven .value (ofOwn TermSetter.value?) term.value [.own call] ∧
      changed.fuzziness.map Weight.value =
        lastGiven .fuzziness (ofOwn TermSetter.fuzziness?) (term.fuzziness.map Weight.value)
          [.own call] := by
  cases call with
  | setValue value =>
      cases set
      exact ⟨rfl, rfl⟩
  | setFuzziness fuzziness =>
      obtain ⟨_, _, _, stopped⟩ | ⟨_, fuzzy, given, stored⟩ :=
        Call.set_fuzziness_cases term fuzziness
      · cases stopped.symm.trans set
      · cases stored.symm.trans set
        exact ⟨rfl, given⟩

theorem Term.follows_run_all (calls : List (SetterCall TermSetter)) (term : Term) :
    term.Follows (runAll term calls) (made term calls) where
  value :=
    run_all_own .value Term.value TermSetter.value? (fun _ _ => rfl)
      (fun held call changed set => (held.set_own_settings call changed set).1) calls term
  fuzziness :=
    run_all_own .fuzziness (fun held => held.fuzziness.map Weight.value) TermSetter.fuzziness?
      (fun _ _ => rfl)
      (fun held call changed set => (held.set_own_settings call changed set).2) calls term
  decoration := decoration_follows calls term

theorem Range.format_run_all (calls : List (SetterCall RangeSetter)) (range : Range) :
    (runAll range calls).format = range.format := by
  apply run_all_fixed Range.format (fun _ _ => rfl)
  intro held call changed set
  cases call <;> cases set <;> rfl

/-- What a range stores of a bound hangs on its format, which no call changes. -/
theorem Range.run_all_formatted {Value : Type} (read : Range → Value)
    (given? : BoundFormat → RangeSetter → Option Value)
    (decorated : ∀ range decoration, read (Decorated.redecorate range decoration) = read range)
    (sets : ∀ range call changed, Settable.setOwn range call = .made changed →
      changed.format = range.format ∧
        read changed = lastGiven .range (ofOwn (given? range.format)) (read range) [.own call])
    (calls : List (SetterCall RangeSetter)) (range : Range) :
    read (runAll range calls) =
      lastGiven .range (ofOwn (given? range.format)) (read range) (made range calls) := by
  apply run_all_own_among .range (fun held => held.format = range.format) read _ _ _ calls range rfl
  · intro held decoration same
    exact ⟨same, decorated held decoration⟩
  · intro held call changed same set
    rw [← same]
    exact sets held call changed set

theorem Range.follows_run_all (calls : List (SetterCall RangeSetter)) (range : Range) :
    range.Follows (runAll range calls) (made range calls) where
  start := by
    apply run_all_formatted Range.start RangeSetter.start? (fun _ _ => rfl)
    intro held call changed set
    cases call <;> cases set <;> exact ⟨rfl, rfl⟩
  stop := by
    apply run_all_formatted Range.stop RangeSetter.stop? (fun _ _ => rfl)
    intro held call changed set
    cases call <;> cases set <;> exact ⟨rfl, rfl⟩
  inclusive := by
    apply run_all_own .inclusive Range.inclusive RangeSetter.inclusive? (fun _ _ => rfl)
    intro held call changed set
    cases call <;> cases set <;> rfl
  format := format_run_all calls range
  decoration := decoration_follows calls range

theorem TermGroup.follows_run_all (calls : List (SetterCall GroupSetter)) (group : TermGroup) :
    group.Follows (runAll group calls) (made group calls) where
  operator := by
    apply run_all_own .operator TermGroup.operator GroupSetter.operator? (fun _ _ => rfl)
    intro held ⟨operator⟩ changed set
    cases set
    rfl
  terms := by
    apply run_all_fixed TermGroup.terms (fun _ _ => rfl)
    intro held ⟨operator⟩ changed set
    cases set
    rfl
  decoration := decoration_follows calls group

theorem Query.follows_run_all (calls : List (SetterCall GroupSetter)) (query : Query) :
    query.Follows (runAll query calls) (made query calls) where
  operator := by
    apply run_all_own .operator Query.operator GroupSetter.operator? (fun _ _ => rfl)
    intro held ⟨operator⟩ changed set
    cases set
    rfl
  children := by
    apply run_all_fixed Query.children (fun _ _ => rfl)
    intro held ⟨operator⟩ changed set
    cases set
    rfl
  decoration := decoration_follows calls query

theorem Node.follows_run_all (calls : List (SetterCall Empty)) (node : Node) :
    node.Follows (runAll node calls) (made node calls) where
  undecorated := by
    apply run_all_keeps (fun held => held = node.redecorate held.decoration) _ calls node
    · cases node <;> rfl
    · intro held call changed same set
      cases set with
      | own call => exact nomatch call
      | _ =>
          rw [same]
          cases node <;> rfl
  decoration := decoration_follows calls node

/-! One node for each way to put the same calls together -/

theorem Weight.value_injective : Function.Injective Weight.value := by
  intro first second same
  cases first
  cases second
  cases same
  rfl

theorem Decoration.Follows.unique {Own : Type} [OwnSetters Own]
    {before first second : Decoration} {calls others : List (SetterCall Own)}
    (left : before.Follows first calls) (right : before.Follows second others)
    (same : SameCalls calls others) : first = second := by
  have field : first.field = second.field := by
    rw [left.field, right.field, last_given_of_same_calls same]
  have exclusion : first.exclusion = second.exclusion := by
    rw [left.exclusion, right.exclusion, last_given_of_same_calls same]
  have boost : first.boost = second.boost := by
    apply Weight.value_injective
    rw [left.boost, right.boost, last_given_of_same_calls same]
  cases first
  cases second
  simp_all only

theorem Term.Follows.unique {before first second : Term}
    {calls others : List (SetterCall TermSetter)} (left : before.Follows first calls)
    (right : before.Follows second others) (same : SameCalls calls others) : first = second := by
  have value : first.value = second.value := by
    rw [left.value, right.value, last_given_of_same_calls same]
  have fuzziness : first.fuzziness = second.fuzziness := by
    apply Option.map_injective Weight.value_injective
    rw [left.fuzziness, right.fuzziness, last_given_of_same_calls same]
  have decoration := left.decoration.unique right.decoration same
  cases first
  cases second
  simp_all only

theorem Range.Follows.unique {before first second : Range}
    {calls others : List (SetterCall RangeSetter)} (left : before.Follows first calls)
    (right : before.Follows second others) (same : SameCalls calls others) : first = second := by
  have start : first.start = second.start := by
    rw [left.start, right.start, last_given_of_same_calls same]
  have stop : first.stop = second.stop := by
    rw [left.stop, right.stop, last_given_of_same_calls same]
  have inclusive : first.inclusive = second.inclusive := by
    rw [left.inclusive, right.inclusive, last_given_of_same_calls same]
  have format := left.format.trans right.format.symm
  have decoration := left.decoration.unique right.decoration same
  cases first
  cases second
  simp_all only

theorem TermGroup.Follows.unique {before first second : TermGroup}
    {calls others : List (SetterCall GroupSetter)} (left : before.Follows first calls)
    (right : before.Follows second others) (same : SameCalls calls others) : first = second := by
  have operator : first.operator = second.operator := by
    rw [left.operator, right.operator, last_given_of_same_calls same]
  have terms := left.terms.trans right.terms.symm
  have decoration := left.decoration.unique right.decoration same
  cases first
  cases second
  simp_all only

theorem Query.Follows.unique {before first second : Query}
    {calls others : List (SetterCall GroupSetter)} (left : before.Follows first calls)
    (right : before.Follows second others) (same : SameCalls calls others) : first = second := by
  have operator : first.operator = second.operator := by
    rw [left.operator, right.operator, last_given_of_same_calls same]
  have children := left.children.trans right.children.symm
  have decoration := left.decoration.unique right.decoration same
  cases first
  cases second
  simp_all only

theorem Node.Follows.unique {before first second : Node} {calls others : List (SetterCall Empty)}
    (left : before.Follows first calls) (right : before.Follows second others)
    (same : SameCalls calls others) : first = second := by
  rw [left.undecorated, right.undecorated, left.decoration.unique right.decoration same]

/-- What holds of the setters of a kind of node, where `Follows` says how a node is left by the
calls that succeeded. -/
structure LastCallDecides (Kind : Type) {Own : Type} [Decorated Kind] [OwnSetters Own]
    [Settable Kind Own] (Follows : Kind → Kind → List (SetterCall Own) → Prop) : Prop where
  follows : ∀ calls node, Follows node (runAll node calls) (made node calls)
  interleaved : ∀ (node : Kind) calls others, SameCalls calls others →
    runAll node calls = runAll node others
  refused : ∀ (node : Kind) (call : SetterCall Own) problem,
    (run node call).outcome = .error problem ↔ call.refusal? = some problem
  unchanged : ∀ (node : Kind) (call : SetterCall Own) problem,
    (run node call).outcome = .error problem → (run node call).after = node

theorem last_call_decides {Kind Own : Type} [Decorated Kind] [OwnSetters Own]
    [Settable Kind Own] {Follows : Kind → Kind → List (SetterCall Own) → Prop}
    (follows : ∀ calls node, Follows node (runAll node calls) (made node calls))
    (unique : ∀ {before first second : Kind} {calls others : List (SetterCall Own)},
      Follows before first calls → Follows before second others → SameCalls calls others →
        first = second) :
    LastCallDecides Kind Follows where
  follows := follows
  interleaved node calls others same := by
    apply unique (follows calls node) (follows others node)
    rw [made_eq_filter, made_eq_filter]
    exact same.filter _
  refused := refused_iff
  unchanged := refused_unchanged

theorem Weight.sound (weight : Weight) : weight.value.isFinite = true ∧ ¬ weight.value < 0 := by
  have accepted := weight.accepted
  simpa [isWeight] using accepted

theorem Decoration.boost_text_number (decoration : Decoration) :
    decoration.boostText = [] ∨
      ∃ number, decoration.boostText = '^' :: number ∧ IsNumber number := by
  unfold boostText
  split
  · next shown => exact .inr ⟨_, rfl, decoration.boost.text_number_of_positive shown.2⟩
  · exact .inl rfl

theorem Term.fuzziness_text_weight (term : Term) :
    term.fuzzinessText = [] ∨
      ∃ number, term.fuzzinessText = '~' :: number ∧ WeightText number := by
  unfold fuzzinessText
  split
  · exact .inl rfl
  · next weight _ => exact .inr ⟨_, rfl, weight.text_weight⟩

/-- On every kind of node the last successful call of a setter decides, however the calls are put
together. Boost and fuzziness are finite and not below zero, and they are written as numbers. -/
theorem SetterCall.last_success_decides :
    LastCallDecides Term Term.Follows ∧ LastCallDecides Range Range.Follows ∧
      LastCallDecides TermGroup TermGroup.Follows ∧ LastCallDecides Query Query.Follows ∧
      LastCallDecides Node Node.Follows ∧
      (∀ decoration : Decoration,
        decoration.boost.value.isFinite = true ∧ ¬ decoration.boost.value < 0 ∧
          (decoration.boostText = [] ∨
            ∃ number, decoration.boostText = '^' :: number ∧ IsNumber number)) ∧
      ∀ term : Term,
        (∀ weight ∈ term.fuzziness, weight.value.isFinite = true ∧ ¬ weight.value < 0) ∧
          (term.fuzzinessText = [] ∨
            ∃ number, term.fuzzinessText = '~' :: number ∧ WeightText number) :=
  ⟨last_call_decides Term.follows_run_all Term.Follows.unique,
    last_call_decides Range.follows_run_all Range.Follows.unique,
    last_call_decides TermGroup.follows_run_all TermGroup.Follows.unique,
    last_call_decides Query.follows_run_all Query.Follows.unique,
    last_call_decides Node.follows_run_all Node.Follows.unique,
    fun decoration =>
      ⟨decoration.boost.sound.1, decoration.boost.sound.2, decoration.boost_text_number⟩,
    fun term => ⟨fun weight _ => weight.sound, term.fuzziness_text_weight⟩⟩

example :
    (runAll Term.unset
      [.setBoost 2, .own (.setValue [' ', 'a']), .own (.setFuzziness (some 1)), .setBoost (-1),
        .own (.setFuzziness (some (-2)))]).render = "a~1^2".toList := by
  rfl

end LuceneQuery
