import LuceneQuery.Proofs.Grammar
import LuceneQuery.Proofs.LastSetter
import LuceneQuery.Proofs.ShownRanges

/-!
# The sign of zero

A boost is written only where it is above zero, so it is written as a number. A fuzziness is written
wherever it is set. Negative zero is not below zero, so it passes for a fuzziness, and it alone is
written with a sign.

In a query that is built from a document this happens just where a term clause that shows asks for
it.
-/

namespace LuceneQuery

set_option autoImplicit false

section Bits

open Float.Model UnpackedFloat

theorem word_of_signed_zero (word : BitVec Format.binary64.numBits)
    (sign : unpackSign word = 1#1) (exponent : unpackExponent word = 0#11)
    (mantissa : unpackMantissa word = 0#52) : word.toNat = 0x8000000000000000 := by
  have bound : word.toNat < 2 ^ 64 := word.isLt
  have high : (word.extractLsb' 63 1).toNat = 1 := congrArg BitVec.toNat sign
  have middle : (word.extractLsb' 52 11).toNat = 0 := congrArg BitVec.toNat exponent
  have low : (word.extractLsb' 0 52).toNat = 0 := congrArg BitVec.toNat mantissa
  rw [BitVec.extractLsb'_toNat, Nat.shiftRight_eq_div_pow] at high middle low
  omega

/-- Of the five ways to unpack a word one gives a zero. -/
theorem fields_of_zero (word : BitVec Format.binary64.numBits) (sign : Sign)
    (unpacked : UnpackedFloat.unpack .binary64 word = .zero sign) :
    Sign.ofBitVec (unpackSign word) = sign ∧ unpackExponent word = 0#11 ∧
      unpackMantissa word = 0#52 := by
  unfold UnpackedFloat.unpack at unpacked
  by_cases special : unpackExponent word = -BitVec.ofNat _ 1
  · rw [if_pos special] at unpacked
    by_cases blank : unpackMantissa word = BitVec.ofNat _ 0
    · rw [if_pos blank] at unpacked
      cases unpacked
    · rw [if_neg blank] at unpacked
      cases unpacked
  · rw [if_neg special] at unpacked
    by_cases small : unpackExponent word = BitVec.ofNat _ 0
    · rw [if_pos small] at unpacked
      by_cases blank : unpackMantissa word = BitVec.ofNat _ 0
      · rw [dif_pos blank] at unpacked
        exact ⟨zero.inj unpacked, small, blank⟩
      · rw [dif_neg blank] at unpacked
        cases unpacked
    · rw [if_neg small] at unpacked
      cases unpacked

theorem eq_negative_zero (value : Float) (unpacked : value.toModel.unpack = .zero .negative) :
    value = -0 := by
  have signed : ∀ bit : BitVec 1, Sign.ofBitVec bit = .negative → bit = 1#1 := by
    intro bit negative
    have range := bit.isLt
    have set : bit ≠ 0#1 := by
      rintro rfl
      cases negative
    apply BitVec.eq_of_toNat_eq
    have other : bit.toNat ≠ 0 := fun zero => set (BitVec.eq_of_toNat_eq zero)
    change bit.toNat = 1
    omega
  obtain ⟨⟨word, valid⟩⟩ := value
  obtain ⟨negative, exponent, mantissa⟩ := fields_of_zero word.toBitVec .negative unpacked
  have fields : word.toBitVec.toNat = 0x8000000000000000 :=
    word_of_signed_zero _ (signed _ negative) exponent mantissa
  obtain rfl : word = 0x8000000000000000 := by
    apply UInt64.toBitVec_inj.mp
    exact BitVec.eq_of_toNat_eq fields
  rfl

end Bits

namespace Weight

/-- Of all weights negative zero alone is written with a sign. -/
theorem text_number_iff (weight : Weight) : IsNumber weight.text ↔ weight.value ≠ -0 := by
  constructor
  · intro number negative
    rw [text, negative] at number
    exact signed_not_number ['0'] number
  · intro other
    apply Decimal.unpacked_text_number _ weight.not_below weight.finite
    exact fun unpacked => other (eq_negative_zero _ unpacked)

end Weight

theorem is_suffix_cons_iff (mark : Char) (text : Text) :
    IsSuffix mark (mark :: text) ↔ IsNumber text := by
  constructor
  · rintro ⟨⟩
    assumption
  · exact .number text

theorem Decoration.boost_text_suffix (decoration : Decoration) :
    IsSuffix '^' decoration.boostText := by
  obtain none | ⟨number, written, spelled⟩ := decoration.boost_text_number
  · rw [none]
    exact .absent
  · rw [written]
    exact .number number spelled

namespace Term

/-- The term shows, and its fuzziness is negative zero. -/
def ShowsSignedZero (term : Term) : Prop :=
  term.render ≠ [] ∧ term.fuzziness.map Weight.value = some (-0)

theorem fuzziness_text_suffix_iff (term : Term) :
    IsSuffix '~' term.fuzzinessText ↔ term.fuzziness.map Weight.value ≠ some (-0) := by
  unfold fuzzinessText
  cases term.fuzziness with
  | none => exact ⟨fun _ => nofun, fun _ => .absent⟩
  | some weight => simp [is_suffix_cons_iff, weight.text_number_iff]

theorem shows_signed_zero_iff (term : Term) :
    term.ShowsSignedZero ↔
      (∃ value ∈ term.value, Text.trim value ≠ []) ∧
        term.fuzziness.map Weight.value = some (-0) := by
  simp [ShowsSignedZero, render_eq_nil_iff, IsBlank]

/-- A term that is set up by calls: what they gave last of a value and of a fuzziness counts. -/
theorem signed_zero_of_calls (calls : List (SetterCall TermSetter)) :
    (SetterCall.runAll unset calls).ShowsSignedZero ↔
      (∃ value ∈ SetterCall.lastGiven .value (SetterCall.ofOwn TermSetter.value?) none
          (SetterCall.made unset calls), Text.trim value ≠ []) ∧
        SetterCall.lastGiven .fuzziness (SetterCall.ofOwn TermSetter.fuzziness?) none
          (SetterCall.made unset calls) = some (-0) := by
  have follows := follows_run_all calls unset
  rw [shows_signed_zero_iff, follows.value, follows.fuzziness]
  rfl

end Term

namespace Node

/-- What is written behind a mark, in the tree and where it shows, is a number. -/
structure NumbersUnsigned (node : Node) : Prop where
  boosts : ∀ inner ∈ node.nodes, inner.render ≠ [] → IsSuffix '^' inner.decoration.boostText
  fuzziness : ∀ held, .term held ∈ node.nodes → held.render ≠ [] → IsSuffix '~' held.fuzzinessText

def HasSignedZero (node : Node) : Prop := ∃ held, .term held ∈ node.nodes ∧ held.ShowsSignedZero

theorem unsigned_iff (node : Node) : node.NumbersUnsigned ↔ ¬ node.HasSignedZero := by
  constructor
  · rintro unsigned ⟨held, member, shows, negative⟩
    exact (held.fuzziness_text_suffix_iff).mp (unsigned.fuzziness held member shows) negative
  · intro none
    refine ⟨fun inner _ _ => inner.decoration.boost_text_suffix, fun held member shows => ?_⟩
    apply (held.fuzziness_text_suffix_iff).mpr
    exact fun negative => none ⟨held, member, shows, negative⟩

theorem signed_zero_term_iff (held : Term) :
    (Node.term held).HasSignedZero ↔ held.ShowsSignedZero := by
  simp [HasSignedZero, nodes]

theorem signed_zero_group_iff (operator : Operator) (children : List Node)
    (decoration : Decoration) :
    (Node.group operator children decoration).HasSignedZero ↔
      ∃ child ∈ children, child.HasSignedZero := by
  simp only [HasSignedZero, nodes, nodes_of_all_eq, List.mem_cons, List.mem_flatMap, reduceCtorEq,
    false_or]
  constructor
  · rintro ⟨held, ⟨child, among, below⟩, negative⟩
    exact ⟨child, among, held, below, negative⟩
  · rintro ⟨child, among, held, below, negative⟩
    exact ⟨held, ⟨child, among, below⟩, negative⟩

theorem signed_zero_redecorate_iff (node : Node) (decoration : Decoration) :
    (node.redecorate decoration).HasSignedZero ↔ node.HasSignedZero := by
  cases node with
  | term held =>
      rw [redecorate, signed_zero_term_iff, signed_zero_term_iff, Term.shows_signed_zero_iff,
        Term.shows_signed_zero_iff]
  | range held => simp [HasSignedZero, redecorate, nodes]
  | terms held => simp [HasSignedZero, redecorate, nodes]
  | group operator children own => rw [redecorate, signed_zero_group_iff, signed_zero_group_iff]

end Node

theorem Scalar.term_blank_iff (scalar : Scalar) : scalar.term.IsBlank ↔ scalar.IsBlank := by
  have trimmed : scalar.term.IsBlank ↔ ∀ c ∈ scalar.bound.plainText, Text.isBlank c = true := by
    rw [← Text.trim_eq_nil_iff]
    simp [Term.IsBlank, Scalar.term, Term.ofText, Term.setValue, Text.trim_trim]
  have plain : ∀ text, PlainBound text → ¬ ∀ c ∈ text, Text.isBlank c = true := by
    rintro text ⟨filled, known⟩ blank
    obtain ⟨c, rest, rfl⟩ := List.exists_cons_of_ne_nil filled
    have solid := bound_char_not_blank c (known c (by simp))
    simp [blank c (by simp)] at solid
  rw [trimmed]
  cases scalar with
  | integer value => simp [bound, Bound.plainText, IsBlank, plain _ (integer_text_plain value)]
  | float value => simp [bound, Bound.plainText, IsBlank, plain _ (float_text_plain value)]
  | text given => simp [bound, Bound.plainText, IsBlank]

namespace ClauseOptions

/-- A term clause with a value that shows, and negative zero for its fuzziness. -/
def AsksSignedZero (options : ClauseOptions) : Prop :=
  options.kind = .term ∧ options.fuzziness = some (-0) ∧
    ∃ scalar ∈ options.value, ¬ scalar.IsBlank

theorem term_signed_zero_iff (options : ClauseOptions) (kind : options.kind = .term) (node : Node)
    (made : options.term = .ok node) : node.HasSignedZero ↔ options.AsksSignedZero := by
  unfold term required at made
  simp only [bind_eq_ok, Checked.of_query_eq_ok] at made
  obtain ⟨scalar, given, term, fuzzed, same⟩ := made
  cases same
  have value : options.value = some scalar := by
    split at given
    · next held => rw [held, Except.ok.inj given]
    · cases given
  obtain ⟨_, _, _, stopped⟩ | ⟨_, fuzzy, asked, set⟩ :=
    Call.set_fuzziness_cases scalar.term options.fuzziness
  · rw [stopped] at fuzzed
    cases fuzzed
  · rw [set, Change.result_made] at fuzzed
    cases fuzzed
    rw [Node.signed_zero_term_iff, Term.ShowsSignedZero, Ne, Term.render_eq_nil_iff, asked]
    change ¬ scalar.term.IsBlank ∧ _ ↔ _
    simp [AsksSignedZero, kind, value, scalar.term_blank_iff, and_comm]

end ClauseOptions

namespace Clause

variable (settings : Settings) (clock : Clock)

/-- The terms of a clause that lists terms have no fuzziness. -/
theorem terms_signed_zero (options : ClauseOptions) (node : Node)
    (made : options.terms settings = .ok node) : ¬ node.HasSignedZero := by
  unfold ClauseOptions.terms at made
  simp only [bind_eq_ok] at made
  obtain ⟨values, _, operator, _, same⟩ := made
  cases same
  rintro ⟨held, member, _, negative⟩
  have listed : ∃ scalar ∈ values, scalar.term = held := by
    simpa [Node.nodes, TermGroup.ofOperator, TermGroup.addAll] using member
  obtain ⟨scalar, _, rfl⟩ := listed
  cases negative

theorem range_signed_zero (options : ClauseOptions) (format : BoundFormat)
    (now later : Timestamp) (node : Node) (made : options.range format now later = .ok node) :
    ¬ node.HasSignedZero := by
  obtain ⟨held, rfl, _⟩ := options.range_eq_ok format now later node made
  simp [Node.HasSignedZero, Node.nodes]

theorem exists_signed_zero_iff {clauses : List Clause} {children : List Node}
    (paired : List.Forall₂
      (fun clause node => node.HasSignedZero ↔ ∃ options ∈ clause.allOptions,
        options.AsksSignedZero) clauses children) :
    (∃ child ∈ children, child.HasSignedZero) ↔
      ∃ options ∈ clauses.flatMap allOptions, options.AsksSignedZero := by
  constructor
  · rintro ⟨child, member, negative⟩
    obtain ⟨clause, among, same⟩ := partner_of_mem paired.flip child member
    obtain ⟨options, inside, asked⟩ := same.mp negative
    exact ⟨options, List.mem_flatMap.mpr ⟨clause, among, inside⟩, asked⟩
  · rintro ⟨options, member, asked⟩
    obtain ⟨clause, among, inside⟩ := List.mem_flatMap.mp member
    obtain ⟨child, held, same⟩ := partner_of_mem paired clause among
    exact ⟨child, held, same.mpr ⟨options, inside, asked⟩⟩

theorem build_signed_zero_iff (clause : Clause) : ∀ position node,
    clause.build settings clock position = .ok node →
      (node.HasSignedZero ↔ ∃ options ∈ clause.allOptions, options.AsksSignedZero) := by
  induction clause with
  | clause options clauses induction =>
      intro position node built
      obtain ⟨accepted, bare, made, decoration, rfl⟩ :=
        build_eq_ok settings clock position _ node built
      rw [Node.signed_zero_redecorate_iff]
      have leaf := clauses_eq_none options clauses accepted
      unfold Clause.bare at made
      cases kind : options.kind with
      | term =>
          obtain rfl := leaf (by simp [kind])
          simp only [kind, Checked.at_eq_ok] at made
          simp [options.term_signed_zero_iff kind bare made, allOptions]
      | terms =>
          obtain rfl := leaf (by simp [kind])
          simp only [kind, Checked.at_eq_ok] at made
          simp [terms_signed_zero settings options bare made, allOptions,
            ClauseOptions.AsksSignedZero, kind]
      | range =>
          obtain rfl := leaf (by simp [kind])
          simp only [kind, Checked.at_eq_ok] at made
          simp [range_signed_zero options .plain _ _ bare made, allOptions,
            ClauseOptions.AsksSignedZero, kind]
      | dateRange =>
          obtain rfl := leaf (by simp [kind])
          simp only [kind, Checked.at_eq_ok] at made
          simp [range_signed_zero options .date _ _ bare made, allOptions,
            ClauseOptions.AsksSignedZero, kind]
      | group =>
          simp only [kind, bind_eq_ok, Checked.at_eq_ok] at made
          obtain ⟨operator, _, children, listed, same⟩ := made
          cases same
          have built := build_all_eq_ok settings clock position _ 1 children listed
          have paired := ((List.forall₂_and_left _ _).mpr ⟨induction, built⟩).imp
            fun child node both => by
              obtain ⟨same, place, built⟩ := both
              exact same place node built
          have own : ¬ options.AsksSignedZero := by simp [ClauseOptions.AsksSignedZero, kind]
          rw [Node.signed_zero_group_iff, exists_signed_zero_iff paired, all_options_eq,
            List.exists_mem_cons_iff]
          simp [own]

end Clause

namespace Document

def AsksSignedZero (document : Document) : Prop :=
  ∃ options ∈ document.clauses.flatMap Clause.allOptions, options.AsksSignedZero

theorem build_signed_zero_iff (document : Document) (settings : Settings) (clock : Clock)
    (query : Query) (built : document.build settings clock = .ok query) :
    query.toNode.HasSignedZero ↔ document.AsksSignedZero := by
  have listed := document.build_eq_ok settings clock query built
  have paired := (Clause.build_all_eq_ok settings clock [] document.clauses 1 _ listed).imp
    fun clause node ⟨place, made⟩ => clause.build_signed_zero_iff settings clock place node made
  rw [Query.toNode, Node.signed_zero_group_iff, Clause.exists_signed_zero_iff paired,
    AsksSignedZero]

end Document

namespace Node

/-- Every number that a tree shows is written without a sign unless a term in it shows under a
fuzziness that is negative zero. Calls of its setters leave a term so just when this is the
fuzziness they gave last, and a query comes to such a term just when its document asks for it. -/
theorem numbers_unsigned_iff (node : Node) (document : Document) (settings : Settings)
    (clock : Clock) :
    (∀ weight : Weight, IsNumber weight.text ↔ weight.value ≠ -0) ∧
    (node.NumbersUnsigned ↔ ¬ node.HasSignedZero) ∧
    (∀ calls, (SetterCall.runAll Term.unset calls).ShowsSignedZero ↔
      (∃ value ∈ SetterCall.lastGiven .value (SetterCall.ofOwn TermSetter.value?) none
          (SetterCall.made Term.unset calls), Text.trim value ≠ []) ∧
        SetterCall.lastGiven .fuzziness (SetterCall.ofOwn TermSetter.fuzziness?) none
          (SetterCall.made Term.unset calls) = some (-0)) ∧
    (∀ query, document.build settings clock = .ok query →
      (query.toNode.NumbersUnsigned ↔ ¬ document.AsksSignedZero)) := by
  refine ⟨Weight.text_number_iff, node.unsigned_iff, Term.signed_zero_of_calls, ?_⟩
  intro query built
  rw [unsigned_iff, document.build_signed_zero_iff settings clock query built]

/-- A fuzzy term in a boosted group, and a blank one whose fuzziness does not show. -/
def fuzzyTerms : Document :=
  ⟨none,
    [⟨{ kind := .group, boost := some 2.5 },
      some
        [⟨{ kind := .term, value := some (.text ['a']), fuzziness := some 0 }, none⟩,
          ⟨{ kind := .term, value := some (.text [' ']), fuzziness := some (-0) }, none⟩]⟩]⟩

theorem fuzzy_terms_unsigned :
    ∃ query, fuzzyTerms.build {} (.still ⟨0, 0, 0⟩) = .ok query ∧ query.render = "a~0^2.5".toList ∧
      query.toNode.NumbersUnsigned := by
  obtain ⟨_, _, _, built⟩ := numbers_unsigned_iff (.term .unset) fuzzyTerms {} (.still ⟨0, 0, 0⟩)
  refine ⟨_, rfl, by decide +kernel, (built _ rfl).mpr ?_⟩
  rintro ⟨options, member, kind, negative, scalar, value, solid⟩
  simp only [fuzzyTerms, List.flatMap_cons, List.flatMap_nil, Clause.allOptions,
    Clause.optionsOfAll, List.append_nil, List.mem_append, List.mem_cons, List.not_mem_nil,
    or_false] at member
  rcases member with rfl | rfl | rfl
  · cases kind
  · have other : some (0 : Float) ≠ some (-0) := by decide
    exact other negative
  · cases value
    exact solid ⟨[' '], rfl, by simp [Text.isBlank]⟩

/-- Negative zero passes for a fuzziness and keeps its sign. -/
theorem signed_zero_written :
    ∃ term, (Term.ofText ['a']).setFuzziness (some (-0)) = .made term ∧
      term.render = "a~-0".toList ∧ ¬ (Node.term term).NumbersUnsigned := by
  refine ⟨_, rfl, by decide +kernel, ?_⟩
  rintro ⟨_, fuzziness⟩
  have shows := fuzziness _ (self_mem_nodes _) (by decide +kernel)
  exact signed_not_number ['0'] ((is_suffix_cons_iff _ _).mp shows)

end Node

end LuceneQuery
