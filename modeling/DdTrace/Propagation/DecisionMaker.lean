import DdTrace.Propagation.TidGrammar

/-!
# DecisionMaker — the two validators of the decision maker

The extractor of one style checks the decision maker as an `i8`, the mechanism that both styles make
of it is read as an `i16`.  `validatorsAgree_iff` says for which texts the two agree: for all but the
numbers of the mechanisms above 128, which are written, and the minimum of the `i16`.
-/

namespace DdTrace
namespace Propagation

open DdTrace.Lib DdTrace.Core

namespace Datadog

/-! ## The texts that are accepted -/

/-- The number of a text as the wider of the two parsers reads it. -/
def decisionNumber (samplingDecision : Str) : Option Int :=
  Numeral.parseSigned (-32768) 32767 samplingDecision

/-- The extractor accepts the numbers from -128 to 0. -/
theorem decisionAccepted_iff (samplingDecision : Str) :
    decisionAccepted samplingDecision = true ↔
      ∃ i ∈ decisionNumber samplingDecision, -128 ≤ i ∧ i ≤ 0 := by
  unfold decisionAccepted
  constructor
  · intro h
    split at h
    · rename_i i hparse
      rcases Numeral.parseSigned_eq_some hparse with ⟨hlo, hhi⟩
      have hwide : decisionNumber samplingDecision = some i :=
        Numeral.parseSigned_mono hparse (by omega) (by omega)
      exact ⟨i, hwide, hlo, by simpa using h⟩
    · cases h
  · rintro ⟨i, hparse, hlo, hhi⟩
    have hnarrow : Numeral.parseSigned (-128) 127 samplingDecision = some i :=
      Numeral.parseSigned_mono hparse hlo (by omega)
    rw [hnarrow]
    simpa using hhi

/-- The mechanism is read from the numbers from -255 to 0, and from the minimum. -/
theorem isSome_fromStr_iff (samplingDecision : Str) :
    (SamplingMechanism.fromStr samplingDecision).isSome ↔
      ∃ i ∈ decisionNumber samplingDecision, i = -32768 ∨ (-255 ≤ i ∧ i ≤ 0) := by
  cases hparse : decisionNumber samplingDecision with
  | none =>
      have hnone : SamplingMechanism.fromStr samplingDecision = none := by
        unfold decisionNumber at hparse
        simp only [SamplingMechanism.fromStr, hparse]
      simp [hnone]
  | some i =>
      rw [SamplingMechanism.fromStr_eq hparse]
      by_cases hmin : i = -32768
      · simp [hmin]
      · by_cases hnumber : -255 ≤ i ∧ i ≤ 0
        · simp [hmin, hnumber]
        · simp [hmin, hnumber]

theorem decisionNumber_toCow (mechanism : SamplingMechanism) :
    decisionNumber mechanism.toCow = some (-(mechanism.value.toNat : Int)) := by
  have hlt : mechanism.value.toNat < 256 := mechanism.value.toNat_lt
  rw [SamplingMechanism.toCow_eq_display]
  by_cases hzero : mechanism.value.toNat = 0
  · rw [SamplingMechanism.display, hzero]
    rfl
  · have htext : mechanism.display = Numeral.intDecimal (-(mechanism.value.toNat : Int)) := by
      have hneg : -(mechanism.value.toNat : Int) < 0 := by omega
      rw [Numeral.intDecimal, if_pos hneg, Int.natAbs_neg, Int.natAbs_natCast]
      rfl
    rw [htext]
    exact Numeral.parseSigned_intDecimal (by omega) (by omega)

/-- Every mechanism that is written is read back. -/
theorem fromStr_toCow (mechanism : SamplingMechanism) :
    SamplingMechanism.fromStr mechanism.toCow = some mechanism := by
  have hlt : mechanism.value.toNat < 256 := mechanism.value.toNat_lt
  have hvalue : UInt8.ofNat (-(mechanism.value.toNat : Int)).natAbs = mechanism.value := by
    rw [Int.natAbs_neg, Int.natAbs_natCast, UInt8.ofNat_toNat]
  rw [SamplingMechanism.fromStr_eq (decisionNumber_toCow mechanism), if_neg (by omega),
    if_pos (by omega), hvalue]
  rfl

/-! ## The tags -/

/-- What the check leaves of the decision maker. -/
theorem lookup_decisionMaker (tags : Tags) :
    (validateSamplingDecision tags).lookup SAMPLING_DECISION_MAKER_TAG_KEY =
      (tags.lookup SAMPLING_DECISION_MAKER_TAG_KEY).filter decisionAccepted := by
  have hne : SAMPLING_DECISION_MAKER_TAG_KEY ≠ DATADOG_PROPAGATION_ERROR_KEY := by decide
  rw [validateSamplingDecision_eq]
  cases hvalue : tags.lookup SAMPLING_DECISION_MAKER_TAG_KEY with
  | none => simpa using hvalue
  | some value =>
      cases haccepted : decisionAccepted value with
      | true =>
          rw [Option.all_some, haccepted, if_pos rfl, hvalue, Option.filter_some_pos haccepted]
      | false =>
          rw [Option.all_some, haccepted, if_neg (by simp), HashMap.lookup_insert_eq, if_neg hne,
            HashMap.lookup_erase_eq, if_pos rfl, Option.filter_some_neg (by simp [haccepted])]

theorem kept_iff {tags : Tags} {s : Str}
    (h : tags.lookup SAMPLING_DECISION_MAKER_TAG_KEY = some s) :
    (validateSamplingDecision tags).lookup SAMPLING_DECISION_MAKER_TAG_KEY = some s ↔
      decisionAccepted s = true := by
  rw [lookup_decisionMaker, h]
  simp [Option.filter_eq_some_iff]

/-- The check of the trace id leaves the decision maker alone. -/
theorem lookup_decisionMaker_validateTraceIdTag (tags : Tags) :
    (validateTraceIdTag tags).lookup SAMPLING_DECISION_MAKER_TAG_KEY =
      tags.lookup SAMPLING_DECISION_MAKER_TAG_KEY := by
  have herror : SAMPLING_DECISION_MAKER_TAG_KEY ≠ DATADOG_PROPAGATION_ERROR_KEY := by decide
  have htid : SAMPLING_DECISION_MAKER_TAG_KEY ≠ DATADOG_HIGHER_ORDER_TRACE_ID_BITS_KEY := by decide
  unfold validateTraceIdTag
  split
  · split
    · rfl
    · rw [HashMap.lookup_erase_eq, if_neg htid, HashMap.lookup_insert_eq, if_neg herror]
  · rfl

/-! ## The mechanism of a context -/

/-- The decision maker of the tags header. -/
def headerDecisionMaker (carrier : Carrier) : Option Str :=
  (HashMap.ofPairs (readPairs (tagsHeader carrier))).lookup SAMPLING_DECISION_MAKER_TAG_KEY

theorem mechanism_of_extract {carrier : Carrier} {config : Config} {context : SpanContext}
    {p : SamplingPriority} (hextract : extract carrier config = some context)
    (hp : context.sampling.priority = some p)
    (hlen : Text.utf8Len (tagsHeader carrier) ≤ config.datadogTagsMaxLength) :
    context.sampling.mechanism =
      ((headerDecisionMaker carrier).filter decisionAccepted).bind SamplingMechanism.fromStr := by
  rcases of_extract hextract hp with ⟨htags, -, hmechanism⟩
  rw [hmechanism, htags, extractTags_of_le hlen, lookup_decisionMaker,
    lookup_decisionMaker_validateTraceIdTag]
  rfl

end Datadog

/-- Beside a decision maker the mechanism is the one that is read from it. -/
theorem TraceContext.mechanism_of_extract {ord : IterOrder Str Str} {carrier : Carrier}
    {context : SpanContext} {s : Str} (hextract : TraceContext.extract ord carrier = some context)
    (hs : context.tags.lookup SAMPLING_DECISION_MAKER_TAG_KEY = some s) :
    context.sampling.mechanism = SamplingMechanism.fromStr s := by
  simp only [TraceContext.extract, Option.bind_eq_bind, Option.bind_eq_some_iff] at hextract
  rcases hextract with ⟨tp, -, traceparent, -, hcontext⟩
  split at hcontext
  · rw [Option.some.injEq] at hcontext
    subst hcontext
    simp only at hs ⊢
    rw [hs]
    rfl
  · -- without a tracestate the header itself is the only tag
    rw [Option.some.injEq] at hcontext
    subst hcontext
    have hne : SAMPLING_DECISION_MAKER_TAG_KEY ≠ TRACEPARENT_KEY := by decide
    rw [HashMap.lookup_insert_eq, if_neg hne] at hs
    cases hs

namespace Datadog

/-- The two validators agree on a text: the tag with this value is kept exactly when it is the text of
a mechanism, it is kept if a mechanism is written so, and in contexts of both styles that were
extracted from it the mechanism is the same. -/
structure ValidatorsAgree (s : Str) : Prop where
  kept : ∀ tags : Tags, tags.lookup SAMPLING_DECISION_MAKER_TAG_KEY = some s →
    ((validateSamplingDecision tags).lookup SAMPLING_DECISION_MAKER_TAG_KEY = some s ↔
      (SamplingMechanism.fromStr s).isSome)
  survives : ∀ mechanism : SamplingMechanism, mechanism.toCow = s →
    ∀ tags : Tags, tags.lookup SAMPLING_DECISION_MAKER_TAG_KEY = some s →
      (validateSamplingDecision tags).lookup SAMPLING_DECISION_MAKER_TAG_KEY = some s ∧
        SamplingMechanism.fromStr s = some mechanism
  sameMechanism : ∀ {ord : IterOrder Str Str} {carrier w3cCarrier : Carrier} {config : Config}
      {context w3cContext : SpanContext},
    extract carrier config = some context → context.sampling.priority.isSome →
    Text.utf8Len (tagsHeader carrier) ≤ config.datadogTagsMaxLength →
    headerDecisionMaker carrier = some s →
    TraceContext.extract ord w3cCarrier = some w3cContext →
    w3cContext.tags.lookup SAMPLING_DECISION_MAKER_TAG_KEY = some s →
    context.sampling.mechanism = w3cContext.sampling.mechanism

/-- A number of a mechanism that the extractor drops, or one that is taken for a mechanism. -/
def IsMisread (i : Int) : Prop := (-255 ≤ i ∧ i ≤ -129) ∨ i = -32768

/-- Outside the misread numbers the two ranges are one. -/
theorem accepted_iff_isSome {s : Str} (h : ∀ i ∈ decisionNumber s, ¬ IsMisread i) :
    decisionAccepted s = true ↔ (SamplingMechanism.fromStr s).isSome := by
  rw [decisionAccepted_iff, isSome_fromStr_iff]
  constructor
  · rintro ⟨i, hi, hlo, hhi⟩
    exact ⟨i, hi, .inr ⟨by omega, hhi⟩⟩
  · rintro ⟨i, hi, hmin | ⟨hlo, hhi⟩⟩
    · exact absurd (.inr hmin) (h i hi)
    · refine ⟨i, hi, ?_, hhi⟩
      by_contra hlt
      exact h i hi (.inl ⟨hlo, by omega⟩)

/-- A misread number is that of a mechanism, and the extractor does not accept it. -/
theorem not_validatorsAgree_of_isMisread {s : Str} {i : Int} (hi : i ∈ decisionNumber s)
    (hmisread : IsMisread i) : ¬ ValidatorsAgree s := by
  intro hagree
  have htags : (AList.insert SAMPLING_DECISION_MAKER_TAG_KEY s (∅ : Tags)).lookup
      SAMPLING_DECISION_MAKER_TAG_KEY = some s := by
    rw [HashMap.lookup_insert_eq, if_pos rfl]
  have hmechanism : (SamplingMechanism.fromStr s).isSome := by
    refine (isSome_fromStr_iff s).2 ⟨i, hi, ?_⟩
    rcases hmisread with ⟨hlo, hhi⟩ | hmin
    · exact .inr ⟨hlo, by omega⟩
    · exact .inl hmin
  have haccepted := (kept_iff htags).1 ((hagree.kept _ htags).2 hmechanism)
  rcases (decisionAccepted_iff s).1 haccepted with ⟨j, hj, hlo, -⟩
  have hij : i = j := Option.mem_unique hi hj
  rcases hmisread with ⟨-, hhi⟩ | hmin <;> omega

/-- The validators agree on a text unless it is the number of a mechanism above 128, or the minimum of
the `i16`. -/
theorem validatorsAgree_iff (s : Str) :
    ValidatorsAgree s ↔ ∀ i ∈ decisionNumber s, ¬ IsMisread i := by
  constructor
  · intro hagree i hi hmisread
    exact not_validatorsAgree_of_isMisread hi hmisread hagree
  · intro h
    have hsame := accepted_iff_isSome h
    refine ⟨?_, ?_, ?_⟩
    · intro tags htags
      rw [kept_iff htags, hsame]
    · rintro mechanism rfl tags htags
      have hread := fromStr_toCow mechanism
      have haccepted : decisionAccepted mechanism.toCow = true :=
        hsame.2 (Option.isSome_of_eq_some hread)
      exact ⟨(kept_iff htags).2 haccepted, hread⟩
    · intro ord carrier w3cCarrier config context w3cContext hextract hpriority hlen hs hw3c hws
      rcases Option.isSome_iff_exists.1 hpriority with ⟨p, hp⟩
      rw [mechanism_of_extract hextract hp hlen, hs, TraceContext.mechanism_of_extract hw3c hws]
      cases haccepted : decisionAccepted s with
      | true =>
          rw [Option.filter_some_pos haccepted]
          rfl
      | false =>
          -- what is dropped is no mechanism either
          have hrefused : ¬ decisionAccepted s = true := by
            rw [haccepted]
            exact Bool.false_ne_true
          rw [Option.filter_some_neg (by simp [haccepted])]
          exact (Option.not_isSome_iff_eq_none.1 (mt hsame.2 hrefused)).symm

/-- The text of mechanism 129 is dropped by the extractor, and read by the other style. -/
theorem not_validatorsAgree_129 :
    (SamplingMechanism.fromU8 129).toCow = "-129".toList ∧ ¬ ValidatorsAgree "-129".toList := by
  have htext : (SamplingMechanism.fromU8 129).toCow = "-129".toList := by
    rw [SamplingMechanism.toCow_eq_display]
    rfl
  have hnumber : decisionNumber "-129".toList = some (-129) := by
    rw [← htext, decisionNumber_toCow]
    rfl
  exact ⟨htext, not_validatorsAgree_of_isMisread hnumber (.inl ⟨by decide, by decide⟩)⟩

end Datadog
end Propagation
end DdTrace
