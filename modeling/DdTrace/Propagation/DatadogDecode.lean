import DdTrace.Propagation.RoundTrip

/-!
# DatadogDecode — the Datadog extractor undoes the injector

Whatever the injector writes without recording an error is read back: the ids, the origin, the
priority, and the propagation tags as the injector left them, in whatever order they were met.  The
extractor checks two of the tags; the one for the trace id is in order because the injector wrote it,
the decision maker has to be one that the check lets through.
-/

namespace DdTrace
namespace Propagation
namespace Datadog

open DdTrace.Lib DdTrace.Core

/-- The extractor keeps a decision maker that is an `i8` and not positive. -/
def decisionAccepted (samplingDecision : Str) : Bool :=
  match Numeral.parseSigned (-128) 127 samplingDecision with
  | some m => m ≤ 0
  | none => false

/-- The check of the extractor, in terms of the values that it keeps. -/
theorem validateSamplingDecision_eq (tags : Tags) :
    validateSamplingDecision tags =
      if (tags.lookup SAMPLING_DECISION_MAKER_TAG_KEY).all decisionAccepted then tags
      else AList.insert DATADOG_PROPAGATION_ERROR_KEY "decoding_error".toList
        (AList.erase SAMPLING_DECISION_MAKER_TAG_KEY tags) := by
  unfold validateSamplingDecision
  generalize AList.insert DATADOG_PROPAGATION_ERROR_KEY _ _ = removed
  cases tags.lookup SAMPLING_DECISION_MAKER_TAG_KEY with
  | none => rfl
  | some value =>
      simp only [Option.any_some, Option.all_some, decisionAccepted]
      obtain ⟨parsed, hparse⟩ : ∃ parsed, Numeral.parseSigned (-128) 127 value = parsed :=
        ⟨_, rfl⟩
      cases parsed with
      | none => simp only [hparse, if_true, Bool.false_eq_true, if_false]
      | some m =>
          by_cases hle : m ≤ 0
          · simp only [hparse, hle, gt_iff_lt, Int.not_lt.2 hle, decide_false, decide_true, if_true,
              Bool.false_eq_true, if_false]
          · simp only [hparse, hle, gt_iff_lt, Int.not_le.1 hle, decide_true, decide_false, if_true,
              Bool.false_eq_true, if_false]

theorem validateSamplingDecision_of_accepted {tags : Tags}
    (h : ∀ value, tags.lookup SAMPLING_DECISION_MAKER_TAG_KEY = some value →
      decisionAccepted value = true) :
    validateSamplingDecision tags = tags := by
  have hall : (tags.lookup SAMPLING_DECISION_MAKER_TAG_KEY).all decisionAccepted = true := by
    cases hvalue : tags.lookup SAMPLING_DECISION_MAKER_TAG_KEY with
    | none => rfl
    | some value => exact h value hvalue
  rw [validateSamplingDecision_eq, hall, if_pos rfl]

variable (ord : IterOrder Str Str)

theorem get_inject_origin (context : InjectSpanContext) (carrier : Carrier) (config : Config) :
    (inject ord context carrier config).2.get DATADOG_ORIGIN_KEY =
      context.origin.or (carrier.get DATADOG_ORIGIN_KEY) := by
  have hne : ∀ header ∈ [DATADOG_TRACE_ID_KEY, DATADOG_PARENT_ID_KEY, DATADOG_SAMPLING_PRIORITY_KEY,
      DATADOG_TAGS_KEY],
      Carrier.toLowercase DATADOG_ORIGIN_KEY ≠ Carrier.toLowercase header := by decide
  simp only [List.mem_cons, List.not_mem_nil, or_false, forall_eq_or_imp, forall_eq] at hne
  rcases hne with ⟨htraceId, hparentId, hpriority, htags⟩
  rw [inject_eq, get_injectTags_of_ne ord htags]
  simp only [plainHeaders, Carrier.get_setSome_ne hpriority]
  cases context.origin with
  | none =>
      simp only [Carrier.setSome, Carrier.get_set_ne hparentId, Carrier.get_set_ne htraceId,
        Option.none_or]
  | some origin => simp only [Carrier.setSome, Carrier.get_set_self, Option.some_or]

/-- Without an error, the context keeps the tags that were written. -/
theorem tags_inject {context : InjectSpanContext} {config : Config}
    (h : RecordsNoError ord context config) (carrier : Carrier) :
    (inject ord context carrier config).1.tags = headerTags context := by
  rcases h with ⟨hmax, header, hheader⟩
  have hwritten : ∀ carrier : Carrier,
      (injectTags ord (headerTags context) carrier config.datadogTagsMaxLength).2 =
        headerTags context := by
    intro carrier
    simp only [injectTags, hmax, if_false, hheader]
  exact hwritten _

/-- The decision maker that is written is accepted if the mechanism, or the one that is there, is. -/
theorem accepted_headerTags {context : InjectSpanContext}
    (hmechanism : ∀ mechanism, context.sampling.mechanism = some mechanism →
      decisionAccepted mechanism.toCow = true)
    (hexisting : context.sampling.mechanism = none →
      ∀ value, context.tags.lookup SAMPLING_DECISION_MAKER_TAG_KEY = some value →
        decisionAccepted value = true)
    {value : Str}
    (h : (headerTags context).lookup SAMPLING_DECISION_MAKER_TAG_KEY = some value) :
    decisionAccepted value = true := by
  rw [lookup_headerTags, if_pos rfl] at h
  cases hm : context.sampling.mechanism with
  | none =>
      rw [hm, Option.map_none, Option.none_or] at h
      exact hexisting hm value h
  | some mechanism =>
      rw [hm, Option.map_some, Option.some_or, Option.some.injEq] at h
      rw [← h]
      exact hmechanism mechanism hm

/-- The Datadog extractor reads back what the injector wrote into an empty carrier: the ids, the
origin, the priority, the mechanism of the decision maker, and exactly the propagation tags that the
context has after the injection. -/
theorem decode_encode {config extractConfig : Config}
    (hsame : extractConfig.datadogTagsMaxLength = config.datadogTagsMaxLength)
    {context : InjectSpanContext} {p : SamplingPriority}
    (hlow : (splitTraceId context.traceId).2 ≠ 0) (hp : context.sampling.priority = some p)
    (hmechanism : ∀ mechanism, context.sampling.mechanism = some mechanism →
      decisionAccepted mechanism.toCow = true)
    (hexisting : context.sampling.mechanism = none →
      ∀ value, context.tags.lookup SAMPLING_DECISION_MAKER_TAG_KEY = some value →
        decisionAccepted value = true)
    (hkeys : ∀ key value, context.tags.lookup key = some value →
      DATADOG_PROPAGATION_TAG_PREFIX.isPrefixOf key = true → '=' ∉ key)
    (herror : RecordsNoError ord context config) :
    (∀ header, (inject ord context ∅ config).2.get DATADOG_TAGS_KEY = some header →
      Text.utf8Len header ≤ config.datadogTagsMaxLength) ∧
    ∃ extracted, extract (inject ord context ∅ config).2 extractConfig = some extracted ∧
      extracted.traceId = context.traceId ∧
      extracted.spanId = context.spanId ∧
      extracted.origin = context.origin ∧
      extracted.sampling.priority = some p ∧
      extracted.sampling.mechanism =
        ((inject ord context ∅ config).1.tags.lookup SAMPLING_DECISION_MAKER_TAG_KEY).bind
          SamplingMechanism.fromStr ∧
      ∀ key, extracted.tags.lookup key =
        if DATADOG_PROPAGATION_TAG_PREFIX.isPrefixOf key then
          (inject ord context ∅ config).1.tags.lookup key
        else none := by
  have htags := tags_inject ord herror ∅
  rcases herror with ⟨hmax, header, hheader⟩
  have hheaders := (inject_headers ord hp hmax hheader (Carrier.get_empty _)).1
  have hequals : ∀ key value, (headerTags context).lookup key = some value →
      DATADOG_PROPAGATION_TAG_PREFIX.isPrefixOf key = true → '=' ∉ key :=
    fun key value hlookup hpre => equals_not_mem_headerTags hkeys hlookup hpre
  have hread := extractTags_eq ord hequals hheader hheaders.tags
  -- both checks let the tags through
  rw [lookup_validateTraceIdTag (lookup_tid_propagationTags ord context),
    validateSamplingDecision_of_accepted
      (by
        intro value hvalue
        rw [lookup_propagationTags, if_pos prefix_dm] at hvalue
        exact accepted_headerTags hmechanism hexisting hvalue)] at hread
  constructor
  · intro written hwritten
    have hsize := (getPropagationTags_ok ord hheader).1
    rw [← utf8Len_pairs, ← (getPropagationTags_ok ord hheader).2.2] at hsize
    have hsome := hheaders.tags
    rw [hwritten, Option.getD_some] at hsome
    rwa [hsome]
  · rw [extract_headers extractConfig hlow hheaders, hsame, hread]
    refine ⟨_, rfl, ?_, rfl, ?_, rfl, ?_, ?_⟩
    · simp only [lookup_propagationTags, prefix_tid, if_true, lookup_traceIdTag,
        combineTraceId_splitTraceId]
    · simp [get_inject_origin]
    · simp only [lookup_propagationTags, prefix_dm, if_true, htags]
    · intro key
      rw [lookup_propagationTags, htags]

/-- The context of the two-style round trip, read back from its four headers. -/
theorem decode_encode_sample :
    (∀ header,
      (inject (.asStored Str Str) DatadogCompositePropagator.sampleContext ∅ defaultConfig).2.get
        DATADOG_TAGS_KEY = some header →
      Text.utf8Len header ≤ defaultConfig.datadogTagsMaxLength) ∧
    ∃ extracted,
      extract
        (inject (.asStored Str Str) DatadogCompositePropagator.sampleContext ∅ defaultConfig).2
        defaultConfig = some extracted ∧
      extracted.traceId = DatadogCompositePropagator.sampleContext.traceId ∧
      extracted.spanId = DatadogCompositePropagator.sampleContext.spanId ∧
      extracted.origin = DatadogCompositePropagator.sampleContext.origin ∧
      extracted.sampling.priority = some Priority.userReject ∧
      extracted.sampling.mechanism =
        ((inject (.asStored Str Str) DatadogCompositePropagator.sampleContext ∅
          defaultConfig).1.tags.lookup SAMPLING_DECISION_MAKER_TAG_KEY).bind
            SamplingMechanism.fromStr ∧
      ∀ key, extracted.tags.lookup key =
        if DATADOG_PROPAGATION_TAG_PREFIX.isPrefixOf key then
          (inject (.asStored Str Str) DatadogCompositePropagator.sampleContext ∅
            defaultConfig).1.tags.lookup key
        else none := by
  have hkeys : ∀ pair ∈ DatadogCompositePropagator.sampleContext.tags.toList, '=' ∉ pair.1 := by
    decide
  have hmechanism : ∀ mechanism,
      DatadogCompositePropagator.sampleContext.sampling.mechanism = some mechanism →
        decisionAccepted mechanism.toCow = true := by
    intro mechanism h
    rw [← Option.some.inj h]
    decide
  exact decode_encode (.asStored Str Str) rfl (by decide) rfl hmechanism
    (fun hnone => absurd hnone (by decide))
    (fun key value h _ => hkeys (key, value) (HashMap.mem_toList.2 h))
    ⟨by decide, _, rfl⟩

end Datadog
end Propagation
end DdTrace
