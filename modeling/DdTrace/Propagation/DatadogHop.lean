import DdTrace.Propagation.DatadogDecode

/-!
# DatadogHop — a service in the middle passes the Datadog headers on

What the extractor read, the injector writes again: the ids, the priority and the origin always, and
the propagation tags if its checks accept them.  Two tags are written anew: the higher half of the
trace id in sixteen lower case digits, the decision maker as the text of its mechanism.  Neither takes
more room than what was read, but for a decision maker `0`, which becomes `-0`.
-/

namespace DdTrace
namespace Propagation

open DdTrace.Lib DdTrace.Core

/-- A context that was extracted, as one to inject. -/
def spanContextToInject (c : SpanContext) : InjectSpanContext :=
  { traceId := c.traceId
    spanId := c.spanId
    sampling := c.sampling
    origin := c.origin
    tags := c.tags
    isRemote := c.isRemote
    tracestate := c.tracestate.map fun ts =>
      { header := (ts.additionalValues.map fun values =>
          [','].intercalate (values.map fun (k, v) => k ++ '=' :: v)).getD [] } }

namespace Datadog

/-- A header has this tag with this value. -/
def Holds (header key value : Str) : Prop := pairText (key, value) ∈ header.splitOn ','

/-! ## The size of the tags -/

/-- What a tag takes of the header, with the separator behind it. -/
def tagSize (key value : Str) : Nat :=
  if isPropagationTag (key, value) then pairSize (key, value) else 0

theorem tagSize_prefixed {key : Str} (h : DATADOG_PROPAGATION_TAG_PREFIX.isPrefixOf key = true)
    (value : Str) : tagSize key value = Text.utf8Len key + Text.utf8Len value + 2 := by
  rw [tagSize, isPropagationTag, if_pos h, pairSize]

theorem tagSize_error (value : Str) : tagSize DATADOG_PROPAGATION_ERROR_KEY value = 0 :=
  if_neg (by simp only [isPropagationTag]; decide)

/-- The size of the pairs that are written, in whatever order. -/
theorem sum_pairSize (ord : IterOrder Str Str) (tags : Tags) :
    (((ord.iter tags).filter isPropagationTag).map pairSize).sum =
      HashMap.sumEntries tagSize tags := by
  have hfilter : ∀ pairs : List (Str × Str), ((pairs.filter isPropagationTag).map pairSize).sum =
      (pairs.map fun pair => tagSize pair.1 pair.2).sum := by
    intro pairs
    induction pairs with
    | nil => rfl
    | cons pair pairs ih =>
        cases hpair : isPropagationTag pair with
        | true => simp [tagSize, hpair, ih]
        | false => simp [tagSize, hpair, ih]
  rw [hfilter, ((ord.perm tags).map _).sum_eq, HashMap.sum_map_toList]

/-- What is read from a header takes no more room than the header. -/
theorem sum_readPairs_le (header : Str) :
    ((readPairs header).map fun pair => tagSize pair.1 pair.2).sum ≤ Text.utf8Len header + 1 := by
  have hcomma : ','.utf8Size = 1 := by decide
  have hparts : ∀ parts : List Str,
      (((parts.filterMap (Text.splitOnce '=')).filter isPropagationTag).map
          fun pair => tagSize pair.1 pair.2).sum ≤
        (parts.map fun part => Text.utf8Len part + 1).sum := by
    intro parts
    induction parts with
    | nil => exact Nat.le_refl _
    | cons part parts ih =>
        cases hsplit : Text.splitOnce '=' part with
        | none =>
            simp only [List.filterMap_cons, hsplit, List.map_cons, List.sum_cons]
            omega
        | some pair =>
            rcases pair with ⟨key, value⟩
            -- the part is the text of the pair
            have hsize : Text.utf8Len part + 1 = pairSize (key, value) := by
              rw [(Text.eq_of_splitOnce hsplit).1]
              exact utf8Len_pairText (key, value)
            cases htag : isPropagationTag (key, value) with
            | true =>
                have hpair : tagSize key value = Text.utf8Len part + 1 := by
                  rw [tagSize, if_pos htag, hsize]
                simp only [List.filterMap_cons, hsplit, List.filter_cons, htag, if_true,
                  List.map_cons, List.sum_cons, hpair]
                omega
            | false =>
                simp only [List.filterMap_cons, hsplit, List.filter_cons, htag,
                  Bool.false_eq_true, if_false, List.map_cons, List.sum_cons]
                omega
  calc
    ((readPairs header).map fun pair => tagSize pair.1 pair.2).sum
        ≤ ((header.splitOn ',').map fun part => Text.utf8Len part + 1).sum := hparts _
    _ = Text.utf8Len header + 1 := by
          rw [← hcomma]
          exact Text.sum_utf8Len_splitOn ',' header

/-! ## What was extracted -/

variable {carrier : Carrier} {maxLength : Nat}

/-- The header of the tags, empty if there is none. -/
def tagsHeader (carrier : Carrier) : Str := (carrier.get DATADOG_TAGS_KEY).getD []

/-- Both checks of the extractor only take tags away, but for the error. -/
theorem sum_extractTags_le (carrier : Carrier) (maxLength : Nat) :
    HashMap.sumEntries tagSize (extractTags carrier maxLength) ≤
      min (Text.utf8Len (tagsHeader carrier)) maxLength + 1 := by
  have herror : ∀ (value : Str) (tags : Tags),
      HashMap.sumEntries tagSize (AList.insert DATADOG_PROPAGATION_ERROR_KEY value tags) ≤
        HashMap.sumEntries tagSize tags := by
    intro value tags
    have h := HashMap.sumEntries_insert_le tagSize tags DATADOG_PROPAGATION_ERROR_KEY value
    rwa [tagSize_error, Nat.zero_add] at h
  have htraceId : ∀ tags : Tags, HashMap.sumEntries tagSize (validateTraceIdTag tags) ≤
      HashMap.sumEntries tagSize tags := by
    intro tags
    unfold validateTraceIdTag
    split
    · split
      · exact Nat.le_refl _
      · exact (HashMap.sumEntries_erase_le ..).trans (herror ..)
    · exact Nat.le_refl _
  have hdecision : ∀ tags : Tags, HashMap.sumEntries tagSize (validateSamplingDecision tags) ≤
      HashMap.sumEntries tagSize tags := by
    intro tags
    rw [validateSamplingDecision_eq]
    split
    · exact Nat.le_refl _
    · exact (herror ..).trans (HashMap.sumEntries_erase_le ..)
  simp only [extractTags]
  split
  · exact (herror ..).trans (Nat.zero_le _)
  · rename_i hlen
    have hread := (HashMap.sumEntries_ofPairs_le tagSize (readPairs (tagsHeader carrier))).trans
      (sum_readPairs_le (tagsHeader carrier))
    have hchecked := ((hdecision _).trans (htraceId _)).trans hread
    have hle : Text.utf8Len (tagsHeader carrier) ≤ maxLength := Nat.le_of_not_lt hlen
    rw [Nat.min_eq_left hle]
    exact hchecked

/-- A decision maker that is extracted was accepted. -/
theorem accepted_of_extractTags {value : Str}
    (h : (extractTags carrier maxLength).lookup SAMPLING_DECISION_MAKER_TAG_KEY = some value) :
    decisionAccepted value = true ∧ Text.utf8Len (tagsHeader carrier) ≤ maxLength := by
  have hne : SAMPLING_DECISION_MAKER_TAG_KEY ≠ DATADOG_PROPAGATION_ERROR_KEY := by decide
  simp only [extractTags] at h
  split at h
  · rw [HashMap.lookup_insert_eq, if_neg hne] at h
    cases h
  · rename_i hlen
    refine ⟨?_, Nat.le_of_not_lt hlen⟩
    rw [validateSamplingDecision_eq] at h
    split at h
    · rename_i hall
      simpa [h] using hall
    · rw [HashMap.lookup_insert_eq, if_neg hne, HashMap.lookup_erase_eq, if_pos rfl] at h
      cases h

/-- So was a tag for the higher half of the trace id. -/
theorem valid_of_extractTags {value : Str}
    (h : (extractTags carrier maxLength).lookup DATADOG_HIGHER_ORDER_TRACE_ID_BITS_KEY =
      some value) : higherOrderBitsValid value = true := by
  have hne : DATADOG_HIGHER_ORDER_TRACE_ID_BITS_KEY ≠ DATADOG_PROPAGATION_ERROR_KEY := by decide
  simp only [extractTags] at h
  split at h
  · rw [HashMap.lookup_insert_eq, if_neg hne] at h
    cases h
  · rw [lookup_validateSamplingDecision] at h
    unfold validateTraceIdTag at h
    split at h
    · rename_i bits hbits
      split at h
      · rename_i hvalid
        rw [hbits, Option.some.injEq] at h
        rwa [← h]
      · rw [HashMap.lookup_erase_eq, if_pos rfl] at h
        cases h
    · rename_i hnone
      rw [hnone] at h
      cases h

/-- What the trace id and the tags of a context were made of. -/
theorem ids_of_extract {config : Config} {context : SpanContext}
    (hextract : extract carrier config = some context) :
    context.tags = extractTags carrier config.datadogTagsMaxLength ∧
      ∃ lower, context.traceId = combineTraceId lower
        (context.tags.lookup DATADOG_HIGHER_ORDER_TRACE_ID_BITS_KEY) := by
  unfold extract at hextract
  split at hextract
  · cases hextract
  · cases hextract
  · rename_i lower _
    rw [Option.some.injEq] at hextract
    subst hextract
    exact ⟨rfl, lower, rfl⟩

/-- What a context with a priority was made of. -/
theorem of_extract {config : Config} {context : SpanContext} {p : SamplingPriority}
    (hextract : extract carrier config = some context) (hp : context.sampling.priority = some p) :
    context.tags = extractTags carrier config.datadogTagsMaxLength ∧
      (∃ lower, context.traceId = combineTraceId lower
        (context.tags.lookup DATADOG_HIGHER_ORDER_TRACE_ID_BITS_KEY)) ∧
      context.sampling.mechanism = (context.tags.lookup SAMPLING_DECISION_MAKER_TAG_KEY).bind
        SamplingMechanism.fromStr := by
  have hids := ids_of_extract hextract
  refine ⟨hids.1, hids.2, ?_⟩
  unfold extract at hextract
  split at hextract
  · cases hextract
  · cases hextract
  · rw [Option.some.injEq] at hextract
    subst hextract
    cases hpriority : extractSamplingPriority carrier with
    | error message => simp [hpriority] at hp
    | ok priority =>
        simp only [hpriority] at hp
        simp [hp]

/-! ## What is written again -/

/-- The injector meets the extracted context. -/
def reinject (ord : IterOrder Str Str) (context : SpanContext) (target : Carrier) (config : Config) :
    InjectSpanContext × Carrier :=
  inject ord (spanContextToInject context) target config

/-- The text of a mechanism takes no more room than the decision maker it was read from, unless that
is the one digit that gets a sign. -/
theorem toCow_of_accepted {value : Str} (h : decisionAccepted value = true) :
    ∃ mechanism, SamplingMechanism.fromStr value = some mechanism ∧
      Text.utf8Len mechanism.toCow ≤
        Text.utf8Len value + (if value = "0".toList then 1 else 0) := by
  obtain ⟨parsed, hparsed⟩ : ∃ parsed, Numeral.parseSigned (-128) 127 value = parsed := ⟨_, rfl⟩
  cases parsed with
  | none => simp only [decisionAccepted, hparsed, Bool.false_eq_true] at h
  | some i =>
      have hi : i ≤ 0 := by simpa only [decisionAccepted, hparsed, decide_eq_true_eq] using h
      rcases SamplingMechanism.fromStr_of_nonpos hparsed hi with ⟨mechanism, hmechanism, hvalue⟩
      refine ⟨mechanism, hmechanism, ?_⟩
      have hminus : '-'.utf8Size = 1 := by decide
      have hdigits : Text.utf8Len (Numeral.decimal i.natAbs) =
          (Numeral.decimal i.natAbs).length :=
        Text.utf8Len_of_isAscii fun c hc =>
          Numeral.isAscii_of_isHexDigit (Numeral.isHexDigit_of_mem_decimal hc)
      rw [SamplingMechanism.toCow_eq_display, SamplingMechanism.display, hvalue,
        Text.utf8Len_cons, hminus, hdigits]
      exact Nat.le_trans (Numeral.length_of_parseSigned hparsed hi)
        (Nat.add_le_add_right (Text.length_le_utf8Len value) _)

/-- Without a tag for it the higher half is zero. -/
theorem splitTraceId_combineTraceId_none (lower : BitVec 64) :
    (splitTraceId (combineTraceId lower none)).1 = none := by
  have hzero : ((combineTraceId lower none) >>> 64).setWidth 64 = 0 := by
    have hlt := lower.isLt
    apply BitVec.eq_of_toNat_eq
    simp [combineTraceId, Nat.shiftRight_eq_div_pow]
    omega
  simp [splitTraceId, hzero]

theorem utf8Len_of_higherOrderBitsValid {value : Str} (h : higherOrderBitsValid value = true) :
    Text.utf8Len value = 16 := by
  unfold higherOrderBitsValid at h
  split at h
  · cases h
  · rename_i hlen
    simpa using hlen

section Extracted

variable {config : Config} {context : SpanContext} {p : SamplingPriority}
variable (hextract : extract carrier config = some context)
variable (hp : context.sampling.priority = some p)

include hextract hp

/-- A higher half that is not zero comes from a tag of sixteen bytes. -/
theorem lookup_higher {higher : BitVec 64} (h : (splitTraceId context.traceId).1 = some higher) :
    ∃ value, context.tags.lookup DATADOG_HIGHER_ORDER_TRACE_ID_BITS_KEY = some value ∧
      Text.utf8Len value = 16 := by
  rcases of_extract hextract hp with ⟨htags, ⟨lower, htraceId⟩, -⟩
  cases hvalue : context.tags.lookup DATADOG_HIGHER_ORDER_TRACE_ID_BITS_KEY with
  | none =>
      rw [htraceId, hvalue, splitTraceId_combineTraceId_none] at h
      cases h
  | some value =>
      rw [htags] at hvalue
      exact ⟨value, rfl, utf8Len_of_higherOrderBitsValid (valid_of_extractTags hvalue)⟩

/-- The mechanism is that of the decision maker, and there is one if there is a decision maker. -/
theorem lookup_decision :
    (context.tags.lookup SAMPLING_DECISION_MAKER_TAG_KEY = none ∧
      context.sampling.mechanism = none) ∨
    ∃ value mechanism, context.tags.lookup SAMPLING_DECISION_MAKER_TAG_KEY = some value ∧
      context.sampling.mechanism = some mechanism ∧
      Text.utf8Len mechanism.toCow ≤
        Text.utf8Len value + (if value = "0".toList then 1 else 0) ∧
      Text.utf8Len (tagsHeader carrier) ≤ config.datadogTagsMaxLength := by
  rcases of_extract hextract hp with ⟨htags, -, hmechanism⟩
  cases hvalue : context.tags.lookup SAMPLING_DECISION_MAKER_TAG_KEY with
  | none => exact .inl ⟨rfl, by rw [hmechanism, hvalue, Option.bind_none]⟩
  | some value =>
      have haccepted := accepted_of_extractTags (htags ▸ hvalue)
      rcases toCow_of_accepted haccepted.1 with ⟨mechanism, hfrom, hlen⟩
      refine .inr ⟨value, mechanism, rfl, ?_, hlen, haccepted.2⟩
      rw [hmechanism, hvalue, Option.bind_some, hfrom]

/-- The tags that are written again have room in the header, if there was room for the sign of the
decision maker. -/
theorem sum_headerTags_le
    (hroom : context.tags.lookup SAMPLING_DECISION_MAKER_TAG_KEY = some "0".toList →
      Text.utf8Len (tagsHeader carrier) < config.datadogTagsMaxLength) :
    HashMap.sumEntries tagSize (headerTags (spanContextToInject context)) ≤
      config.datadogTagsMaxLength + 1 := by
  have hne : SAMPLING_DECISION_MAKER_TAG_KEY ≠ DATADOG_HIGHER_ORDER_TRACE_ID_BITS_KEY := by decide
  have hextracted := sum_extractTags_le carrier config.datadogTagsMaxLength
  rw [← (of_extract hextract hp).1] at hextracted
  -- the tag for the higher half is written over one of the same size
  have htraceId : HashMap.sumEntries tagSize (injectTraceIdTag context.traceId context.tags) ≤
      HashMap.sumEntries tagSize context.tags := by
    unfold injectTraceIdTag
    cases hhigher : (splitTraceId context.traceId).1 with
    | none => exact HashMap.sumEntries_erase_le ..
    | some higher =>
        rcases lookup_higher hextract hp hhigher with ⟨value, hvalue, hlen⟩
        exact HashMap.sumEntries_insert_le_add (c := 0) tagSize hvalue
          (by simp only [tagSize_prefixed prefix_tid, utf8Len_higher, hlen, Nat.add_zero, Nat.le_refl])
  have hlookup : (injectTraceIdTag context.traceId context.tags).lookup
      SAMPLING_DECISION_MAKER_TAG_KEY = context.tags.lookup SAMPLING_DECISION_MAKER_TAG_KEY := by
    rw [lookup_injectTraceIdTag, if_neg hne]
  simp only [headerTags, injectSampling, spanContextToInject]
  rcases lookup_decision hextract hp with
    ⟨-, hmechanism⟩ | ⟨value, mechanism, hvalue, hmechanism, hlen, hmax⟩
  · simp only [hmechanism]
    omega
  · -- the decision maker may grow by its sign
    have hgrown := HashMap.sumEntries_insert_le_add (w := mechanism.toCow)
      (c := if value = "0".toList then 1 else 0) tagSize (hlookup.trans hvalue)
      (by simp only [tagSize_prefixed prefix_dm]; omega)
    simp only [hmechanism]
    by_cases hzero : value = "0".toList
    · have hlt := hroom (hzero ▸ hvalue)
      rw [if_pos hzero] at hgrown
      omega
    · rw [if_neg hzero] at hgrown
      omega

end Extracted

/-- A value of digits and signs may be written. -/
theorem validateTagValue_of_digits {value : Str}
    (h : ∀ c ∈ value, c = '-' ∨ Numeral.isHexDigit c = true) : validateTagValue value = true := by
  have hdigit : ∀ {c : Char}, Numeral.isHexDigit c = true → validateTagValue [c] = true :=
    fun hc => Numeral.forall_isHexDigit (P := fun c => validateTagValue [c] = true) (by decide) hc
  unfold validateTagValue Text.bytes
  rw [List.all_flatMap, List.all_eq_true]
  intro c hc
  rcases h c hc with rfl | hdigits
  · decide
  · simpa [validateTagValue, Text.bytes] using hdigit hdigits

/-- The checks of the injector accept the tags that it adds, if they accept the others. -/
theorem valid_headerTags {context : InjectSpanContext}
    (hvalid : ∀ key value, context.tags.lookup key = some value →
      DATADOG_PROPAGATION_TAG_PREFIX.isPrefixOf key = true →
      validateTagKey key = true ∧ validateTagValue value = true)
    {key value : Str} (h : (headerTags context).lookup key = some value)
    (hpre : DATADOG_PROPAGATION_TAG_PREFIX.isPrefixOf key = true) :
    validateTagKey key = true ∧ validateTagValue value = true := by
  have hadded : validateTagKey SAMPLING_DECISION_MAKER_TAG_KEY = true ∧
      validateTagKey DATADOG_HIGHER_ORDER_TRACE_ID_BITS_KEY = true := by decide
  rw [lookup_headerTags] at h
  split at h
  · rename_i hkey
    cases hmechanism : context.sampling.mechanism with
    | none =>
        rw [hmechanism, Option.map_none, Option.none_or] at h
        exact hvalid key value h hpre
    | some mechanism =>
        rw [hmechanism, Option.map_some, Option.some_or, Option.some.injEq] at h
        subst hkey h
        refine ⟨hadded.1, validateTagValue_of_digits ?_⟩
        intro c hc
        rw [SamplingMechanism.toCow_eq_display, SamplingMechanism.display, List.mem_cons] at hc
        exact hc.imp_right Numeral.isHexDigit_of_mem_decimal
  · split at h
    · rename_i hkey
      rcases Option.map_eq_some_iff.1 h with ⟨higher, -, rfl⟩
      subst hkey
      exact ⟨hadded.2, validateTagValue_of_digits fun c hc =>
        .inr (Numeral.isHexDigit_of_mem_hexPadded hc)⟩
    · exact hvalid key value h hpre

variable (ord : IterOrder Str Str)

/-- Valid tags that have room are written. -/
theorem getPropagationTags_of_valid {tags : Tags}
    (hsize : HashMap.sumEntries tagSize tags ≤ maxLength + 1)
    (hvalid : ∀ key value, tags.lookup key = some value →
      DATADOG_PROPAGATION_TAG_PREFIX.isPrefixOf key = true →
      validateTagKey key = true ∧ validateTagValue value = true) :
    getPropagationTags ord tags maxLength =
      .ok ([','].intercalate (((ord.iter tags).filter isPropagationTag).map pairText)) := by
  have hfits : ¬ tagsSize ((ord.iter tags).filter isPropagationTag) > maxLength := by
    rw [← sum_pairSize ord] at hsize
    by_cases hpairs : (ord.iter tags).filter isPropagationTag = []
    · rw [hpairs]
      exact Nat.not_lt_zero _
    · rw [← tagsSize_add_one hpairs] at hsize
      omega
  have hall : (((ord.iter tags).filter isPropagationTag).all fun (key, value) =>
      validateTagKey key && validateTagValue value) = true := by
    rw [List.all_eq_true]
    rintro ⟨key, value⟩ hpair
    rcases List.mem_filter.1 hpair with ⟨hmem, hpre⟩
    rcases hvalid key value (ord.mem_iter.1 hmem) hpre with ⟨hkey, hvalue⟩
    simp [hkey, hvalue]
  simp only [getPropagationTags, if_neg hfits, hall, Bool.not_true, Bool.false_eq_true, if_false]
  rfl

/-- A header that is written has every propagation tag with its value. -/
theorem holds_of_getPropagationTags {tags : Tags} {header : Str}
    (h : getPropagationTags ord tags maxLength = .ok header) {key value : Str}
    (hlookup : tags.lookup key = some value)
    (hpre : DATADOG_PROPAGATION_TAG_PREFIX.isPrefixOf key = true) : Holds header key value := by
  rcases getPropagationTags_ok ord h with ⟨-, hvalid, rfl⟩
  have hmem : (key, value) ∈ (ord.iter tags).filter isPropagationTag :=
    List.mem_filter.2 ⟨ord.mem_iter.2 hlookup, hpre⟩
  unfold Holds
  rw [splitOn_pairs (List.ne_nil_of_mem hmem) fun pair hpair =>
    comma_not_mem_of_valid (hvalid pair hpair).1 (hvalid pair hpair).2]
  exact List.mem_map_of_mem hmem

/-- Whatever else the carrier has, the header is set if it has a tag in it. -/
theorem get_inject_tags {context : InjectSpanContext} {config : Config} {header key value : Str}
    (hmax : config.datadogTagsMaxLength ≠ 0)
    (h : getPropagationTags ord (headerTags context) config.datadogTagsMaxLength = .ok header)
    (hholds : Holds header key value) (target : Carrier) :
    (inject ord context target config).2.get DATADOG_TAGS_KEY = some header := by
  have hne : header.isEmpty = false := by
    cases header with
    | nil =>
        have hempty : pairText (key, value) = [] := by
          simpa [Holds] using hholds
        exact absurd hempty (by simp [pairText])
    | cons c rest => rfl
  simp only [inject_eq, injectTags, hmax, if_false, h, hne, Bool.false_eq_true,
    Carrier.get_set_self]

/-! ## The hop -/

/-- What the injector writes again of an extracted context with a priority: the lower half of the
trace id, the span id, the priority and the origin in any case; and, if its checks accept the
propagation tags and there is room for the sign of a decision maker `0`, every one of these, that of
the higher half and the decision maker in the form that the injector gives them, without recording
an error. -/
theorem encode_decode {config : Config} (hmax : config.datadogTagsMaxLength ≠ 0)
    {carrier : Carrier} {context : SpanContext} {p : SamplingPriority}
    (hextract : extract carrier config = some context) (hp : context.sampling.priority = some p)
    (target : Carrier) :
    (reinject ord context target config).2.get DATADOG_TRACE_ID_KEY =
      some (Numeral.decimal (splitTraceId context.traceId).2.toNat) ∧
    (reinject ord context target config).2.get DATADOG_PARENT_ID_KEY =
      some (Numeral.decimal context.spanId.toNat) ∧
    (reinject ord context target config).2.get DATADOG_SAMPLING_PRIORITY_KEY = some p.display ∧
    (reinject ord context target config).2.get DATADOG_ORIGIN_KEY =
      context.origin.or (target.get DATADOG_ORIGIN_KEY) ∧
    ((∀ key value, context.tags.lookup key = some value →
        DATADOG_PROPAGATION_TAG_PREFIX.isPrefixOf key = true →
        validateTagKey key = true ∧ validateTagValue value = true) →
      (context.tags.lookup SAMPLING_DECISION_MAKER_TAG_KEY = some "0".toList →
        Text.utf8Len (tagsHeader carrier) < config.datadogTagsMaxLength) →
      (reinject ord context target config).1.tags.lookup DATADOG_PROPAGATION_ERROR_KEY =
        context.tags.lookup DATADOG_PROPAGATION_ERROR_KEY ∧
      (∀ higher, (splitTraceId context.traceId).1 = some higher →
        ∃ header, (reinject ord context target config).2.get DATADOG_TAGS_KEY = some header ∧
          Holds header DATADOG_HIGHER_ORDER_TRACE_ID_BITS_KEY
            (Numeral.hexPadded 16 higher.toNat)) ∧
      ∀ key value, context.tags.lookup key = some value →
        DATADOG_PROPAGATION_TAG_PREFIX.isPrefixOf key = true →
        key ≠ DATADOG_HIGHER_ORDER_TRACE_ID_BITS_KEY →
        ∃ header, (reinject ord context target config).2.get DATADOG_TAGS_KEY = some header ∧
          Holds header key
            (if key = SAMPLING_DECISION_MAKER_TAG_KEY then
              (context.sampling.mechanism.map SamplingMechanism.toCow).getD value
            else value)) := by
  refine ⟨get_inject_traceId ord _ target config, get_inject_parentId ord _ target config,
    get_inject_priority ord target config hp, get_inject_origin ord _ target config, ?_⟩
  intro hvalid hroom
  have hheader := getPropagationTags_of_valid ord (sum_headerTags_le hextract hp hroom)
    fun key value hlookup hpre => valid_headerTags hvalid hlookup hpre
  have hwritten : ∀ {key value : Str},
      (headerTags (spanContextToInject context)).lookup key = some value →
      DATADOG_PROPAGATION_TAG_PREFIX.isPrefixOf key = true →
      ∃ header, (reinject ord context target config).2.get DATADOG_TAGS_KEY = some header ∧
        Holds header key value := by
    intro key value hlookup hpre
    have hholds := holds_of_getPropagationTags ord hheader hlookup hpre
    exact ⟨_, get_inject_tags ord hmax hheader hholds target, hholds⟩
  refine ⟨?_, ?_, ?_⟩
  · rw [reinject, tags_inject ord ⟨hmax, _, hheader⟩, lookup_headerTags, if_neg (by decide),
      if_neg (by decide)]
    rfl
  · intro higher hhigher
    refine hwritten ?_ (by decide)
    rw [lookup_traceIdTag]
    exact congrArg (Option.map _) hhigher
  · intro key value hlookup hpre hne
    refine hwritten ?_ hpre
    rw [lookup_headerTags, if_neg hne]
    have hvalue : (spanContextToInject context).tags.lookup key = some value := hlookup
    rw [hvalue]
    split
    · show (context.sampling.mechanism.map SamplingMechanism.toCow).or (some value) = _
      cases context.sampling.mechanism with
      | none => rfl
      | some mechanism => rfl
    · rfl

/-- A request with a higher half in upper case digits, an unsigned decision maker and another tag. -/
def hopCarrier : Carrier :=
  .ofPairs
    [(DATADOG_TRACE_ID_KEY, "1".toList), (DATADOG_PARENT_ID_KEY, "7".toList),
      (DATADOG_SAMPLING_PRIORITY_KEY, "1".toList),
      (DATADOG_TAGS_KEY, "_dd.p.tid=640CFD8D00000000,_dd.p.dm=0,_dd.p.usr.id=baz64".toList)]

/-- The context that is extracted from it. -/
def hopContext : SpanContext :=
  { traceId := 0x640cfd8d000000000000000000000001
    spanId := 7
    sampling :=
      { priority := some Priority.autoKeep
        mechanism := some Mechanism.default }
    origin := none
    tags := .ofPairs
      [(DATADOG_HIGHER_ORDER_TRACE_ID_BITS_KEY, "640CFD8D00000000".toList),
        (SAMPLING_DECISION_MAKER_TAG_KEY, "0".toList), ("_dd.p.usr.id".toList, "baz64".toList)]
    links := []
    isRemote := true
    tracestate := none }

theorem extract_hopCarrier : extract hopCarrier defaultConfig = some hopContext := by
  rfl

theorem encode_decode_hop :
    (reinject (.asStored Str Str) hopContext ∅ defaultConfig).1.tags.lookup
      DATADOG_PROPAGATION_ERROR_KEY = none ∧
    ∃ header,
      (reinject (.asStored Str Str) hopContext ∅ defaultConfig).2.get DATADOG_TAGS_KEY =
        some header ∧
      Holds header "_dd.p.usr.id".toList "baz64".toList := by
  have hvalid : ∀ pair ∈ hopContext.tags.toList,
      validateTagKey pair.1 = true ∧ validateTagValue pair.2 = true := by decide
  rcases (encode_decode (.asStored Str Str) (by decide) extract_hopCarrier rfl ∅).2.2.2.2
    (fun key value h _ => hvalid (key, value) (HashMap.mem_toList.2 h)) (fun _ => by decide) with
    ⟨herror, -, htags⟩
  exact ⟨herror, htags "_dd.p.usr.id".toList "baz64".toList (by decide) (by decide) (by decide)⟩

/-- Of two tags the header does not keep the text: both are written anew. -/
theorem hop_rewrites_tags :
    ∃ context header, extract hopCarrier defaultConfig = some context ∧
      context.sampling.priority = some Priority.autoKeep ∧
      context.tags.lookup DATADOG_HIGHER_ORDER_TRACE_ID_BITS_KEY =
        some "640CFD8D00000000".toList ∧
      context.tags.lookup SAMPLING_DECISION_MAKER_TAG_KEY = some "0".toList ∧
      (reinject (.asStored Str Str) context ∅ defaultConfig).2.get DATADOG_TAGS_KEY =
        some header ∧
      ¬ Holds header DATADOG_HIGHER_ORDER_TRACE_ID_BITS_KEY "640CFD8D00000000".toList ∧
      ¬ Holds header SAMPLING_DECISION_MAKER_TAG_KEY "0".toList := by
  refine ⟨hopContext, _, extract_hopCarrier, rfl, rfl, rfl, rfl, ?_, ?_⟩
  · unfold Holds
    decide
  · unfold Holds
    decide

end Datadog
end Propagation
end DdTrace
