import DdTrace.Propagation.Injection

/-!
# RoundTrip — both styles carry the same context

Each style reads back what it wrote: the W3C style the whole trace id in hexadecimal, the Datadog style
a decimal half and a tag for the other half.  So the two contexts found in a carrier are of the same
trace and the same span, and merging them makes no span link (`two_style_round_trip`).
-/

namespace DdTrace
namespace Propagation

open DdTrace.Lib DdTrace.Core

namespace TraceContext

/-! ## The traceparent header -/

theorem isHexChar_of_isHexDigit {c : Char} (h : Numeral.isHexDigit c = true) :
    isHexChar c = true := h

theorem takeNHexChars_append {s : Str} {n : Nat} (hlen : s.length = n)
    (hhex : ∀ c ∈ s, Numeral.isHexDigit c = true) (t : Str) :
    takeNHexChars (s ++ t) n = some (s, t) := by
  have htake : (s ++ t).take n = s := by simp [← hlen]
  have hdrop : (s ++ t).drop n = t := by simp [← hlen]
  have hall : s.all isHexChar = true :=
    List.all_eq_true.2 fun c hc => isHexChar_of_isHexDigit (hhex c hc)
  simp [takeNHexChars, htake, hdrop, hlen, hall]

theorem isHexDigit_sampledFlags {isKeep : Bool} {c : Char} (h : c ∈ sampledFlags isKeep) :
    Numeral.isHexDigit c = true := by
  have hall : (sampledFlags isKeep).all Numeral.isHexDigit = true := by
    cases isKeep <;> decide
  exact List.all_eq_true.1 hall c h

theorem length_sampledFlags (isKeep : Bool) : (sampledFlags isKeep).length = 2 := by
  cases isKeep <;> rfl

theorem length_traceId (traceId : BitVec 128) :
    (Numeral.hexPadded 32 traceId.toNat).length = 32 :=
  Numeral.length_hexPadded (by decide) (lt_of_lt_of_eq traceId.isLt (by decide))

theorem length_parentId (spanId : BitVec 64) :
    (Numeral.hexPadded 16 spanId.toNat).length = 16 :=
  Numeral.length_hexPadded (by decide) (lt_of_lt_of_eq spanId.isLt (by decide))

theorem parseTraceparentComponents_text (traceId : BitVec 128) (spanId : BitVec 64)
    (isKeep : Bool) :
    parseTraceparentComponents (traceparentText traceId spanId isKeep) =
      some
        { version := "00".toList
          traceId := Numeral.hexPadded 32 traceId.toNat
          spanId := Numeral.hexPadded 16 spanId.toNat
          flags := sampledFlags isKeep
          tail := [] } := by
  have hversion := takeNHexChars_append (s := "00".toList) (n := 2) rfl
    (List.all_eq_true.1 (by decide))
  have htraceId := takeNHexChars_append (length_traceId traceId)
    fun c hc => Numeral.isHexDigit_of_mem_hexPadded hc
  have hspanId := takeNHexChars_append (length_parentId spanId)
    fun c hc => Numeral.isHexDigit_of_mem_hexPadded hc
  have hflags := takeNHexChars_append (length_sampledFlags isKeep)
    fun c hc => isHexDigit_sampledFlags hc
  rw [traceparentText_eq]
  simp only [parseTraceparentComponents, hversion, htraceId, hspanId, hflags, takeChar, if_true,
    Option.bind_eq_bind, Option.bind_some, List.isEmpty_nil]

theorem extractTraceId_text {traceId : BitVec 128} (h : traceId ≠ 0) :
    extractTraceId (Numeral.hexPadded 32 traceId.toNat) = .ok traceId := by
  have hne : traceId.toNat ≠ 0 := by
    intro hzero
    exact h (BitVec.eq_of_toNat_eq (by simpa using hzero))
  simp [extractTraceId, Numeral.parseUnsigned_hexPadded traceId.isLt, hne]

theorem extractSpanId_text {spanId : BitVec 64} (h : spanId ≠ 0) :
    extractSpanId (Numeral.hexPadded 16 spanId.toNat) = .ok spanId := by
  have hne : spanId.toNat ≠ 0 := by
    intro hzero
    exact h (BitVec.eq_of_toNat_eq (by simpa using hzero))
  simp [extractSpanId, Numeral.parseUnsigned_hexPadded spanId.isLt, hne]

/-- The priority that the sampled flag stands for. -/
def flagPriority (isKeep : Bool) : SamplingPriority :=
  if isKeep then Priority.autoKeep else Priority.autoReject

theorem isKeep_flagPriority (isKeep : Bool) : (flagPriority isKeep).isKeep = isKeep := by
  cases isKeep <;> rfl

theorem extractTraceparent_text {traceId : BitVec 128} {spanId : BitVec 64} (ht : traceId ≠ 0)
    (hs : spanId ≠ 0) (isKeep : Bool) :
    extractTraceparent (traceparentText traceId spanId isKeep) =
      .ok
        { samplingPriority := flagPriority isKeep
          traceId := traceId
          spanId := spanId } := by
  have hflags : extractTraceFlags (sampledFlags isKeep) = .ok (if isKeep then 1 else 0) := by
    cases isKeep <;> rfl
  have hversion : ∀ flags : BitVec 8, flags = (if isKeep then 1 else 0) →
      extractVersion "00".toList [] flags = .ok () := by
    rintro flags rfl
    cases isKeep <;> rfl
  simp only [extractTraceparent, parseTraceparentComponents_text, bind, Except.bind,
    extractTraceId_text ht, extractSpanId_text hs, hflags, hversion _ rfl]
  cases isKeep <;> rfl

/-- There is nothing to trim at the header. -/
theorem trim_text (traceId : BitVec 128) (spanId : BitVec 64) (isKeep : Bool) :
    Text.trim (traceparentText traceId spanId isKeep) = traceparentText traceId spanId isKeep := by
  have hhead : ∃ rest, traceparentText traceId spanId isKeep = '0' :: rest := ⟨_, rfl⟩
  have hlast : ∃ init c, traceparentText traceId spanId isKeep = init ++ [c] ∧
      Text.isWhitespace c = false := by
    have hflags : ∃ c, sampledFlags isKeep = ['0', c] ∧ Text.isWhitespace c = false := by
      cases isKeep with
      | true => exact ⟨'1', rfl, by decide⟩
      | false => exact ⟨'0', rfl, by decide⟩
    rcases hflags with ⟨c, hflags, hc⟩
    refine ⟨"00".toList ++ '-' :: (Numeral.hexPadded 32 traceId.toNat ++
      '-' :: (Numeral.hexPadded 16 spanId.toNat ++ ['-', '0'])), c, ?_, hc⟩
    rw [traceparentText_eq, hflags]
    simp
  -- the version at the front is no blank, and the flags at the end are none
  rcases hhead with ⟨rest, hrest⟩
  rcases hlast with ⟨init, c, hinit, hc⟩
  rw [hrest, Text.trim_cons (by decide), ← hrest, hinit]
  exact Text.trimEnd_concat hc init

/-- The two comparisons of the source come down to one: both keep the trace, or both drop it. -/
theorem agrees_flagPriority (isKeep : Bool) (p : SamplingPriority) :
    ((flagPriority isKeep = Priority.autoKeep && p.isKeep) ||
      (flagPriority isKeep = Priority.autoReject && !p.isKeep)) = decide (p.isKeep = isKeep) := by
  cases isKeep <;> cases p.isKeep <;> rfl

/-- The priority of the tracestate counts if it agrees with the sampled flag. -/
theorem defineSamplingPriority_fst (isKeep : Bool) (ts : Option SamplingPriority) (tags : Tags) :
    (defineSamplingPriority (flagPriority isKeep) ts tags).1 =
      (ts.filter fun p => p.isKeep = isKeep).getD (flagPriority isKeep) := by
  simp only [defineSamplingPriority, agrees_flagPriority]
  cases ts.filter fun p => p.isKeep = isKeep with
  | none => rfl
  | some p => rfl

/-- The sampled flag decides whether the priority keeps the trace. -/
theorem isKeep_defineSamplingPriority (isKeep : Bool) (ts : Option SamplingPriority) (tags : Tags) :
    (defineSamplingPriority (flagPriority isKeep) ts tags).1.isKeep = isKeep := by
  rw [defineSamplingPriority_fst]
  cases hfilter : ts.filter fun p => p.isKeep = isKeep with
  | none => exact isKeep_flagPriority isKeep
  | some p => simpa using (Option.filter_eq_some_iff.1 hfilter).2

end TraceContext

/-! ## What a context agrees on -/

/-- The extracted context is of this trace and span, keeps the trace or not, and has no links. -/
structure Agrees (traceId : BitVec 128) (spanId : BitVec 64) (isKeep : Bool)
    (context : SpanContext) : Prop where
  traceId_eq : context.traceId = traceId
  spanId_eq : context.spanId = spanId
  keeps : context.sampling.priority.map SamplingPriority.isKeep = some isKeep
  links : context.links = []

namespace TraceContext

/-- The W3C style reads the ids and the sampled flag back, whatever the tracestate is. -/
theorem extract_agrees (ord : IterOrder Str Str) {carrier : Carrier} {traceId : BitVec 128}
    {spanId : BitVec 64} {isKeep : Bool} (ht : traceId ≠ 0) (hs : spanId ≠ 0)
    (h : carrier.get TRACEPARENT_KEY = some (traceparentText traceId spanId isKeep)) :
    ∃ context, extract ord carrier = some context ∧ Agrees traceId spanId isKeep context := by
  unfold extract
  simp only [h, Option.bind_eq_bind, Option.bind_some, trim_text, extractTraceparent_text ht hs,
    Except.toOption]
  split
  · rename_i ts tracestate _
    refine ⟨_, rfl, rfl, rfl, ?_, rfl⟩
    simp only [Option.map_some, Option.some.injEq]
    exact isKeep_defineSamplingPriority isKeep _ _
  · -- without a tracestate the priority is that of the flag
    refine ⟨_, rfl, rfl, rfl, ?_, rfl⟩
    simp only [Option.map_some, isKeep_flagPriority]

end TraceContext

namespace Datadog

/-! ## The tags header -/

/-- A pair as it stands in the header. -/
def pairText (pair : Str × Str) : Str := pair.1 ++ '=' :: pair.2

/-- The size of a pair, with its `=` and the separator behind it. -/
def pairSize (pair : Str × Str) : Nat := Text.utf8Len pair.1 + Text.utf8Len pair.2 + 2

theorem utf8Len_pairText (pair : Str × Str) :
    Text.utf8Len (pairText pair) + 1 = pairSize pair := by
  have hequals : '='.utf8Size = 1 := by decide
  simp only [pairText, pairSize, Text.utf8Len_append, Text.utf8Len_cons, hequals]
  omega

/-- The size that is checked counts no separator behind the last pair. -/
theorem tagsSize_add_one {pairs : List (Str × Str)} (hne : pairs ≠ []) :
    tagsSize pairs + 1 = (pairs.map pairSize).sum := by
  have hsum : (pairs.map pairSize).sum + (pairs.length - 1) = tagsSize pairs + pairs.length := by
    clear hne
    unfold tagsSize
    induction pairs with
    | nil => rfl
    | cons pair pairs ih =>
        simp only [List.map_cons, List.sum_cons, List.length_cons, pairSize] at ih ⊢
        omega
  have hpos : 0 < pairs.length := List.length_pos_iff.2 hne
  omega

/-- The size that is checked is that of the header. -/
theorem utf8Len_pairs (pairs : List (Str × Str)) :
    Text.utf8Len ([','].intercalate (pairs.map pairText)) = tagsSize pairs := by
  have hcomma : ','.utf8Size = 1 := by decide
  by_cases hpairs : pairs = []
  · rw [hpairs]
    rfl
  · have hjoined := Text.utf8Len_intercalate ','
      (mt List.map_eq_nil_iff.1 hpairs : pairs.map pairText ≠ [])
    have hparts : (pairs.map pairText).map (fun part => Text.utf8Len part + 1) =
        pairs.map pairSize := by
      rw [List.map_map]
      exact List.map_congr_left fun pair _ => utf8Len_pairText pair
    rw [hcomma, hparts, ← tagsSize_add_one hpairs] at hjoined
    exact Nat.add_right_cancel hjoined

/-- A header without separators in its pairs splits into these pairs. -/
theorem splitOn_pairs {pairs : List (Str × Str)} (hne : pairs ≠ [])
    (hcomma : ∀ pair ∈ pairs, ',' ∉ pair.1 ∧ ',' ∉ pair.2) :
    ([','].intercalate (pairs.map pairText)).splitOn ',' = pairs.map pairText := by
  apply List.splitOn_intercalate
  · intro part hpart
    rcases List.mem_map.1 hpart with ⟨pair, hpair, rfl⟩
    have hfree := hcomma pair hpair
    simp [pairText, hfree.1, hfree.2]
  · simp [hne]

/-- The pairs of a header are read back if they have no separators in them. -/
theorem readPairs_pairs {pairs : List (Str × Str)}
    (htag : ∀ pair ∈ pairs, isPropagationTag pair = true)
    (hcomma : ∀ pair ∈ pairs, ',' ∉ pair.1 ∧ ',' ∉ pair.2) (hequals : ∀ pair ∈ pairs, '=' ∉ pair.1) :
    readPairs ([','].intercalate (pairs.map pairText)) = pairs := by
  have hread : (pairs.map pairText).filterMap (Text.splitOnce '=') = pairs := by
    rw [List.filterMap_map, List.filterMap_congr (g := some)]
    · simp
    · intro pair hpair
      exact Text.splitOnce_append (hequals pair hpair) pair.2
  have hfilter : pairs.filter isPropagationTag = pairs := List.filter_eq_self.2 htag
  -- an empty header splits into one empty part, in which there is no `=`
  cases hpairs : pairs with
  | nil => rfl
  | cons pair rest =>
      have hsplit := splitOn_pairs (by simp [hpairs]) hcomma
      rw [← hpairs, readPairs, hsplit, hread, hfilter]

/-- Valid keys and values have no `,` in them. -/
theorem comma_not_mem_of_valid {key value : Str} (hkey : validateTagKey key = true)
    (hvalue : validateTagValue value = true) : ',' ∉ key ∧ ',' ∉ value := by
  have hascii : Text.isAscii ',' = true := by decide
  constructor
  · unfold validateTagKey at hkey
    split at hkey
    · cases hkey
    · rename_i tail htail
      rw [Text.stripPrefix_eq_some] at htail
      intro hmem
      rw [htail, List.mem_append] at hmem
      -- neither in the prefix that a key must have, nor among the bytes allowed behind it
      rcases hmem with hpre | hrest
      · exact absurd hpre (by decide)
      · have hbyte := List.all_eq_true.1 hkey _ (Text.byte_mem_bytes hascii hrest)
        exact absurd hbyte (by decide)
  · intro hmem
    have hbyte := List.all_eq_true.1 hvalue _ (Text.byte_mem_bytes hascii hmem)
    exact absurd hbyte (by decide)

/-! ## The Datadog headers -/

/-- The injector writes the tags header without recording a propagation error. -/
def RecordsNoError (ord : IterOrder Str Str) (context : InjectSpanContext) (config : Config) : Prop :=
  config.datadogTagsMaxLength ≠ 0 ∧
    ∃ header, getPropagationTags ord (headerTags context) config.datadogTagsMaxLength = .ok header

variable (ord : IterOrder Str Str)

/-- Otherwise the error is among the tags of the context. -/
theorem lookup_error_of_not_recordsNoError {context : InjectSpanContext} {config : Config}
    (carrier : Carrier) (h : ¬ RecordsNoError ord context config) :
    ((inject ord context carrier config).1.tags.lookup DATADOG_PROPAGATION_ERROR_KEY).isSome := by
  by_cases hmax : config.datadogTagsMaxLength = 0
  · simp [inject, injectTags, hmax]
  · cases hresult :
        getPropagationTags ord (headerTags context) config.datadogTagsMaxLength with
    | ok header => exact absurd ⟨hmax, header, hresult⟩ h
    | error message =>
        have htags : ∀ carrier : Carrier,
            getPropagationTags ord (injectSampling context.sampling carrier
              (injectTraceIdTag context.traceId context.tags)).2 config.datadogTagsMaxLength =
                .error message := fun _ => hresult
        simp [inject, injectTraceId, injectTags, hmax, htags]

/-- What the Datadog injector sets in a carrier. -/
structure Headers (context : InjectSpanContext) (p : SamplingPriority) (header : Str)
    (carrier : Carrier) : Prop where
  traceId : carrier.get DATADOG_TRACE_ID_KEY =
    some (Numeral.decimal (splitTraceId context.traceId).2.toNat)
  parentId : carrier.get DATADOG_PARENT_ID_KEY = some (Numeral.decimal context.spanId.toNat)
  priority : carrier.get DATADOG_SAMPLING_PRIORITY_KEY = some p.display
  tags : (carrier.get DATADOG_TAGS_KEY).getD [] = header

theorem Headers.inject_traceContext {context : InjectSpanContext} {p : SamplingPriority}
    {header : Str} {carrier : Carrier} (h : Headers context p header carrier)
    (context' : InjectSpanContext) :
    Headers context p header (TraceContext.inject ord context' carrier) := by
  have hkeeps : ∀ key ∈ KEYS, (TraceContext.inject ord context' carrier).get key =
      carrier.get key := fun key hkey => get_inject_traceContext ord context' carrier hkey
  refine ⟨?_, ?_, ?_, ?_⟩
  · exact (hkeeps DATADOG_TRACE_ID_KEY (by simp [KEYS, PLAIN_KEYS])).trans h.traceId
  · exact (hkeeps DATADOG_PARENT_ID_KEY (by simp [KEYS, PLAIN_KEYS])).trans h.parentId
  · exact (hkeeps DATADOG_SAMPLING_PRIORITY_KEY (by simp [KEYS, PLAIN_KEYS])).trans h.priority
  · rw [hkeeps DATADOG_TAGS_KEY (by simp [KEYS, PLAIN_KEYS])]
    exact h.tags

theorem inject_headers {context : InjectSpanContext} {config : Config} {p : SamplingPriority}
    {header : Str} {carrier : Carrier} (hp : context.sampling.priority = some p)
    (hmax : config.datadogTagsMaxLength ≠ 0)
    (hheader : getPropagationTags ord (headerTags context) config.datadogTagsMaxLength = .ok header)
    (hcarrier : carrier.get DATADOG_TAGS_KEY = none) :
    Headers context p header (inject ord context carrier config).2 ∧
      (inject ord context carrier config).2.get TRACEPARENT_KEY = carrier.get TRACEPARENT_KEY := by
  refine ⟨⟨?_, ?_, get_inject_priority ord carrier config hp, ?_⟩,
    get_inject_of_w3c ord context carrier config (by simp)⟩
  · exact get_inject_traceId ord context carrier config
  · exact get_inject_parentId ord context carrier config
  · -- the header is only set if there are tags; before, the carrier had none
    have hnone : (plainHeaders context carrier).get DATADOG_TAGS_KEY = none :=
      (get_plainHeaders_of_ne context carrier (by decide)).trans hcarrier
    simp only [inject_eq, injectTags, hmax, if_false, hheader]
    cases header with
    | nil => simp [hnone]
    | cons c rest => simp

/-! ## Reading the Datadog headers -/

theorem getPropagationTags_ok {tags : Tags} {maxLength : Nat} {header : Str}
    (h : getPropagationTags ord tags maxLength = .ok header) :
    tagsSize ((ord.iter tags).filter isPropagationTag) ≤ maxLength ∧
    (∀ pair ∈ (ord.iter tags).filter isPropagationTag,
      validateTagKey pair.1 = true ∧ validateTagValue pair.2 = true) ∧
    header = [','].intercalate (((ord.iter tags).filter isPropagationTag).map pairText) := by
  simp only [getPropagationTags] at h
  split at h
  · cases h
  · rename_i hsize
    split at h
    · cases h
    · rename_i hvalid
      refine ⟨Nat.le_of_not_lt hsize, ?_, ?_⟩
      · simpa using hvalid
      · exact (Except.ok.inj h).symm

theorem lookup_injectTraceIdTag (traceId : BitVec 128) (tags : Tags) (key : Str) :
    (injectTraceIdTag traceId tags).lookup key =
      if key = DATADOG_HIGHER_ORDER_TRACE_ID_BITS_KEY then
        (splitTraceId traceId).1.map fun higher => Numeral.hexPadded 16 higher.toNat
      else tags.lookup key := by
  unfold injectTraceIdTag
  cases (splitTraceId traceId).1 with
  | none => exact HashMap.lookup_erase_eq ..
  | some higher => exact HashMap.lookup_insert_eq ..

/-- The injector adds two tags: the decision maker and the higher half of the trace id. -/
theorem lookup_headerTags (context : InjectSpanContext) (key : Str) :
    (headerTags context).lookup key =
      if key = SAMPLING_DECISION_MAKER_TAG_KEY then
        (context.sampling.mechanism.map SamplingMechanism.toCow).or (context.tags.lookup key)
      else if key = DATADOG_HIGHER_ORDER_TRACE_ID_BITS_KEY then
        (splitTraceId context.traceId).1.map fun higher => Numeral.hexPadded 16 higher.toNat
      else context.tags.lookup key := by
  have hne : SAMPLING_DECISION_MAKER_TAG_KEY ≠ DATADOG_HIGHER_ORDER_TRACE_ID_BITS_KEY := by decide
  simp only [headerTags, injectSampling]
  cases context.sampling.mechanism with
  | none =>
      rw [lookup_injectTraceIdTag]
      by_cases hkey : key = SAMPLING_DECISION_MAKER_TAG_KEY
      · simp [hkey, hne]
      · simp [hkey]
  | some mechanism =>
      rw [HashMap.lookup_insert_eq, lookup_injectTraceIdTag]
      rfl

/-- The tag for the higher half of the trace id. -/
theorem lookup_traceIdTag (context : InjectSpanContext) :
    (headerTags context).lookup DATADOG_HIGHER_ORDER_TRACE_ID_BITS_KEY =
      (splitTraceId context.traceId).1.map fun higher => Numeral.hexPadded 16 higher.toNat := by
  rw [lookup_headerTags, if_neg (by decide), if_pos rfl]

/-- The keys that the injector adds have no `=` in them. -/
theorem equals_not_mem_headerTags {context : InjectSpanContext}
    (hkeys : ∀ key value, context.tags.lookup key = some value →
      DATADOG_PROPAGATION_TAG_PREFIX.isPrefixOf key = true → '=' ∉ key)
    {key value : Str} (h : (headerTags context).lookup key = some value)
    (hpre : DATADOG_PROPAGATION_TAG_PREFIX.isPrefixOf key = true) : '=' ∉ key := by
  rw [lookup_headerTags] at h
  split at h
  · rename_i hkey
    rw [hkey]
    decide
  · split at h
    · rename_i hkey
      rw [hkey]
      decide
    · exact hkeys key value h hpre

theorem utf8Len_higher (higher : BitVec 64) :
    Text.utf8Len (Numeral.hexPadded 16 higher.toNat) = 16 := by
  rw [Text.utf8Len_of_isAscii, TraceContext.length_parentId]
  intro c hc
  exact Numeral.isAscii_of_isHexDigit (Numeral.isHexDigit_of_mem_hexPadded hc)

/-- A higher half that was written is valid. -/
theorem higherOrderBitsValid_text (higher : BitVec 64) :
    higherOrderBitsValid (Numeral.hexPadded 16 higher.toNat) = true := by
  simp [higherOrderBitsValid, utf8Len_higher, Numeral.parseUnsigned_hexPadded higher.isLt]

theorem lookup_validateTraceIdTag {tags : Tags} {higher : Option (BitVec 64)}
    (h : tags.lookup DATADOG_HIGHER_ORDER_TRACE_ID_BITS_KEY =
      higher.map fun higher => Numeral.hexPadded 16 higher.toNat) :
    validateTraceIdTag tags = tags := by
  unfold validateTraceIdTag
  cases higher with
  | none => simp [h]
  | some higher => simp [h, higherOrderBitsValid_text]

/-- The check of the decision maker leaves the other tags alone. -/
theorem lookup_validateSamplingDecision (tags : Tags) :
    (validateSamplingDecision tags).lookup DATADOG_HIGHER_ORDER_TRACE_ID_BITS_KEY =
      tags.lookup DATADOG_HIGHER_ORDER_TRACE_ID_BITS_KEY := by
  have herror : DATADOG_HIGHER_ORDER_TRACE_ID_BITS_KEY ≠ DATADOG_PROPAGATION_ERROR_KEY := by decide
  have hdm : DATADOG_HIGHER_ORDER_TRACE_ID_BITS_KEY ≠ SAMPLING_DECISION_MAKER_TAG_KEY := by decide
  simp only [validateSamplingDecision]
  split
  · rw [HashMap.lookup_insert_eq, if_neg herror, HashMap.lookup_erase_eq, if_neg hdm]
  · rfl

/-- The header that is written for some tags is read as its pairs, before these are checked. -/
theorem extractTags_eq {tags : Tags} {maxLength : Nat} {header : Str} {carrier : Carrier}
    (hequals : ∀ key value, tags.lookup key = some value →
      DATADOG_PROPAGATION_TAG_PREFIX.isPrefixOf key = true → '=' ∉ key)
    (hheader : getPropagationTags ord tags maxLength = .ok header)
    (hcarrier : (carrier.get DATADOG_TAGS_KEY).getD [] = header) :
    extractTags carrier maxLength = validateSamplingDecision
      (validateTraceIdTag (.ofPairs ((ord.iter tags).filter isPropagationTag))) := by
  rcases getPropagationTags_ok ord hheader with ⟨hsize, hvalid, rfl⟩
  have hread : readPairs ([','].intercalate
      (((ord.iter tags).filter isPropagationTag).map pairText)) =
        (ord.iter tags).filter isPropagationTag := by
    refine readPairs_pairs ?_ ?_ ?_
    · intro pair hpair
      exact (List.mem_filter.1 hpair).2
    · intro pair hpair
      exact comma_not_mem_of_valid (hvalid pair hpair).1 (hvalid pair hpair).2
    · intro pair hpair
      rcases List.mem_filter.1 hpair with ⟨hmem, hpre⟩
      exact hequals _ _ (ord.mem_iter.1 hmem) hpre
  have hnot : ¬ Text.utf8Len ([','].intercalate
      (((ord.iter tags).filter isPropagationTag).map pairText)) > maxLength := by
    rw [utf8Len_pairs]
    exact Nat.not_lt_of_le hsize
  simp only [extractTags, hcarrier, hnot, if_false, hread]

/-- The propagation tags of a map, read from its pairs. -/
theorem lookup_propagationTags (tags : Tags) (key : Str) :
    (HashMap.ofPairs ((ord.iter tags).filter isPropagationTag)).lookup key =
      if DATADOG_PROPAGATION_TAG_PREFIX.isPrefixOf key then tags.lookup key else none := by
  -- the pairs have distinct keys, so that none of them hides another
  have hnodup : (((ord.iter tags).filter isPropagationTag).map Prod.fst).Nodup :=
    (ord.nodup_iter tags).sublist (List.filter_sublist.map Prod.fst)
  apply Option.ext
  intro value
  rw [HashMap.lookup_ofPairs_of_nodup hnodup, List.mem_filter, ord.mem_iter]
  split
  · rename_i hpre
    exact and_iff_left hpre
  · rename_i hpre
    exact iff_of_false (fun h => hpre h.2) (by simp)

/-- Among the tags that are written is the one for the higher half. -/
theorem lookup_tid_propagationTags (context : InjectSpanContext) :
    (HashMap.ofPairs ((ord.iter (headerTags context)).filter isPropagationTag)).lookup
        DATADOG_HIGHER_ORDER_TRACE_ID_BITS_KEY =
      (splitTraceId context.traceId).1.map fun higher => Numeral.hexPadded 16 higher.toNat := by
  rw [lookup_propagationTags, if_pos prefix_tid, lookup_traceIdTag]

/-- The tag for the higher half arrives. -/
theorem lookup_extractTags {context : InjectSpanContext} {maxLength : Nat} {header : Str}
    {carrier : Carrier}
    (hkeys : ∀ key value, context.tags.lookup key = some value →
      DATADOG_PROPAGATION_TAG_PREFIX.isPrefixOf key = true → '=' ∉ key)
    (hheader : getPropagationTags ord (headerTags context) maxLength = .ok header)
    (hcarrier : (carrier.get DATADOG_TAGS_KEY).getD [] = header) :
    (extractTags carrier maxLength).lookup DATADOG_HIGHER_ORDER_TRACE_ID_BITS_KEY =
      (splitTraceId context.traceId).1.map fun higher => Numeral.hexPadded 16 higher.toNat := by
  have hequals : ∀ key value, (headerTags context).lookup key = some value →
      DATADOG_PROPAGATION_TAG_PREFIX.isPrefixOf key = true → '=' ∉ key :=
    fun key value hlookup hpre => equals_not_mem_headerTags hkeys hlookup hpre
  have hlookup := lookup_tid_propagationTags ord context
  rw [extractTags_eq ord hequals hheader hcarrier, lookup_validateSamplingDecision,
    lookup_validateTraceIdTag hlookup, hlookup]

/-- The two halves put together are the trace id. -/
theorem combineTraceId_splitTraceId (traceId : BitVec 128) :
    combineTraceId (splitTraceId traceId).2
      ((splitTraceId traceId).1.map fun higher => Numeral.hexPadded 16 higher.toNat) =
        traceId := by
  have hlt := traceId.isLt
  by_cases hzero : (traceId >>> 64).setWidth 64 = 0
  · -- no tag is written for a half that is zero, and none is needed
    have hhigh : traceId.toNat / 2 ^ 64 = 0 := by
      have h := congrArg BitVec.toNat hzero
      simp [Nat.shiftRight_eq_div_pow] at h
      omega
    apply BitVec.eq_of_toNat_eq
    simp [splitTraceId, combineTraceId, hzero]
    omega
  · apply BitVec.eq_of_toNat_eq
    simp only [splitTraceId, combineTraceId, hzero, ne_eq, not_false_eq_true, if_true,
      Option.map_some, Option.bind_some, Numeral.parseUnsigned_hexPadded (BitVec.isLt _)]
    simp [Nat.shiftRight_eq_div_pow, Nat.shiftLeft_eq]
    omega

/-- What the Datadog style reads from the headers it wrote, up to the tags. -/
theorem extract_headers {context : InjectSpanContext} {p : SamplingPriority} {header : Str}
    {carrier : Carrier} (config : Config) (hlow : (splitTraceId context.traceId).2 ≠ 0)
    (hcarrier : Headers context p header carrier) :
    extract carrier config =
      some
        { traceId := combineTraceId (splitTraceId context.traceId).2
            ((extractTags carrier config.datadogTagsMaxLength).lookup
              DATADOG_HIGHER_ORDER_TRACE_ID_BITS_KEY)
          spanId := context.spanId
          sampling :=
            { priority := some p
              mechanism := ((extractTags carrier config.datadogTagsMaxLength).lookup
                SAMPLING_DECISION_MAKER_TAG_KEY).bind SamplingMechanism.fromStr }
          origin := carrier.get DATADOG_ORIGIN_KEY
          tags := extractTags carrier config.datadogTagsMaxLength
          links := []
          isRemote := true
          tracestate := none } := by
  have hne : (splitTraceId context.traceId).2.toNat ≠ 0 := by
    intro hzero
    exact hlow (BitVec.eq_of_toNat_eq (by simpa using hzero))
  have htraceId : extractTraceId carrier = .ok (some (splitTraceId context.traceId).2) := by
    have hparse := Numeral.parseUnsigned_decimal (splitTraceId context.traceId).2.isLt
    simp only [extractTraceId, hcarrier.traceId, hparse, hne, if_false, BitVec.ofNat_toNat,
      BitVec.setWidth_eq]
  have hparentId : extractParentId carrier = .ok (some context.spanId) := by
    simp [extractParentId, hcarrier.parentId, Numeral.parseUnsigned_decimal context.spanId.isLt]
  have hpriority : extractSamplingPriority carrier = .ok (some p) := by
    simp [extractSamplingPriority, hcarrier.priority]
  simp only [extract, htraceId, hparentId, hpriority]
  rfl

/-- The Datadog style reads the ids and the priority back. -/
theorem extract_agrees {context : InjectSpanContext} {p : SamplingPriority} {config : Config}
    {header : Str} {carrier : Carrier} (hlow : (splitTraceId context.traceId).2 ≠ 0)
    (hkeys : ∀ key value, context.tags.lookup key = some value →
      DATADOG_PROPAGATION_TAG_PREFIX.isPrefixOf key = true → '=' ∉ key)
    (hheader : getPropagationTags ord (headerTags context) config.datadogTagsMaxLength = .ok header)
    (hcarrier : Headers context p header carrier) :
    ∃ extracted, extract carrier config = some extracted ∧
      Agrees context.traceId context.spanId p.isKeep extracted := by
  refine ⟨_, extract_headers config hlow hcarrier, ?_, rfl, rfl, rfl⟩
  simp only [lookup_extractTags ord hkeys hheader hcarrier.tags, combineTraceId_splitTraceId]

end Datadog

namespace DatadogCompositePropagator

variable (ord : IterOrder Str Str)

/-! ## Merging -/

/-- A context that agrees with the primary one is merged into it without a link. -/
theorem resolveContext_agrees {traceId : BitVec 128} {spanId : BitVec 64} {isKeep : Bool}
    {primary context : SpanContext} (contexts : List (SpanContext × TracePropagationStyle))
    (links : List SpanLink) (style : TracePropagationStyle)
    (hprimary : Agrees traceId spanId isKeep primary)
    (hcontext : Agrees traceId spanId isKeep context) :
    ∃ merged, resolveContext contexts (primary, links) (context, style) = (merged, links) ∧
      Agrees traceId spanId isKeep merged := by
  have htraceId : context.traceId = primary.traceId :=
    hcontext.traceId_eq.trans hprimary.traceId_eq.symm
  have hspanId : primary.spanId = context.spanId :=
    hprimary.spanId_eq.trans hcontext.spanId_eq.symm
  have hlink : ¬ (context.spanId ≠ 0 ∧ context.traceId ≠ 0 ∧
      context.traceId ≠ primary.traceId) := by
    rintro ⟨-, -, hne⟩
    exact hne htraceId
  -- the merge takes the span id of the W3C context, which is the same here
  have hmerge : Agrees traceId spanId isKeep (mergeTraceContext contexts primary context) := by
    unfold mergeTraceContext
    cases context.tags.lookup TRACESTATE_KEY with
    | none => simpa [hspanId] using hprimary
    | some ts =>
        simp only [hspanId, ne_eq, not_true_eq_false, and_false, if_false]
        exact ⟨hprimary.traceId_eq, hcontext.spanId_eq, hprimary.keeps, hprimary.links⟩
  unfold resolveContext
  simp only [hlink, if_false]
  by_cases hstyle : style = .traceContext
  · exact ⟨_, by simp only [hstyle, if_true], hmerge⟩
  · exact ⟨_, by simp only [hstyle, if_false], hprimary⟩

theorem foldl_resolveContext_agrees {traceId : BitVec 128} {spanId : BitVec 64} {isKeep : Bool}
    (contexts others : List (SpanContext × TracePropagationStyle)) (links : List SpanLink)
    {primary : SpanContext} (hprimary : Agrees traceId spanId isKeep primary)
    (hothers : ∀ c ∈ others, Agrees traceId spanId isKeep c.1) :
    ∃ merged, others.foldl (resolveContext contexts) (primary, links) = (merged, links) ∧
      Agrees traceId spanId isKeep merged := by
  -- the primary context changes on the way; that it agrees is the invariant
  induction others generalizing primary with
  | nil => exact ⟨primary, rfl, hprimary⟩
  | cons c others ih =>
      rcases c with ⟨context, style⟩
      have hcontext := hothers (context, style) (List.mem_cons_self ..)
      rcases resolveContext_agrees contexts links style hprimary hcontext with
        ⟨merged, hstep, hmerged⟩
      have hrest := ih hmerged fun c hc => hothers c (List.mem_cons_of_mem _ hc)
      simpa [List.foldl_cons, hstep] using hrest

/-- Contexts that agree are merged to one that agrees with them. -/
theorem resolveContexts_agrees {traceId : BitVec 128} {spanId : BitVec 64} {isKeep : Bool}
    {first : SpanContext × TracePropagationStyle}
    {others : List (SpanContext × TracePropagationStyle)}
    (h : ∀ c ∈ first :: others, Agrees traceId spanId isKeep c.1) :
    Agrees traceId spanId isKeep (resolveContexts first others) := by
  have hfirst := h first (List.mem_cons_self ..)
  rcases foldl_resolveContext_agrees (first :: others) others [] hfirst
    fun c hc => h c (List.mem_cons_of_mem _ hc) with ⟨merged, hfold, hmerged⟩
  simp only [resolveContexts, hfold]
  exact ⟨hmerged.traceId_eq, hmerged.spanId_eq, hmerged.keeps, rfl⟩

/-- The contexts that are found are what the styles extract. -/
theorem extract_agrees {self : DatadogCompositePropagator} {carrier : Carrier}
    {traceId : BitVec 128} {spanId : BitVec 64} {isKeep : Bool} (hne : self.extractors ≠ [])
    (h : ∀ style ∈ self.extractors, ∃ context,
      Style.extract ord style carrier self.config = some context ∧
        Agrees traceId spanId isKeep context) :
    ∃ extracted, self.extract ord carrier = some extracted ∧
      Agrees traceId spanId isKeep extracted := by
  have hall : ∀ c ∈ self.extractAvailableContexts ord carrier,
      Agrees traceId spanId isKeep c.1 := by
    intro c hc
    rcases List.mem_filterMap.1 hc with ⟨style, hstyle, hmap⟩
    rcases h style hstyle with ⟨context, hextract, hagrees⟩
    rw [hextract, Option.map_some, Option.some.injEq] at hmap
    rw [← hmap]
    exact hagrees
  have hsome : self.extractAvailableContexts ord carrier ≠ [] := by
    intro hnil
    rcases List.exists_mem_of_ne_nil _ hne with ⟨style, hstyle⟩
    rcases h style hstyle with ⟨context, hextract, -⟩
    have hmem : (context, style) ∈ self.extractAvailableContexts ord carrier :=
      List.mem_filterMap.2 ⟨style, hstyle, by simp [hextract]⟩
    rw [hnil] at hmem
    cases hmem
  unfold extract
  cases hcontexts : self.extractAvailableContexts ord carrier with
  | nil => exact absurd hcontexts hsome
  | cons first others =>
      refine ⟨_, rfl, resolveContexts_agrees ?_⟩
      rw [← hcontexts]
      exact hall

/-! ## The round trip -/

/-- Both styles, in either order. -/
def bothStyles : List (List TracePropagationStyle) :=
  [[.datadog, .traceContext], [.traceContext, .datadog]]

/-- The extractors are some of both styles, and at least one of them. -/
theorem extractors_of_bothStyles {config : Config} (h : getExtractors config ∈ bothStyles) :
    (new config).extractors ≠ [] ∧
      ∀ style ∈ (new config).extractors, style = .datadog ∨ style = .traceContext := by
  have hcases : ∀ styles ∈ bothStyles, ∀ n ∈ [1, 2],
      (styles.take n).filter (· ≠ .none) ≠ [] ∧
        ∀ style ∈ (styles.take n).filter (· ≠ .none),
          style = .datadog ∨ style = .traceContext := by decide
  have hlen : (getExtractors config).length = 2 := by
    have hall : ∀ styles ∈ bothStyles, styles.length = 2 := by decide
    exact hall _ h
  cases hfirst : config.tracePropagationExtractFirst with
  | false => simpa [new, hfirst, hlen] using hcases _ h 2 (by decide)
  | true => simpa [new, hfirst] using hcases _ h 1 (by decide)

/-- Either order of the injectors leaves the headers of both styles in the carrier. -/
theorem inject_bothStyles {config : Config} {context : InjectSpanContext} {p : SamplingPriority}
    {header : Str} (hstyles : getInjectors config ∈ bothStyles)
    (hmax : config.datadogTagsMaxLength ≠ 0) (ht : context.traceId ≠ 0) (hs : context.spanId ≠ 0)
    (hp : context.sampling.priority = some p)
    (hheader : Datadog.getPropagationTags ord (Datadog.headerTags context)
      config.datadogTagsMaxLength = .ok header) :
    Datadog.Headers context p header ((new config).inject ord context ∅).2 ∧
      ((new config).inject ord context ∅).2.get TRACEPARENT_KEY =
        some (TraceContext.traceparentText context.traceId context.spanId p.isKeep) := by
  have hkeeps : TraceContext.keeps context = p.isKeep := by
    simp [TraceContext.keeps, hp]
  rcases List.mem_pair.1 hstyles with horder | horder
  · -- the W3C style meets the context as the Datadog style left it: with other tags
    have hinject : ((new config).inject ord context ∅).2 =
        TraceContext.inject ord (Datadog.inject ord context ∅ config).1
          (Datadog.inject ord context ∅ config).2 := by
      simp [inject, new, horder, Style.inject]
    have hheaders := Datadog.inject_headers ord hp hmax hheader (Carrier.get_empty _)
    have htraceparent := TraceContext.get_inject_traceparent ord
      (show (Datadog.inject ord context ∅ config).1.traceId ≠ 0 from ht) hs
      (Datadog.inject ord context ∅ config).2
    rw [hinject, ← hkeeps]
    exact ⟨hheaders.1.inject_traceContext ord _, htraceparent⟩
  · -- in the other order the W3C headers lie in the carrier already
    have hinject : ((new config).inject ord context ∅).2 =
        (Datadog.inject ord context (TraceContext.inject ord context ∅) config).2 := by
      simp [inject, new, horder, Style.inject]
    have htags : (TraceContext.inject ord context ∅).get Datadog.DATADOG_TAGS_KEY = none := by
      rw [TraceContext.get_inject_of_ne ord context ∅ (by decide) (by decide)]
      exact Carrier.get_empty _
    have hheaders := Datadog.inject_headers ord hp hmax hheader htags
    rw [hinject, ← hkeeps]
    exact ⟨hheaders.1, hheaders.2.trans (TraceContext.get_inject_traceparent ord ht hs ∅)⟩

/-- A context injected with both styles, in either order, and extracted with both, in either order,
is of the same trace and span, keeps the trace or not as before, and has no span link. -/
theorem two_style_round_trip (ord' : IterOrder Str Str) {injectConfig extractConfig : Config}
    (hinject : getInjectors injectConfig ∈ bothStyles)
    (hextract : getExtractors extractConfig ∈ bothStyles)
    (hmax : extractConfig.datadogTagsMaxLength = injectConfig.datadogTagsMaxLength)
    {context : InjectSpanContext} {p : SamplingPriority}
    (hlow : (splitTraceId context.traceId).2 ≠ 0) (hspanId : context.spanId ≠ 0)
    (hp : context.sampling.priority = some p)
    (hkeys : ∀ key value, context.tags.lookup key = some value →
      DATADOG_PROPAGATION_TAG_PREFIX.isPrefixOf key = true → '=' ∉ key)
    (herror : Datadog.RecordsNoError ord context injectConfig) :
    ∃ extracted,
      (new extractConfig).extract ord' ((new injectConfig).inject ord context ∅).2 =
        some extracted ∧
      extracted.traceId = context.traceId ∧
      extracted.spanId = context.spanId ∧
      extracted.sampling.priority.map SamplingPriority.isKeep = some p.isKeep ∧
      extracted.links = [] := by
  rcases herror with ⟨hpos, header, hheader⟩
  have htraceId : context.traceId ≠ 0 := by
    intro hzero
    apply hlow
    rw [hzero]
    rfl
  rcases inject_bothStyles ord hinject hpos htraceId hspanId hp hheader with
    ⟨hheaders, htraceparent⟩
  rcases extractors_of_bothStyles hextract with ⟨hne, hstyles⟩
  -- each extractor finds a context that agrees, from the headers of its own style
  have hfound : ∀ style ∈ (new extractConfig).extractors, ∃ found,
      Style.extract ord' style ((new injectConfig).inject ord context ∅).2
        (new extractConfig).config = some found ∧
          Agrees context.traceId context.spanId p.isKeep found := by
    intro style hstyle
    rcases hstyles style hstyle with rfl | rfl
    · exact Datadog.extract_agrees ord hlow hkeys (hmax ▸ hheader) hheaders
    · exact TraceContext.extract_agrees ord' htraceId hspanId htraceparent
  rcases extract_agrees ord' hne hfound with ⟨extracted, hextracted, hagrees⟩
  exact ⟨extracted, hextracted, hagrees.traceId_eq, hagrees.spanId_eq, hagrees.keeps,
    hagrees.links⟩

/-- A trace id with a higher half, a dropped trace and one tag of its own. -/
def sampleContext : InjectSpanContext :=
  { traceId := 0x640cfd8d0000000000000000abcdef12
    spanId := 7
    sampling :=
      { priority := some Priority.userReject
        mechanism := some Mechanism.manual }
    origin := some "synthetics".toList
    tags := .ofPairs [("_dd.p.usr.id".toList, "baz64".toList)]
    isRemote := true
    tracestate := none }

theorem two_style_round_trip_sample :
    ∃ extracted,
      (new defaultConfig).extract (.asStored Str Str)
        ((new defaultConfig).inject (.asStored Str Str) sampleContext ∅).2 = some extracted ∧
      extracted.traceId = sampleContext.traceId ∧
      extracted.spanId = sampleContext.spanId ∧
      extracted.sampling.priority.map SamplingPriority.isKeep =
        some Priority.userReject.isKeep ∧
      extracted.links = [] := by
  have hkeys : ∀ pair ∈ sampleContext.tags.toList, '=' ∉ pair.1 := by decide
  exact two_style_round_trip (.asStored Str Str) (.asStored Str Str) (by decide) (by decide) rfl
    (by decide) (by decide) rfl
    (fun key value h _ => hkeys (key, value) (HashMap.mem_toList.2 h))
    ⟨by decide, _, rfl⟩

end DatadogCompositePropagator

end Propagation
end DdTrace
