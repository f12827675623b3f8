import DdTrace.Propagation.DatadogDecode
import DdTrace.Propagation.TraceContextHop

/-!
# DatadogBaggage — baggage in the headers of both styles

The Datadog style has a header of its own for the tags, with other checks and another limit than the
tracestate, and it adds two tags to what it writes.  Baggage that has these two already, in the form in
which they are written, is left alone by the injector, and its headers say it again
(`says_of_headers`).

`inject_carried` puts the two styles together: whatever styles a propagator injects, in whatever order,
each of them finds the baggage as the one before it left it; and if the Datadog style comes first, it is
the baggage with the tags of this style.
-/

namespace DdTrace
namespace Propagation

open DdTrace.Lib DdTrace.Core
open TraceContext (Baggage SameTags namedTags mem_namedTags)

namespace TraceContext

/-- The mechanism that the tags name. -/
def Baggage.mechanism (self : Baggage) : Option SamplingMechanism :=
  (self.tags.lookup SAMPLING_DECISION_MAKER_TAG_KEY).bind SamplingMechanism.fromStr

/-- They agree on the tags that some code looks up by their whole name. -/
theorem SameTags.lookup {tags tags' : Tags} (h : SameTags tags tags') {key : Str}
    (hkey : DATADOG_PROPAGATION_TAG_PREFIX.isPrefixOf key = true) :
    tags.lookup key = tags'.lookup key := by
  rcases List.isPrefixOf_iff_prefix.1 hkey with ⟨name, rfl⟩
  exact h name

/-- The extracted mechanism is the one that the extracted tags name. -/
theorem mechanism_eq_of_extract {ord : IterOrder Str Str} {carrier : Carrier} {extracted : SpanContext}
    (h : extract ord carrier = some extracted) :
    extracted.sampling.mechanism =
      (extracted.tags.lookup SAMPLING_DECISION_MAKER_TAG_KEY).bind SamplingMechanism.fromStr := by
  simp only [extract, Option.bind_eq_bind, Option.bind_eq_some_iff] at h
  rcases h with ⟨tp, -, traceparent, -, h⟩
  split at h
  · cases h
    rfl
  · -- without a tracestate there is no tag but the traceparent
    cases h
    rw [HashMap.lookup_insert_eq, if_neg (by decide), AList.lookup_empty, Option.bind_none]

end TraceContext

namespace Datadog

/-! ## Tags in the header -/

/-- The tags of the header, under their whole names. -/
def headerPairs (tags : List (Str × Str)) : List (Str × Str) :=
  tags.map fun tag => (DATADOG_PROPAGATION_TAG_PREFIX ++ tag.1, tag.2)

theorem filter_isPropagationTag (ord : IterOrder Str Str) (tags : Tags) :
    (ord.iter tags).filter isPropagationTag = headerPairs (namedTags ord tags) := by
  unfold namedTags headerPairs
  induction ord.iter tags with
  | nil => rfl
  | cons pair pairs ih =>
      rcases pair with ⟨key, value⟩
      cases hstrip : Text.stripPrefix DATADOG_PROPAGATION_TAG_PREFIX key with
      | none =>
          have hnot : isPropagationTag (key, value) = false := by
            rw [isPropagationTag, Bool.eq_false_iff]
            intro hpre
            rcases List.isPrefixOf_iff_prefix.1 hpre with ⟨name, hname⟩
            rw [Text.stripPrefix_eq_some.2 hname.symm] at hstrip
            cases hstrip
          rw [List.filter_cons_of_neg (by simp [hnot]), ih]
          simp only [List.filterMap_cons, hstrip, Option.map_none]
      | some name =>
          have hkey := Text.stripPrefix_eq_some.1 hstrip
          have hpre : isPropagationTag (key, value) = true :=
            List.isPrefixOf_iff_prefix.2 ⟨name, hkey.symm⟩
          rw [List.filter_cons_of_pos hpre, ih]
          simp only [List.filterMap_cons, hstrip, Option.map_some, List.map_cons]
          rw [hkey]

/-- The size of the header does not depend on the order of the tags. -/
theorem tagsSize_perm {pairs pairs' : List (Str × Str)} (h : pairs.Perm pairs') :
    tagsSize pairs = tagsSize pairs' := by
  unfold tagsSize
  rw [(h.map _).sum_eq, h.length_eq]

/-- A tag that the header can hold, and that is read from it as it was. -/
structure IsSound (tag : Str × Str) : Prop where
  key : validateTagKey (DATADOG_PROPAGATION_TAG_PREFIX ++ tag.1) = true
  equals : '=' ∉ tag.1
  value : validateTagValue tag.2 = true

instance (tag : Str × Str) : Decidable (IsSound tag) :=
  decidable_of_iff (validateTagKey (DATADOG_PROPAGATION_TAG_PREFIX ++ tag.1) = true ∧
      '=' ∉ tag.1 ∧ validateTagValue tag.2 = true)
    ⟨fun ⟨key, equals, value⟩ => ⟨key, equals, value⟩, fun h => ⟨h.key, h.equals, h.value⟩⟩

/-- The size of the tags of baggage in the header. -/
def headerSize (baggage : Baggage) : Nat :=
  tagsSize (headerPairs (namedTags (.asStored Str Str) baggage.tags))

/-- The baggage survives the headers of the Datadog style, and has the tags that the style writes by
itself. -/
structure FitsHeaders (baggage : Baggage) (traceId : BitVec 128) : Prop where
  sound : ∀ tag ∈ namedTags (.asStored Str Str) baggage.tags, IsSound tag
  traceIdTag : baggage.tags.lookup DATADOG_HIGHER_ORDER_TRACE_ID_BITS_KEY =
    (splitTraceId traceId).1.map fun higher => Numeral.hexPadded 16 higher.toNat
  lowerTraceId : (splitTraceId traceId).2 ≠ 0
  decisionMaker : ∀ text, baggage.tags.lookup SAMPLING_DECISION_MAKER_TAG_KEY = some text →
    decisionAccepted text = true ∧ baggage.mechanism.map SamplingMechanism.toCow = some text

section Header

variable {baggage : Baggage} {traceId : BitVec 128} (hfits : FitsHeaders baggage traceId)
variable {tags : Tags} (hsame : SameTags tags baggage.tags) (ord : IterOrder Str Str)

include hfits hsame

theorem isSound_baggage : ∀ tag ∈ namedTags ord tags, IsSound tag := by
  intro tag htag
  exact hfits.sound tag ((hsame.perm ord (.asStored Str Str)).mem_iff.1 htag)

/-- The tags can be written. -/
theorem getPropagationTags_baggage {maxLength : Nat} (hroom : headerSize baggage ≤ maxLength) :
    ∃ header, getPropagationTags ord tags maxLength = .ok header := by
  have hsize : tagsSize (headerPairs (namedTags ord tags)) = headerSize baggage :=
    tagsSize_perm ((hsame.perm ord (.asStored Str Str)).map _)
  have hvalid : ∀ pair ∈ headerPairs (namedTags ord tags),
      (validateTagKey pair.1 && validateTagValue pair.2) = true := by
    intro pair hpair
    rcases List.mem_map.1 hpair with ⟨tag, htag, rfl⟩
    have hsound := isSound_baggage hfits hsame ord tag htag
    rw [hsound.key, hsound.value, Bool.and_self]
  simp only [getPropagationTags, filter_isPropagationTag]
  rw [if_neg (by rw [hsize]; exact Nat.not_lt_of_le hroom),
    if_neg (by simpa [List.all_eq_true] using hvalid)]
  exact ⟨_, rfl⟩

/-- The header is read as the tags, whichever map they stood in. -/
theorem extractTags_baggage {maxLength : Nat} {header : Str} {carrier : Carrier}
    (hheader : getPropagationTags ord tags maxLength = .ok header)
    (hcarrier : (carrier.get DATADOG_TAGS_KEY).getD [] = header) {maxLength' : Nat}
    (hroom : headerSize baggage ≤ maxLength') :
    SameTags (extractTags carrier maxLength') baggage.tags := by
  have hequals : ∀ key value, tags.lookup key = some value →
      DATADOG_PROPAGATION_TAG_PREFIX.isPrefixOf key = true → '=' ∉ key := by
    intro key value hlookup hpre
    rcases List.isPrefixOf_iff_prefix.1 hpre with ⟨name, rfl⟩
    have hsound := isSound_baggage hfits hsame ord (name, value) (mem_namedTags.2 hlookup)
    rw [List.mem_append, not_or]
    exact ⟨by decide, hsound.equals⟩
  -- the limit of the reader is another one, but there is room again
  have hheader' : getPropagationTags ord tags maxLength' = .ok header := by
    rcases getPropagationTags_baggage hfits hsame ord hroom with ⟨header', hok⟩
    rw [hok, (getPropagationTags_ok ord hok).2.2, (getPropagationTags_ok ord hheader).2.2]
  have htraceId : (HashMap.ofPairs ((ord.iter tags).filter isPropagationTag)).lookup
      DATADOG_HIGHER_ORDER_TRACE_ID_BITS_KEY =
        (splitTraceId traceId).1.map fun higher => Numeral.hexPadded 16 higher.toNat := by
    rw [lookup_propagationTags, if_pos prefix_tid, hsame.lookup prefix_tid, hfits.traceIdTag]
  have hdecision : ∀ value, (HashMap.ofPairs ((ord.iter tags).filter isPropagationTag)).lookup
      SAMPLING_DECISION_MAKER_TAG_KEY = some value → decisionAccepted value = true := by
    intro value hvalue
    rw [lookup_propagationTags, if_pos prefix_dm, hsame.lookup prefix_dm] at hvalue
    exact (hfits.decisionMaker value hvalue).1
  intro name
  rw [extractTags_eq ord hequals hheader' hcarrier, lookup_validateTraceIdTag htraceId,
    validateSamplingDecision_of_accepted hdecision, lookup_propagationTags,
    if_pos (List.isPrefixOf_iff_prefix.2 ⟨name, rfl⟩), hsame name]

end Header

end Datadog

/-! ## What contexts and carriers say -/

/-- A context that was extracted says which span sent it, with this baggage. -/
structure Says (baggage : Baggage) (traceId : BitVec 128) (spanId : BitVec 64) (sc : SpanContext) :
    Prop where
  traceId_eq : sc.traceId = traceId
  spanId_eq : sc.spanId = spanId
  isRemote : sc.isRemote = true
  holds : baggage.In sc.sampling.priority sc.origin sc.tags
  mechanism : sc.sampling.mechanism = baggage.mechanism

/-- A context that is to be injected has this baggage. -/
structure Sends (baggage : Baggage) (traceId : BitVec 128) (spanId : BitVec 64)
    (context : InjectSpanContext) : Prop where
  traceId_eq : context.traceId = traceId
  spanId_eq : context.spanId = spanId
  isLocal : context.isRemote = false
  holds : baggage.In context.sampling.priority context.origin context.tags

/-- A context that is to be injected has this baggage once the Datadog style has added its tags. -/
structure Starts (baggage : Baggage) (traceId : BitVec 128) (spanId : BitVec 64)
    (context : InjectSpanContext) : Prop where
  traceId_eq : context.traceId = traceId
  spanId_eq : context.spanId = spanId
  isLocal : context.isRemote = false
  holds : baggage.In context.sampling.priority context.origin (Datadog.headerTags context)

namespace Datadog

/-- The Datadog headers of a carrier hold the baggage. -/
structure HasHeaders (baggage : Baggage) (traceId : BitVec 128) (spanId : BitVec 64)
    (carrier : Carrier) : Prop where
  traceId_eq : carrier.get DATADOG_TRACE_ID_KEY =
    some (Numeral.decimal (splitTraceId traceId).2.toNat)
  spanId_eq : carrier.get DATADOG_PARENT_ID_KEY = some (Numeral.decimal spanId.toNat)
  priority : carrier.get DATADOG_SAMPLING_PRIORITY_KEY = some baggage.priority.display
  origin : carrier.get DATADOG_ORIGIN_KEY = baggage.origin
  tags : ∃ ord tags maxLength, SameTags tags baggage.tags ∧
    getPropagationTags ord tags maxLength = .ok ((carrier.get DATADOG_TAGS_KEY).getD [])

/-- A carrier without any Datadog header. -/
def HasNone (carrier : Carrier) : Prop := ∀ key ∈ KEYS, carrier.get key = none

/-- There is room for the baggage in the header of the tags. -/
structure Room (baggage : Baggage) (config : Config) : Prop where
  enabled : config.datadogTagsMaxLength ≠ 0
  size : headerSize baggage ≤ config.datadogTagsMaxLength

variable {baggage : Baggage} {traceId : BitVec 128} {spanId : BitVec 64} {carrier : Carrier}
  {config : Config}

/-- The headers are read as the baggage. -/
theorem says_of_headers (hfits : FitsHeaders baggage traceId)
    (h : HasHeaders baggage traceId spanId carrier) (hroom : Room baggage config) :
    ∃ sc, extract carrier config = some sc ∧ Says baggage traceId spanId sc := by
  rcases h.tags with ⟨ord, tags, maxLength, hsame, hheader⟩
  let context : InjectSpanContext :=
    { traceId := traceId
      spanId := spanId
      sampling := { priority := none, mechanism := none }
      origin := none
      tags := ∅
      isRemote := false
      tracestate := none }
  have hheaders : Headers context baggage.priority ((carrier.get DATADOG_TAGS_KEY).getD []) carrier :=
    ⟨h.traceId_eq, h.spanId_eq, h.priority, rfl⟩
  have htags := extractTags_baggage hfits hsame ord hheader rfl hroom.size
  have hread := @extract_headers context baggage.priority _ carrier config hfits.lowerTraceId hheaders
  generalize extractTags carrier config.datadogTagsMaxLength = extracted at htags hread
  refine ⟨_, hread, ?_, rfl, rfl, ⟨rfl, h.origin, htags⟩, ?_⟩
  · rw [htags.lookup prefix_tid, hfits.traceIdTag]
    exact combineTraceId_splitTraceId traceId
  · rw [htags.lookup prefix_dm]
    rfl

/-- Without headers nothing is read. -/
theorem extract_of_hasNone (h : HasNone carrier) : extract carrier config = none := by
  have htraceId : carrier.get DATADOG_TRACE_ID_KEY = none := h _ (by simp [KEYS, PLAIN_KEYS])
  simp only [extract, extractTraceId, htraceId]

/-- The injector adds no tag that the baggage does not have. -/
theorem starts_of_sends {context : InjectSpanContext} (hfits : FitsHeaders baggage traceId)
    (h : Sends baggage traceId spanId context)
    (hmechanism : context.sampling.mechanism = baggage.mechanism) :
    Starts baggage traceId spanId context := by
  refine ⟨h.traceId_eq, h.spanId_eq, h.isLocal, h.holds.priority, h.holds.origin, ?_⟩
  intro name
  rw [lookup_headerTags]
  split_ifs with hdm htid
  · rw [hdm, hmechanism, h.holds.tags.lookup prefix_dm]
    cases htext : baggage.tags.lookup SAMPLING_DECISION_MAKER_TAG_KEY with
    | none => rw [Baggage.mechanism, htext, Option.bind_none, Option.map_none, Option.none_or]
    | some text => rw [(hfits.decisionMaker text htext).2, Option.some_or]
  · rw [htid, h.traceId_eq, hfits.traceIdTag]
  · exact h.holds.tags name

/-- The injector writes the baggage, over what it wrote before if it runs twice, and leaves it in the
context. -/
theorem inject_starts (ord : IterOrder Str Str) {context : InjectSpanContext}
    (hfits : FitsHeaders baggage traceId) (hroom : Room baggage config)
    (h : Starts baggage traceId spanId context)
    (hcarrier : HasNone carrier ∨ HasHeaders baggage traceId spanId carrier) :
    HasHeaders baggage traceId spanId (inject ord context carrier config).2 ∧
      Sends baggage traceId spanId (inject ord context carrier config).1 := by
  have hsame := h.holds.tags
  rcases getPropagationTags_baggage hfits hsame ord hroom.size with ⟨header, hheader⟩
  have horigin : context.origin.or (carrier.get DATADOG_ORIGIN_KEY) = baggage.origin := by
    rw [h.holds.origin]
    rcases hcarrier with hnone | hheaders
    · rw [hnone _ (by simp [KEYS, PLAIN_KEYS]), Option.or_none]
    · rw [hheaders.origin, Option.or_self]
  refine ⟨⟨?_, ?_, ?_, ?_, ?_⟩, h.traceId_eq, h.spanId_eq, h.isLocal, ?_⟩
  · rw [get_inject_traceId, h.traceId_eq]
  · rw [get_inject_parentId, h.spanId_eq]
  · exact get_inject_priority ord carrier config h.holds.priority
  · rw [get_inject_origin, horigin]
  · have hbefore : (plainHeaders context carrier).get DATADOG_TAGS_KEY =
        carrier.get DATADOG_TAGS_KEY := get_plainHeaders_of_ne context carrier (by decide)
    simp only [inject_eq, injectTags, hroom.enabled, if_false, hheader]
    cases header with
    | cons c rest => exact ⟨ord, headerTags context, _, hsame, by simpa using hheader⟩
    | nil =>
        -- an empty header is not written; then the one from before, if there is one, is still right
        simp only [List.isEmpty_nil, if_true, hbefore]
        rcases hcarrier with hnone | hheaders
        · rw [hnone _ (by simp [KEYS])]
          exact ⟨ord, headerTags context, _, hsame, hheader⟩
        · exact hheaders.tags
  · rw [tags_inject ord ⟨hroom.enabled, header, hheader⟩]
    exact ⟨h.holds.priority, h.holds.origin, hsame⟩

end Datadog

namespace TraceContext

variable {baggage : Baggage} {traceId : BitVec 128} {spanId : BitVec 64} {carrier : Carrier}

/-- The W3C headers of a carrier are those of a context with the baggage. -/
def HasHeaders (baggage : Baggage) (traceId : BitVec 128) (spanId : BitVec 64) (carrier : Carrier) :
    Prop :=
  ∃ ord context, Sends baggage traceId spanId context ∧
    carrier.get TRACEPARENT_KEY =
      some (traceparentText context.traceId context.spanId (keeps context)) ∧
    carrier.get TRACESTATE_KEY = some (tracestateHeader ord context)

/-- The headers are read as the baggage, with the span that sent it as the last parent. -/
theorem says_of_headers (ord : IterOrder Str Str) (hfits : baggage.Fits) (ht : traceId ≠ 0)
    (hs : spanId ≠ 0) (h : HasHeaders baggage traceId spanId carrier) :
    ∃ sc, extract ord carrier = some sc ∧ Says baggage traceId spanId sc ∧
      sc.tags.lookup DATADOG_LAST_PARENT_ID_KEY = some (Numeral.hexPadded 16 spanId.toNat) := by
  rcases h with ⟨ord', context, hsends, htraceparent, htracestate⟩
  have ht' : context.traceId ≠ 0 := by rwa [hsends.traceId_eq]
  have hs' : context.spanId ≠ 0 := by rwa [hsends.spanId_eq]
  rcases readBack_baggage ord' ord hfits hsends.holds hsends.isLocal ht' hs' with
    ⟨sc, hread, htraceId, hspanId, hisRemote, hholds, hlast⟩
  -- only the two headers are read
  have hextract : extract ord carrier = some sc := by
    rw [← hread]
    simp only [readBack, extract, htraceparent, htracestate, get_inject_traceparent ord' ht' hs',
      get_inject_tracestate ord' ht' hs']
  have hmechanism : sc.sampling.mechanism = baggage.mechanism := by
    rw [mechanism_eq_of_extract hextract, hholds.tags.lookup Datadog.prefix_dm, Baggage.mechanism]
  refine ⟨sc, hextract, ⟨htraceId.trans hsends.traceId_eq, hspanId.trans hsends.spanId_eq, hisRemote,
    hholds, hmechanism⟩, ?_⟩
  rw [hlast, hsends.spanId_eq]

theorem extract_of_none (ord : IterOrder Str Str) (h : carrier.get TRACEPARENT_KEY = none) :
    extract ord carrier = none := by
  simp only [extract, h, Option.bind_eq_bind, Option.bind_none]

end TraceContext

/-! ## Injecting with any styles -/

/-- The headers of these styles hold the baggage, and there are no others. -/
structure Carried (baggage : Baggage) (traceId : BitVec 128) (spanId : BitVec 64)
    (styles : List TracePropagationStyle) (carrier : Carrier) : Prop where
  datadog : .datadog ∈ styles → Datadog.HasHeaders baggage traceId spanId carrier
  noDatadog : .datadog ∉ styles → Datadog.HasNone carrier
  traceContext : .traceContext ∈ styles → TraceContext.HasHeaders baggage traceId spanId carrier
  noTraceContext : .traceContext ∉ styles → carrier.get TRACEPARENT_KEY = none

section Styles

variable {baggage : Baggage} {traceId : BitVec 128} {spanId : BitVec 64} {carrier : Carrier}
  {config : Config} {styles : List TracePropagationStyle}

/-- A carrier without the headers of either style. -/
structure IsFresh (carrier : Carrier) : Prop where
  datadog : Datadog.HasNone carrier
  traceContext : carrier.get TRACEPARENT_KEY = none

theorem IsFresh.empty : IsFresh ∅ :=
  ⟨fun _ _ => Carrier.get_empty _, Carrier.get_empty _⟩

theorem IsFresh.carried (h : IsFresh carrier) (baggage : Baggage) (traceId : BitVec 128)
    (spanId : BitVec 64) : Carried baggage traceId spanId [] carrier :=
  ⟨by simp, fun _ => h.datadog, by simp, fun _ => h.traceContext⟩

/-- The Datadog style adds its headers to those of the others. -/
theorem Carried.inject_datadog (ord : IterOrder Str Str) {context : InjectSpanContext}
    (hfits : Datadog.FitsHeaders baggage traceId) (hroom : Datadog.Room baggage config)
    (hcarried : Carried baggage traceId spanId styles carrier)
    (h : Starts baggage traceId spanId context) :
    Carried baggage traceId spanId (styles ++ [.datadog])
        (Datadog.inject ord context carrier config).2 ∧
      Sends baggage traceId spanId (Datadog.inject ord context carrier config).1 := by
  have hcarrier : Datadog.HasNone carrier ∨ Datadog.HasHeaders baggage traceId spanId carrier := by
    by_cases hmem : .datadog ∈ styles
    · exact .inr (hcarried.datadog hmem)
    · exact .inl (hcarried.noDatadog hmem)
  rcases Datadog.inject_starts ord hfits hroom h hcarrier with ⟨hheaders, hsends⟩
  have hw3c : ∀ key ∈ [TRACEPARENT_KEY, TRACESTATE_KEY],
      (Datadog.inject ord context carrier config).2.get key = carrier.get key :=
    fun key hkey => Datadog.get_inject_of_w3c ord context carrier config hkey
  refine ⟨⟨fun _ => hheaders, fun hnot => absurd (by simp) hnot, ?_, ?_⟩, hsends⟩
  · intro hmem
    rcases hcarried.traceContext (by simpa using hmem) with
      ⟨ord', context', hsends', htraceparent, htracestate⟩
    exact ⟨ord', context', hsends', (hw3c _ (by simp)).trans htraceparent,
      (hw3c _ (by simp)).trans htracestate⟩
  · intro hnot
    exact (hw3c _ (by simp)).trans (hcarried.noTraceContext (by simpa using hnot))

/-- So does the W3C style. -/
theorem Carried.inject_traceContext (ord : IterOrder Str Str) {context : InjectSpanContext}
    (ht : traceId ≠ 0) (hs : spanId ≠ 0)
    (hcarried : Carried baggage traceId spanId styles carrier)
    (h : Sends baggage traceId spanId context) :
    Carried baggage traceId spanId (styles ++ [.traceContext])
      (TraceContext.inject ord context carrier) := by
  have ht' : context.traceId ≠ 0 := by rwa [h.traceId_eq]
  have hs' : context.spanId ≠ 0 := by rwa [h.spanId_eq]
  have hkeys : ∀ key ∈ Datadog.KEYS, (TraceContext.inject ord context carrier).get key =
      carrier.get key := fun key hkey => Datadog.get_inject_traceContext ord context carrier hkey
  have hplain : ∀ key ∈ Datadog.PLAIN_KEYS, key ∈ Datadog.KEYS :=
    fun key hkey => List.mem_append_left _ hkey
  refine ⟨?_, ?_, fun _ => ⟨ord, context, h, ?_, ?_⟩, fun hnot => absurd (by simp) hnot⟩
  · intro hmem
    have hheaders := hcarried.datadog (by simpa using hmem)
    refine ⟨?_, ?_, ?_, ?_, ?_⟩
    · rw [hkeys _ (hplain _ (by simp [Datadog.PLAIN_KEYS]))]
      exact hheaders.traceId_eq
    · rw [hkeys _ (hplain _ (by simp [Datadog.PLAIN_KEYS]))]
      exact hheaders.spanId_eq
    · rw [hkeys _ (hplain _ (by simp [Datadog.PLAIN_KEYS]))]
      exact hheaders.priority
    · rw [hkeys _ (hplain _ (by simp [Datadog.PLAIN_KEYS]))]
      exact hheaders.origin
    · rw [hkeys _ (by simp [Datadog.KEYS])]
      exact hheaders.tags
  · intro hnot key hkey
    exact (hkeys key hkey).trans (hcarried.noDatadog (by simpa using hnot) key hkey)
  · exact TraceContext.get_inject_traceparent ord ht' hs' carrier
  · exact TraceContext.get_inject_tracestate ord ht' hs' carrier

/-- Whatever styles inject, and in whatever order: in the end their headers hold the baggage. -/
theorem foldl_inject_carried (ord : IterOrder Str Str) (hfits : Datadog.FitsHeaders baggage traceId)
    (hroom : Datadog.Room baggage config) (ht : traceId ≠ 0) (hs : spanId ≠ 0)
    {next : List TracePropagationStyle} (hnext : .none ∉ next) {context : InjectSpanContext}
    (hcarried : Carried baggage traceId spanId styles carrier)
    (h : Sends baggage traceId spanId context)
    (hmechanism : context.sampling.mechanism = baggage.mechanism) :
    Carried baggage traceId spanId (styles ++ next)
      (next.foldl (fun (context, carrier) style => Style.inject ord style context carrier config)
        (context, carrier)).2 := by
  induction next generalizing styles context carrier with
  | nil => simpa using hcarried
  | cons style next ih =>
      rw [List.mem_cons, not_or] at hnext
      cases style with
      | datadog =>
          rcases hcarried.inject_datadog ord hfits hroom
            (Datadog.starts_of_sends hfits h hmechanism) with ⟨hcarried', hsends⟩
          simpa [Style.inject] using ih hnext.2 hcarried' hsends hmechanism
      | traceContext =>
          have hcarried' := hcarried.inject_traceContext ord ht hs h
          simpa [Style.inject] using ih hnext.2 hcarried' h hmechanism
      | none => exact absurd rfl hnext.1

/-! ## Extracting with any styles -/

/-- What a style finds says the baggage; it finds something if it was injected. -/
theorem Carried.extract (ord : IterOrder Str Str) (hw3c : baggage.Fits)
    (hfits : Datadog.FitsHeaders baggage traceId) (hroom : Datadog.Room baggage config)
    (ht : traceId ≠ 0) (hs : spanId ≠ 0)
    (hcarried : Carried baggage traceId spanId styles carrier) (style : TracePropagationStyle) :
    (∀ sc ∈ Style.extract ord style carrier config, Says baggage traceId spanId sc) ∧
      (style ≠ .none → style ∈ styles → (Style.extract ord style carrier config).isSome = true) := by
  cases style with
  | none => exact ⟨by simp [Style.extract], fun hne => absurd rfl hne⟩
  | datadog =>
      by_cases hmem : .datadog ∈ styles
      · rcases Datadog.says_of_headers hfits (hcarried.datadog hmem) hroom with ⟨sc, hread, hsc⟩
        simp [Style.extract, hread, hsc]
      · have hnone := @Datadog.extract_of_hasNone _ config (hcarried.noDatadog hmem)
        simp [Style.extract, hnone, hmem]
  | traceContext =>
      by_cases hmem : .traceContext ∈ styles
      · rcases TraceContext.says_of_headers ord hw3c ht hs (hcarried.traceContext hmem) with
          ⟨sc, hread, hsc, -⟩
        simp [Style.extract, hread, hsc]
      · have hnone := TraceContext.extract_of_none ord (hcarried.noTraceContext hmem)
        simp [Style.extract, hnone, hmem]

end Styles

namespace DatadogCompositePropagator

variable {baggage : Baggage} {traceId : BitVec 128} {spanId : BitVec 64} {carrier : Carrier}
  {styles : List TracePropagationStyle} {context : InjectSpanContext}

/-- The tags of a context that go to every style: if the Datadog style comes first, the others get what
it added too. -/
def sentTags (self : DatadogCompositePropagator) (context : InjectSpanContext) : Tags :=
  if self.injectors.head? = some .datadog then Datadog.headerTags context else context.tags

/-- Complete baggage is sent as it is. -/
theorem in_sentTags (self : DatadogCompositePropagator)
    (hfits : Datadog.FitsHeaders baggage traceId) (h : Sends baggage traceId spanId context)
    (hmechanism : context.sampling.mechanism = baggage.mechanism) :
    baggage.In context.sampling.priority context.origin (self.sentTags context) := by
  unfold sentTags
  split
  · exact (Datadog.starts_of_sends hfits h hmechanism).holds
  · exact h.holds

theorem inject_carried (ord : IterOrder Str Str) {self : DatadogCompositePropagator}
    (hfits : Datadog.FitsHeaders baggage context.traceId)
    (hroom : Datadog.Room baggage self.config)
    (ht : context.traceId ≠ 0) (hs : context.spanId ≠ 0) (hlocal : context.isRemote = false)
    (hnone : .none ∉ self.injectors) (hfresh : IsFresh carrier)
    (hin : baggage.In context.sampling.priority context.origin (self.sentTags context))
    (hmechanism : context.sampling.mechanism = baggage.mechanism) :
    Carried baggage context.traceId context.spanId self.injectors
      (self.inject ord context carrier).2 := by
  have hstart := hfresh.carried baggage context.traceId context.spanId
  unfold sentTags at hin
  unfold inject
  cases hinjectors : self.injectors with
  | nil => exact hstart
  | cons style next =>
      rw [hinjectors] at hin hnone
      by_cases hstyle : style = .datadog
      · -- the first style completes the tags for the others
        subst hstyle
        rw [List.head?_cons, if_pos rfl] at hin
        rcases hstart.inject_datadog ord hfits hroom ⟨rfl, rfl, hlocal, hin⟩ with ⟨hcarried, hsends⟩
        exact foldl_inject_carried ord hfits hroom ht hs (List.not_mem_of_not_mem_cons hnone) hcarried
          hsends hmechanism
      · rw [List.head?_cons, if_neg (by simpa using hstyle)] at hin
        exact foldl_inject_carried ord hfits hroom ht hs hnone hstart ⟨rfl, rfl, hlocal, hin⟩
          hmechanism

/-- A context that says the same is merged without a trace. -/
theorem says_resolveContext {primary other : SpanContext}
    (contexts : List (SpanContext × TracePropagationStyle)) (links : List SpanLink)
    (style : TracePropagationStyle) (hprimary : Says baggage traceId spanId primary)
    (hother : Says baggage traceId spanId other) :
    ∃ merged, resolveContext contexts (primary, links) (other, style) = (merged, links) ∧
      Says baggage traceId spanId merged := by
  have htraceId : other.traceId = primary.traceId :=
    hother.traceId_eq.trans hprimary.traceId_eq.symm
  have hspanId : primary.spanId = other.spanId :=
    hprimary.spanId_eq.trans hother.spanId_eq.symm
  have hmerge : Says baggage traceId spanId (mergeTraceContext contexts primary other) := by
    unfold mergeTraceContext
    cases other.tags.lookup TRACESTATE_KEY with
    | none => simpa [hspanId] using hprimary
    | some ts =>
        simp only [hspanId, ne_eq, not_true_eq_false, and_false, if_false]
        refine ⟨hprimary.traceId_eq, hother.spanId_eq, hprimary.isRemote,
          ⟨hprimary.holds.priority, hprimary.holds.origin, ?_⟩, hprimary.mechanism⟩
        -- the header is no propagation tag
        intro name
        rw [HashMap.lookup_insert_eq,
          if_neg (TraceContext.append_ne_of_isPrefixOf (by decide) name)]
        exact hprimary.holds.tags name
  unfold resolveContext
  simp only [htraceId, ne_eq, not_true_eq_false, and_false, if_false]
  by_cases hstyle : style = .traceContext
  · exact ⟨_, by simp only [hstyle, if_true], hmerge⟩
  · exact ⟨_, by simp only [hstyle, if_false], hprimary⟩

theorem says_foldl_resolveContext (contexts others : List (SpanContext × TracePropagationStyle))
    (links : List SpanLink) {primary : SpanContext}
    (hprimary : Says baggage traceId spanId primary)
    (hothers : ∀ c ∈ others, Says baggage traceId spanId c.1) :
    ∃ merged, others.foldl (resolveContext contexts) (primary, links) = (merged, links) ∧
      Says baggage traceId spanId merged := by
  induction others generalizing primary with
  | nil => exact ⟨primary, rfl, hprimary⟩
  | cons c others ih =>
      rcases c with ⟨context, style⟩
      rcases says_resolveContext contexts links style hprimary
        (hothers (context, style) (List.mem_cons_self ..)) with ⟨merged, hstep, hmerged⟩
      have hrest := ih hmerged fun c hc => hothers c (List.mem_cons_of_mem _ hc)
      simpa [List.foldl_cons, hstep] using hrest

/-- What any styles make of a carrier with the baggage says the baggage; and if one of them was
injected, there is something. -/
theorem says_of_carried (ord : IterOrder Str Str) (self : DatadogCompositePropagator)
    (hw3c : baggage.Fits) (hfits : Datadog.FitsHeaders baggage traceId)
    (hroom : Datadog.Room baggage self.config) (ht : traceId ≠ 0) (hs : spanId ≠ 0)
    (hcarried : Carried baggage traceId spanId styles carrier) :
    (∀ sc ∈ self.extract ord carrier, Says baggage traceId spanId sc ∧ sc.links = []) ∧
      ((∃ style ∈ self.extractors, style ≠ .none ∧ style ∈ styles) →
        (self.extract ord carrier).isSome = true) := by
  have hfound : ∀ c ∈ self.extractAvailableContexts ord carrier,
      Says baggage traceId spanId c.1 := by
    intro c hc
    rcases List.mem_filterMap.1 hc with ⟨style, -, hmap⟩
    rcases Option.map_eq_some_iff.1 hmap with ⟨sc, hextract, rfl⟩
    exact (hcarried.extract ord hw3c hfits hroom ht hs style).1 sc hextract
  constructor
  · intro sc hsc
    simp only [extract] at hsc
    cases hcontexts : self.extractAvailableContexts ord carrier with
    | nil => simp [hcontexts] at hsc
    | cons first others =>
        rw [hcontexts] at hsc hfound
        rcases says_foldl_resolveContext (first :: others) others []
          (hfound first (List.mem_cons_self ..))
          (fun c hc => hfound c (List.mem_cons_of_mem _ hc)) with ⟨merged, hfold, hmerged⟩
        simp only [Option.mem_def, Option.some.injEq, resolveContexts, hfold] at hsc
        subst hsc
        exact ⟨⟨hmerged.traceId_eq, hmerged.spanId_eq, hmerged.isRemote, hmerged.holds,
          hmerged.mechanism⟩, rfl⟩
  · rintro ⟨style, hstyle, hne, hmem⟩
    have hsome := (hcarried.extract ord hw3c hfits hroom ht hs style).2 hne hmem
    rcases Option.isSome_iff_exists.1 hsome with ⟨sc, hextract⟩
    have havailable : (sc, style) ∈ self.extractAvailableContexts ord carrier :=
      List.mem_filterMap.2 ⟨style, hstyle, by rw [hextract, Option.map_some]⟩
    simp only [extract]
    cases hcontexts : self.extractAvailableContexts ord carrier with
    | nil =>
        rw [hcontexts] at havailable
        cases havailable
    | cons first others => rfl

end DatadogCompositePropagator

end Propagation
end DdTrace
