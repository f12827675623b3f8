import Mathlib.Data.List.Forall2
import DdTrace.Otel.DdtraceTransform
import DdTrace.Otel.SpanProcessor

/-!
# ExportedDecision — the sampling decision of an exported chunk

When a chunk leaves the registry, the sampling decision, the origin and the tags of its trace are
appended to the attributes of its spans, which may hold the same keys already.  The mapping writes
one attribute after the other, so the appended ones count.  The main result,
`exported_chunk_carries_decision`, follows a chunk from the end of a span to the exporter.
-/

namespace DdTrace
namespace Otel

open DdTrace.Lib DdTrace.Core DdTrace.Mappings
open DdTrace.Propagation (SAMPLING_DECISION_MAKER_TAG_KEY)

variable (api : MappingApi) (cachedConfig : CachedConfig) (otelResource : Resource)

/-! ## The last attribute of a key -/

/-- The last attribute of an internal key is the value of its tag. -/
theorem lookup_last_attribute {k : Str} (hk : IsInternalKey k) {s : SpanData} {v : Str}
    (before after : List KeyValue)
    (hattributes : s.attributes = before ++ { key := k, value := .string v } :: after)
    (hafter : ∀ kv ∈ after, kv.key ≠ k) :
    (otelSpanToDdSpan api s otelResource).metaTags.lookup k =
      some (if k = HAS_EXCEPTION_KEY ∧ hasException s then "true".toList else v) := by
  have hwrite : ∀ ddSpan, (setAttribute api ddSpan
      { key := k, value := .string v }).metaTags.lookup k = some v := by
    intro ddSpan
    rw [setAttribute_string api hk]
    exact DdSpan.lookup_insertMeta_self ddSpan k v
  have hkeep : ∀ kv ∈ after, Frame.Keeps (fun ddSpan : DdSpan => ddSpan.metaTags.lookup k)
      fun ddSpan => setAttribute api ddSpan kv :=
    fun kv hkv => lookup_setAttribute_ne api hk (hafter kv hkv)
  have hspan : (SpanExtractArgs.new s otelResource).span = s := rfl
  rw [otelSpanToDdSpan, lookup_setTagsAfterAttributes api hk, hattributes, hspan]
  split_ifs
  · rfl
  · exact Frame.foldl_last_write hwrite hkeep _

/-- The last number under an internal key is the value of its metric, if only texts follow. -/
theorem metric_last_attribute {k : Str} (hk : IsInternalKey k) {s : SpanData} {n : Int64}
    (before after : List KeyValue)
    (hattributes : s.attributes = before ++ { key := k, value := .i64 n } :: after)
    (hafter : ∀ kv ∈ after, IsInternalKey kv.key ∧ ∃ text, kv.value = .string text) :
    (otelSpanToDdSpan api s otelResource).metrics.lookup k = some (Binary64.ofInt n.toInt) := by
  have hwrite : ∀ ddSpan, (setAttribute api ddSpan
      { key := k, value := .i64 n }).metrics.lookup k = some (Binary64.ofInt n.toInt) := by
    intro ddSpan
    rw [setAttribute_i64 api hk]
    exact AList.lookup_insert _
  have hkeep : ∀ kv ∈ after, Frame.Keeps (fun ddSpan : DdSpan => ddSpan.metrics.lookup k)
      fun ddSpan => setAttribute api ddSpan kv := by
    intro kv hkv ddSpan
    obtain ⟨hkey, text, htext⟩ := hafter kv hkv
    have hset : setAttribute api ddSpan kv = ddSpan.insertMeta kv.key text := by
      rw [← setAttribute_string api hkey, ← htext]
    calc
      (setAttribute api ddSpan kv).metrics.lookup k
          = (ddSpan.insertMeta kv.key text).metrics.lookup k := by rw [hset]
      _ = ddSpan.metrics.lookup k := rfl
  rw [otelSpanToDdSpan, metrics_setTagsAfterAttributes, hattributes]
  exact Frame.foldl_last_write hwrite hkeep _

/-! ## What the configuration adds -/

/-- An internal tag that is not a global one is exported as the mapping left it. -/
theorem lookup_otelSpanToExportedSpan {k : Str} (hk : IsInternalKey k)
    (h : ∀ tag ∈ cachedConfig.globalTags, tag.1 ≠ k) (s : SpanData) :
    (otelSpanToExportedSpan api cachedConfig otelResource s).metaTags.lookup k =
      (otelSpanToDdSpan api s otelResource).metaTags.lookup k := by
  have hconfig : Frame.Keeps (fun ddSpan : DdSpan => ddSpan.metaTags.lookup k)
      (addConfigMetadata api cachedConfig otelResource) :=
    keeps_addConfigMetadata api cachedConfig (ignoresPublicTags_lookup hk) (fun _ _ => rfl)
      (fun tag htag ddSpan => DdSpan.lookup_insertMeta_ne (Ne.symm (h tag htag)) ddSpan tag.2)
      otelResource
  have hsampling : Frame.Keeps (fun ddSpan : DdSpan => ddSpan.metaTags.lookup k)
      (otelSamplingToDdSampling s.spanContext.traceFlags) :=
    keeps_otelSamplingToDdSampling _ fun _ _ _ => rfl
  exact hconfig.comp hsampling _

theorem exported_last_attribute {k : Str} (hk : IsInternalKey k)
    (hglobal : ∀ tag ∈ cachedConfig.globalTags, tag.1 ≠ k) {s : SpanData} {v : Str}
    (before after : List KeyValue)
    (hattributes : s.attributes = before ++ { key := k, value := .string v } :: after)
    (hafter : ∀ kv ∈ after, kv.key ≠ k) :
    (otelSpanToExportedSpan api cachedConfig otelResource s).metaTags.lookup k =
      some (if k = HAS_EXCEPTION_KEY ∧ hasException s then "true".toList else v) := by
  rw [lookup_otelSpanToExportedSpan api cachedConfig otelResource hk hglobal]
  exact lookup_last_attribute api otelResource hk before after hattributes hafter

theorem exported_last_attribute_of_ne {k : Str} (hk : IsInternalKey k)
    (hne : k ≠ HAS_EXCEPTION_KEY)
    (hglobal : ∀ tag ∈ cachedConfig.globalTags, tag.1 ≠ k) {s : SpanData} {v : Str}
    (before after : List KeyValue)
    (hattributes : s.attributes = before ++ { key := k, value := .string v } :: after)
    (hafter : ∀ kv ∈ after, kv.key ≠ k) :
    (otelSpanToExportedSpan api cachedConfig otelResource s).metaTags.lookup k = some v := by
  rw [exported_last_attribute api cachedConfig otelResource hk hglobal before after hattributes
    hafter, if_neg fun h => hne h.1]

/-- A sampling priority that is there is exported. -/
theorem metric_otelSpanToExportedSpan {s : SpanData} {f : F64}
    (h : (otelSpanToDdSpan api s otelResource).metrics.lookup SAMPLING_PRIORITY_KEY = some f) :
    (otelSpanToExportedSpan api cachedConfig otelResource s).metrics.lookup
      SAMPLING_PRIORITY_KEY = some f := by
  have hconfig : Frame.Keeps DdSpan.metrics (addConfigMetadata api cachedConfig otelResource) :=
    keeps_addConfigMetadata api cachedConfig ignoresPublicTags_metrics (fun _ _ => rfl)
      (fun _ _ _ => rfl) otelResource
  rw [otelSpanToExportedSpan, hconfig, otelSamplingToDdSampling, h]
  exact h

/-! ## The attributes of a chunk -/

def ORIGIN_KEY : Str := "_dd.origin".toList

section Attributes

variable (ord : IterOrder Str Str) (trace : Trace)

def tagAttributes (s : SpanData) : List KeyValue :=
  if s.spanContext.spanId = trace.localRootSpanId then
    match trace.propagationData.tags with
    | some tags => (ord.iter tags).map fun (key, value) => { key := key, value := .string value }
    | none => []
  else []

def originAttributes : List KeyValue :=
  let origin := trace.propagationData.origin.getD []
  if origin.isEmpty then [] else [{ key := ORIGIN_KEY, value := .string origin }]

def priorityAttributes : List KeyValue :=
  match trace.propagationData.samplingDecision.priority with
  | some priority =>
      [{ key := SAMPLING_PRIORITY_KEY, value := .i64 priority.intoI8.toInt64 }]
  | none => []

def mechanismAttributes : List KeyValue :=
  match trace.propagationData.samplingDecision.mechanism with
  | some mechanism =>
      [{ key := SAMPLING_DECISION_MAKER_TAG_KEY, value := .string mechanism.toCow }]
  | none => []

/-- A span with what is appended to its attributes. -/
def withPropagationData (s : SpanData) : SpanData :=
  { s with
    attributes :=
      s.attributes ++ tagAttributes ord trace s ++ originAttributes trace ++
        priorityAttributes trace ++ mechanismAttributes trace }

theorem addTracePropagationData_eq :
    DatadogSpanProcessor.addTracePropagationData ord trace =
      trace.finishedSpans.map (withPropagationData ord trace) := rfl

variable {trace} {kv : KeyValue}

theorem key_of_mem_originAttributes (h : kv ∈ originAttributes trace) : kv.key = ORIGIN_KEY := by
  simp only [originAttributes] at h
  split_ifs at h
  · cases h
  · rw [List.mem_singleton.1 h]

theorem key_of_mem_priorityAttributes (h : kv ∈ priorityAttributes trace) :
    kv.key = SAMPLING_PRIORITY_KEY := by
  simp only [priorityAttributes] at h
  split at h
  · rw [List.mem_singleton.1 h]
  · cases h

theorem key_of_mem_mechanismAttributes (h : kv ∈ mechanismAttributes trace) :
    kv.key = SAMPLING_DECISION_MAKER_TAG_KEY := by
  simp only [mechanismAttributes] at h
  split at h
  · rw [List.mem_singleton.1 h]
  · cases h

theorem text_of_mem_mechanismAttributes (h : kv ∈ mechanismAttributes trace) :
    IsInternalKey kv.key ∧ ∃ text, kv.value = .string text := by
  refine ⟨?_, ?_⟩
  · rw [key_of_mem_mechanismAttributes h]
    decide
  · simp only [mechanismAttributes] at h
    split at h
    · rw [List.mem_singleton.1 h]
      exact ⟨_, rfl⟩
    · cases h

/-- A tag of the trace, as an attribute of the local root: no other tag has its key. -/
theorem tagAttributes_split {s : SpanData} {tags : HashMap Str Str} {k v : Str}
    (hroot : s.spanContext.spanId = trace.localRootSpanId)
    (htags : trace.propagationData.tags = some tags) (hkv : tags.lookup k = some v) :
    ∃ before after, tagAttributes ord trace s =
        before ++ { key := k, value := .string v } :: after ∧
      ∀ kv ∈ after, kv.key ≠ k := by
  obtain ⟨before, after, hsplit⟩ := List.append_of_mem ((ord.mem_iter).2 hkv)
  have hnodup : ((before ++ (k, v) :: after).map Prod.fst).Nodup := by
    rw [← hsplit]
    exact ord.nodup_iter tags
  have hafter : ∀ e ∈ after, e.1 ≠ k := by
    intro e he heq
    rw [List.map_append, List.map_cons, List.nodup_append, List.nodup_cons] at hnodup
    exact hnodup.2.1.1 (List.mem_map.2 ⟨e, he, heq⟩)
  refine ⟨before.map fun e => { key := e.1, value := .string e.2 },
    after.map fun e => { key := e.1, value := .string e.2 }, ?_, ?_⟩
  · simp only [tagAttributes, if_pos hroot, htags, hsplit, List.map_append, List.map_cons]
  · intro kv hmem
    obtain ⟨e, he, rfl⟩ := List.mem_map.1 hmem
    exact hafter e he

end Attributes

/-! ## The exported chunk -/

/-- An exported span has the decision of its trace, and the local root the tags. -/
structure CarriesDecision (localRootSpanId : SpanId) (propagationData : TracePropagationData)
    (p : SamplingPriority) (m : SamplingMechanism) (s : SpanData) (ddSpan : DdSpan) : Prop where
  priority : ∃ f, ddSpan.metrics.lookup SAMPLING_PRIORITY_KEY = some f ∧
    Binary64.toInt? f = some p.intoI8.toInt
  mechanism : ddSpan.metaTags.lookup SAMPLING_DECISION_MAKER_TAG_KEY = some m.toCow
  origin : ∀ o, propagationData.origin = some o → o ≠ [] →
    ddSpan.metaTags.lookup ORIGIN_KEY = some o
  /-- The tag of exception events is about the exported span, not about the trace. -/
  tags : s.spanContext.spanId = localRootSpanId →
    ∀ tags, propagationData.tags = some tags →
    ∀ k v, tags.lookup k = some v → "_dd.".toList.isPrefixOf k = true →
    k ≠ SAMPLING_DECISION_MAKER_TAG_KEY → k ≠ ORIGIN_KEY →
    (∀ tag ∈ cachedConfig.globalTags, tag.1 ≠ k) →
    ddSpan.metaTags.lookup k =
      some (if k = HAS_EXCEPTION_KEY ∧ hasException s then "true".toList else v)

theorem isInternalKey_of_dd {k : Str} (h : "_dd.".toList.isPrefixOf k = true) :
    IsInternalKey k := by
  obtain ⟨rest, rfl⟩ := List.isPrefixOf_iff_prefix.1 h
  rfl

variable (ord : IterOrder Str Str)

section Exported

variable {trace : Trace} (s : SpanData)

/-- Only the mechanism comes after the priority. -/
theorem exported_priority {p : SamplingPriority}
    (hp : trace.propagationData.samplingDecision.priority = some p) :
    ∃ f, (otelSpanToExportedSpan api cachedConfig otelResource
        (withPropagationData ord trace s)).metrics.lookup SAMPLING_PRIORITY_KEY = some f ∧
      Binary64.toInt? f = some p.intoI8.toInt := by
  have hpriority : priorityAttributes trace =
      [{ key := SAMPLING_PRIORITY_KEY, value := .i64 p.intoI8.toInt64 }] := by
    rw [priorityAttributes, hp]
  have hattributes : (withPropagationData ord trace s).attributes =
      (s.attributes ++ tagAttributes ord trace s ++ originAttributes trace) ++
        { key := SAMPLING_PRIORITY_KEY, value := .i64 p.intoI8.toInt64 } ::
          mechanismAttributes trace := by
    simp [withPropagationData, hpriority]
  have hmetric := metric_last_attribute api otelResource (by decide) _ _ hattributes
    fun kv => text_of_mem_mechanismAttributes
  refine ⟨Binary64.ofInt p.intoI8.toInt64.toInt,
    metric_otelSpanToExportedSpan api cachedConfig otelResource hmetric, ?_⟩
  have hlo : -128 ≤ p.intoI8.toInt := Int8.le_toInt p.intoI8
  have hhi : p.intoI8.toInt < 128 := Int8.toInt_lt p.intoI8
  rw [Int8.toInt_toInt64]
  exact Binary64.toInt?_ofInt (by omega)

/-- The mechanism comes last. -/
theorem exported_mechanism {m : SamplingMechanism}
    (hm : trace.propagationData.samplingDecision.mechanism = some m)
    (hglobal : ∀ tag ∈ cachedConfig.globalTags, tag.1 ≠ SAMPLING_DECISION_MAKER_TAG_KEY) :
    (otelSpanToExportedSpan api cachedConfig otelResource
        (withPropagationData ord trace s)).metaTags.lookup SAMPLING_DECISION_MAKER_TAG_KEY =
      some m.toCow := by
  have hmechanism : mechanismAttributes trace =
      [{ key := SAMPLING_DECISION_MAKER_TAG_KEY, value := .string m.toCow }] := by
    rw [mechanismAttributes, hm]
  refine exported_last_attribute_of_ne api cachedConfig otelResource (by decide) (by decide)
    hglobal
    (s.attributes ++ tagAttributes ord trace s ++ originAttributes trace ++
      priorityAttributes trace) [] ?_ ?_
  · simp [withPropagationData, hmechanism]
  · intro kv hkv
    cases hkv

/-- The priority and the mechanism come after the origin. -/
theorem exported_origin {o : Str} (ho : trace.propagationData.origin = some o) (hne : o ≠ [])
    (hglobal : ∀ tag ∈ cachedConfig.globalTags, tag.1 ≠ ORIGIN_KEY) :
    (otelSpanToExportedSpan api cachedConfig otelResource
        (withPropagationData ord trace s)).metaTags.lookup ORIGIN_KEY = some o := by
  have horigin : originAttributes trace = [{ key := ORIGIN_KEY, value := .string o }] := by
    simp [originAttributes, ho, hne]
  have hkeys : SAMPLING_PRIORITY_KEY ≠ ORIGIN_KEY ∧
      SAMPLING_DECISION_MAKER_TAG_KEY ≠ ORIGIN_KEY := by decide
  refine exported_last_attribute_of_ne api cachedConfig otelResource (by decide) (by decide)
    hglobal (s.attributes ++ tagAttributes ord trace s)
    (priorityAttributes trace ++ mechanismAttributes trace) ?_ ?_
  · simp [withPropagationData, horigin]
  · intro kv hkv
    rcases List.mem_append.1 hkv with hkv | hkv
    · rw [key_of_mem_priorityAttributes hkv]
      exact hkeys.1
    · rw [key_of_mem_mechanismAttributes hkv]
      exact hkeys.2

/-- Nothing that comes after a tag on the local root has its key. -/
theorem exported_tag {s : SpanData} (hroot : s.spanContext.spanId = trace.localRootSpanId)
    {tags : HashMap Str Str} (htags : trace.propagationData.tags = some tags) {k v : Str}
    (hkv : tags.lookup k = some v) (hdd : "_dd.".toList.isPrefixOf k = true)
    (hdm : k ≠ SAMPLING_DECISION_MAKER_TAG_KEY) (horigin : k ≠ ORIGIN_KEY)
    (hglobal : ∀ tag ∈ cachedConfig.globalTags, tag.1 ≠ k) :
    (otelSpanToExportedSpan api cachedConfig otelResource
        (withPropagationData ord trace s)).metaTags.lookup k =
      some (if k = HAS_EXCEPTION_KEY ∧ hasException (withPropagationData ord trace s) then
        "true".toList else v) := by
  obtain ⟨before, after, hsplit, hafter⟩ := tagAttributes_split ord hroot htags hkv
  have hpriority : SAMPLING_PRIORITY_KEY ≠ k := by
    intro heq
    rw [← heq] at hdd
    exact absurd hdd (by decide)
  refine exported_last_attribute api cachedConfig otelResource (isInternalKey_of_dd hdd) hglobal
    (s.attributes ++ before)
    (after ++ originAttributes trace ++ priorityAttributes trace ++ mechanismAttributes trace)
    ?_ ?_
  · simp [withPropagationData, hsplit]
  · intro kv hmem
    simp only [List.mem_append] at hmem
    rcases hmem with ((hmem | hmem) | hmem) | hmem
    · exact hafter kv hmem
    · rw [key_of_mem_originAttributes hmem]
      exact Ne.symm horigin
    · rw [key_of_mem_priorityAttributes hmem]
      exact hpriority
    · rw [key_of_mem_mechanismAttributes hmem]
      exact Ne.symm hdm

end Exported

theorem carriesDecision_withPropagationData (trace : Trace) {p : SamplingPriority}
    {m : SamplingMechanism}
    (hp : trace.propagationData.samplingDecision.priority = some p)
    (hm : trace.propagationData.samplingDecision.mechanism = some m)
    (hglobal : ∀ tag ∈ cachedConfig.globalTags,
      tag.1 ≠ SAMPLING_DECISION_MAKER_TAG_KEY ∧ tag.1 ≠ ORIGIN_KEY) (s : SpanData) :
    CarriesDecision cachedConfig trace.localRootSpanId trace.propagationData p m
      (withPropagationData ord trace s)
      (otelSpanToExportedSpan api cachedConfig otelResource (withPropagationData ord trace s)) := by
  refine
    { priority := exported_priority api cachedConfig otelResource ord s hp
      mechanism := ?_
      origin := ?_
      tags := ?_ }
  · exact exported_mechanism api cachedConfig otelResource ord s hm
      fun tag htag => (hglobal tag htag).1
  · intro o ho hne
    exact exported_origin api cachedConfig otelResource ord s ho hne
      fun tag htag => (hglobal tag htag).2
  · intro hroot tags htags k v hkv hdd hdm horigin hk
    have hlocalRoot : s.spanContext.spanId = trace.localRootSpanId := hroot
    exact exported_tag api cachedConfig otelResource ord hlocalRoot htags hkv hdd hdm horigin hk

/-- Marking the local root changes no span context. -/
theorem map_spanContext_pushToFirst (spanId : SpanId) (kv : KeyValue) (spans : List SpanData) :
    (DatadogSpanProcessor.pushToFirst spanId kv spans).map SpanData.spanContext =
      spans.map SpanData.spanContext := by
  induction spans with
  | nil => rfl
  | cons s spans ih =>
      simp only [DatadogSpanProcessor.pushToFirst]
      split_ifs
      · rfl
      · rw [List.map_cons, List.map_cons, ih]

/-- What is exported of a chunk: its spans, of which the first local root may be marked. -/
theorem onEnd_exported {config : Config} {registry : TraceRegistry} {span : SpanData}
    {trace : Trace} {spans : List SpanData}
    (h : (DatadogSpanProcessor.onEnd ord config registry span).1 = (some trace, some spans)) :
    ∃ marked : List SpanData,
      spans = DatadogSpanProcessor.addTracePropagationData ord
        { trace with finishedSpans := marked } ∧
      marked.map SpanData.spanContext = trace.finishedSpans.map SpanData.spanContext := by
  simp only [DatadogSpanProcessor.onEnd] at h
  split at h
  · cases h
  · split_ifs at h with henabled hflush
    · cases h
    · cases h
      exact ⟨_, rfl, map_spanContext_pushToFirst _ _ _⟩
    · cases h
      exact ⟨_, rfl, rfl⟩

/-- Every span of a chunk that is exported carries the decision of the trace, and the local root its
tags. -/
theorem exported_chunk_carries_decision (config : Config) (registry : TraceRegistry)
    (span : SpanData) {trace : Trace} {spans : List SpanData}
    (hend : (DatadogSpanProcessor.onEnd ord config registry span).1 = (some trace, some spans))
    {p : SamplingPriority} {m : SamplingMechanism}
    (hp : trace.propagationData.samplingDecision.priority = some p)
    (hm : trace.propagationData.samplingDecision.mechanism = some m)
    (hglobal : ∀ tag ∈ cachedConfig.globalTags,
      tag.1 ≠ SAMPLING_DECISION_MAKER_TAG_KEY ∧ tag.1 ≠ ORIGIN_KEY) :
    spans.map SpanData.spanContext = trace.finishedSpans.map SpanData.spanContext ∧
    List.Forall₂
      (CarriesDecision cachedConfig trace.localRootSpanId trace.propagationData p m) spans
      (otelTraceChunkToDdTraceChunk api cachedConfig spans otelResource) := by
  obtain ⟨marked, rfl, hmarked⟩ := onEnd_exported ord hend
  rw [addTracePropagationData_eq]
  constructor
  · rw [List.map_map]
    exact hmarked
  · rw [otelTraceChunkToDdTraceChunk, List.forall₂_map_right_iff, List.forall₂_same]
    intro s hs
    obtain ⟨s, -, rfl⟩ := List.mem_map.1 hs
    exact carriesDecision_withPropagationData api cachedConfig otelResource ord _ hp hm hglobal s

/-! A trace of one span that was continued from another service, with one tag. -/

def samplePropagationData (k v : Str) : TracePropagationData :=
  { samplingDecision :=
      { priority := some Priority.userKeep
        mechanism := some Mechanism.manual }
    origin := some "rum".toList
    tags := some (.ofPairs [(k, v)]) }

def sampleRegistry (k v : Str) : TraceRegistry :=
  ((TraceRegistry.new defaultConfig BitVec.toNat).registerLocalRootTracePropagationData 1
    (samplePropagationData k v)).2.registerLocalRootSpan 1 2

def sampleDdTags : CachedConfig :=
  { service := "my-service".toList
    globalTags := [("team".toList, "tracing".toList)]
    version := none }

/-- A span with a sampling priority of its own. -/
def sampleRootSpan (events : List SpanEvent) : SpanData :=
  { SpanData.ofIds 1 2 with
    attributes := [{ key := SAMPLING_PRIORITY_KEY, value := .i64 (-1) }]
    events := events }

/-- The chunk that the end of the span returns. -/
def sampleChunk (k v : Str) (events : List SpanEvent) : Trace :=
  { localRootSpanId := 2
    finishedSpans := [sampleRootSpan events]
    openSpanCount := 0
    propagationData := samplePropagationData k v }

theorem onEnd_sampleRootSpan (k v : Str) (events : List SpanEvent) :
    (DatadogSpanProcessor.onEnd (.asStored Str Str) defaultConfig (sampleRegistry k v)
      (sampleRootSpan events)).1 =
        (some (sampleChunk k v events),
          some (DatadogSpanProcessor.addTracePropagationData (.asStored Str Str)
            (sampleChunk k v events))) := rfl

/-- The spans that are exported then. -/
def sampleSpans (k v : Str) (events : List SpanEvent) : List SpanData :=
  DatadogSpanProcessor.addTracePropagationData (.asStored Str Str) (sampleChunk k v events)

theorem exported_chunk_carries_decision_sample :
    List.Forall₂
      (CarriesDecision sampleDdTags 2 (samplePropagationData "_dd.p.usr.id".toList "7".toList)
        Priority.userKeep Mechanism.manual)
      (sampleSpans "_dd.p.usr.id".toList "7".toList [])
      (otelTraceChunkToDdTraceChunk .plain sampleDdTags
        (sampleSpans "_dd.p.usr.id".toList "7".toList []) ∅) :=
  (exported_chunk_carries_decision .plain sampleDdTags ∅ (.asStored Str Str) defaultConfig
    (sampleRegistry "_dd.p.usr.id".toList "7".toList) (sampleRootSpan [])
    (onEnd_sampleRootSpan "_dd.p.usr.id".toList "7".toList []) rfl rfl (by decide)).2

def exceptionEvent : SpanEvent :=
  { name := "exception".toList
    timestamp := 0
    attributes := [] }

/-- On a local root with an exception event, a tag of the trace is not exported with its value. -/
theorem exception_tag_overwritten :
    (DatadogSpanProcessor.onEnd (.asStored Str Str) defaultConfig
      (sampleRegistry HAS_EXCEPTION_KEY "false".toList) (sampleRootSpan [exceptionEvent])).1 =
        (some (sampleChunk HAS_EXCEPTION_KEY "false".toList [exceptionEvent]),
          some (sampleSpans HAS_EXCEPTION_KEY "false".toList [exceptionEvent])) ∧
    "_dd.".toList.isPrefixOf HAS_EXCEPTION_KEY = true ∧
    (samplePropagationData HAS_EXCEPTION_KEY "false".toList).tags =
      some (.ofPairs [(HAS_EXCEPTION_KEY, "false".toList)]) ∧
    (otelTraceChunkToDdTraceChunk .plain sampleDdTags
        (sampleSpans HAS_EXCEPTION_KEY "false".toList [exceptionEvent]) ∅).map
      (fun ddSpan => ddSpan.metaTags.lookup HAS_EXCEPTION_KEY) = [some "true".toList] := by
  refine ⟨onEnd_sampleRootSpan HAS_EXCEPTION_KEY "false".toList [exceptionEvent], by decide, rfl,
    ?_⟩
  have hcarries := carriesDecision_withPropagationData .plain sampleDdTags ∅ (.asStored Str Str)
    (sampleChunk HAS_EXCEPTION_KEY "false".toList [exceptionEvent]) rfl rfl (by decide)
    (sampleRootSpan [exceptionEvent])
  have htag := hcarries.tags rfl _ rfl HAS_EXCEPTION_KEY "false".toList rfl (by decide)
    (by decide) (by decide) (by decide)
  rw [if_pos ⟨rfl, by decide⟩] at htag
  exact congrArg (fun value => [value]) htag

end Otel
end DdTrace
