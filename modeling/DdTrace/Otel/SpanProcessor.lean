import DdTrace.Otel.TextMapPropagator

/-!
# SpanProcessor — the start and the end of a span

`onStart` registers a span with its trace: as the local root if its parent is remote or missing, as a
child otherwise.  `onEnd` finishes it; a chunk that the registry returns gets the propagation data of
the trace as attributes and is exported.
-/

namespace DdTrace
namespace Otel

open DdTrace.Lib DdTrace.Core

/-- A started span. -/
structure Span where
  spanContext : SpanContext
  isRecording : Bool

namespace DatadogSpanProcessor

variable (ord : IterOrder Str Str) (api : TraceStateApi)

/-- A span link as the API knows it: of the trace id, the lower half. -/
def toLink (link : Propagation.SpanLink) : Link :=
  { spanContext :=
      { traceId := link.traceId.setWidth 128
        spanId := link.spanId
        traceFlags := (link.flags.getD 0).setWidth 8
        isRemote := false
        traceState := (link.tracestate.bind api.fromStr).getD none }
    attributes :=
      match link.attributes with
      | some attributes =>
          (ord.iter attributes).map fun (key, value) => { key := key, value := .string value }
      | none => [] }

/-- The links found during extraction, for the root span. -/
def addRemoteLinks (parentCtx : Context) : List Link :=
  match parentCtx.extractData with
  | some data => data.links.map (toLink ord api)
  | none => []

/-- The links that are added to the span, and the registry with the span in it. -/
def onStart (config : Config) (registry : TraceRegistry) (span : Span) (parentCtx : Context) :
    List Link × TraceRegistry :=
  if !config.enabled || !span.isRecording || !span.spanContext.isValid then ([], registry)
  else
    let traceId := span.spanContext.traceId
    let spanId := span.spanContext.spanId
    if parentCtx.spanContext.isRemote then
      (addRemoteLinks ord api parentCtx, registry.registerLocalRootSpan traceId spanId)
    else if !parentCtx.hasActiveSpan then ([], registry.registerLocalRootSpan traceId spanId)
    else ([], registry.registerSpan traceId spanId emptyPropagationData)

/-- The local root gets the tags, every span the origin and the sampling decision. -/
def addTracePropagationData (trace : Trace) : List SpanData :=
  let propagationData := trace.propagationData
  let origin := propagationData.origin.getD []
  trace.finishedSpans.map fun span =>
    let tags : List KeyValue :=
      if span.spanContext.spanId = trace.localRootSpanId then
        match propagationData.tags with
        | some tags =>
            (ord.iter tags).map fun (key, value) => { key := key, value := .string value }
        | none => []
      else []
    let origin : List KeyValue :=
      if origin.isEmpty then [] else [{ key := "_dd.origin".toList, value := .string origin }]
    let priority : List KeyValue :=
      match propagationData.samplingDecision.priority with
      | some priority =>
          [{ key := "_sampling_priority_v1".toList, value := .i64 priority.intoI8.toInt64 }]
      | none => []
    let mechanism : List KeyValue :=
      match propagationData.samplingDecision.mechanism with
      | some mechanism =>
          [{ key := Propagation.SAMPLING_DECISION_MAKER_TAG_KEY
             value := .string mechanism.toCow }]
      | none => []
    { span with attributes := span.attributes ++ tags ++ origin ++ priority ++ mechanism }

/-- The first span with this id gets one more attribute. -/
def pushToFirst (spanId : SpanId) (kv : KeyValue) : List SpanData → List SpanData
  | [] => []
  | span :: spans =>
      if span.spanContext.spanId = spanId then
        { span with attributes := span.attributes ++ [kv] } :: spans
      else span :: pushToFirst spanId kv spans

/-- The chunk that the registry returns, the spans that are exported, and the registry. -/
def onEnd (config : Config) (registry : TraceRegistry) (span : SpanData) :
    (Option Trace × Option (List SpanData)) × TraceRegistry :=
  let (chunk, registry) := registry.finishSpan span.spanContext.traceId span
  match chunk with
  | none => ((none, none), registry)
  | some trace =>
      -- a disabled processor drops the chunk that it took out of the registry
      if !config.enabled then ((some trace, none), registry)
      else
        let marked :=
          if config.tracePartialFlushEnabled then
            { trace with
              finishedSpans :=
                pushToFirst trace.localRootSpanId
                  { key := "_top_level".toList, value := .f64 .one } trace.finishedSpans }
          else trace
        ((some trace, some (addTracePropagationData ord marked)), registry)

/-- A started span is registered without a sampling decision, if at all. -/
theorem onStart_registry (config : Config) (registry : TraceRegistry) (span : Span)
    (parentCtx : Context) :
    (onStart ord api config registry span parentCtx).2 = registry ∨
    ∃ op, (onStart ord api config registry span parentCtx).2 =
        (registry.call ⟨span.spanContext.traceId, op⟩).2 ∧
      (op = .registerLocalRootSpan span.spanContext.spanId ∨
        op = .registerSpan span.spanContext.spanId emptyPropagationData) := by
  -- not registered; a remote parent; no parent; a local parent
  simp only [onStart]
  split_ifs
  · exact .inl rfl
  · exact .inr ⟨_, registry.registerLocalRootSpan_eq _ _, .inl rfl⟩
  · exact .inr ⟨_, registry.registerLocalRootSpan_eq _ _, .inl rfl⟩
  · exact .inr ⟨_, registry.registerSpan_eq _ _ _, .inr rfl⟩

/-- The chunk and the registry are those of `finishSpan`. -/
theorem onEnd_chunk (config : Config) (registry : TraceRegistry) (span : SpanData) :
    (onEnd ord config registry span).1.1 =
      (registry.finishSpan span.spanContext.traceId span).1 := by
  simp only [onEnd]
  split
  · rename_i hnone
    exact hnone.symm
  · rename_i trace hsome
    rw [hsome]
    split
    · rfl
    · rfl

theorem onEnd_registry (config : Config) (registry : TraceRegistry) (span : SpanData) :
    (onEnd ord config registry span).2 =
      (registry.finishSpan span.spanContext.traceId span).2 := by
  simp only [onEnd]
  split
  · rfl
  · split
    · rfl
    · rfl

end DatadogSpanProcessor

end Otel
end DdTrace
