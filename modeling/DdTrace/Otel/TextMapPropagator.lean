import DdTrace.Otel.TraceRegistry
import DdTrace.Propagation.Datadog

/-!
# TextMapPropagator — contexts to carriers and back

`injectContext` writes the context of a span to a carrier, with the propagation data that the registry
holds for its trace.  `extractWithContext` reads a context from a carrier; what the span context has no
place for goes into the context as `DatadogExtractData`.  A trace without a sampling priority is given
the flags `TRACE_FLAG_DEFERRED`.

How the API reads and checks the text of a trace state is a parameter (`TraceStateApi`).
-/

namespace DdTrace
namespace Otel

open DdTrace.Lib DdTrace.Core

def TRACE_FLAG_DEFERRED : TraceFlags := 0x02

structure DatadogExtractData where
  links : List Propagation.SpanLink
  origin : Option Str
  internalTags : HashMap Str Str
  sampling : Propagation.Sampling

/-- A context: the span that is active in it, and the data of the last extraction. -/
structure Context where
  activeSpan : Option SpanContext
  extractData : Option DatadogExtractData

namespace Context

/-- The context without anything in it. -/
def new : Context := { activeSpan := none, extractData := none }

def hasActiveSpan (self : Context) : Bool := self.activeSpan.isSome

/-- The context of the active span, or of none. -/
def spanContext (self : Context) : SpanContext := self.activeSpan.getD .empty

def withSpanContext (self : Context) (spanContext : SpanContext) : Context :=
  { self with activeSpan := some spanContext }

def withValue (self : Context) (data : DatadogExtractData) : Context :=
  { self with extractData := some data }

end Context

/-- The functions of the API that read a trace state. -/
structure TraceStateApi where
  /-- A trace state of these members, if they are valid. -/
  fromKeyValue : List (Str × Str) → Option TraceState
  /-- The trace state of a header, if it is valid. -/
  fromStr : Str → Option TraceState

namespace DatadogExtractData

def fromSpanContext (ord : IterOrder Str Str) (sc : Propagation.SpanContext) :
    DatadogExtractData :=
  { links := sc.links
    origin := sc.origin
    internalTags := .ofPairs ((ord.iter sc.tags).filter fun tag => "_dd.".toList.isPrefixOf tag.1)
    sampling := sc.sampling }

end DatadogExtractData

def extractTraceFlags (sc : Propagation.SpanContext) : TraceFlags :=
  match sc.sampling.priority with
  | some priority => if priority.isKeep then .sampled else 0
  | none => TRACE_FLAG_DEFERRED

def extractTraceStateFromContext (api : TraceStateApi) (sc : Propagation.SpanContext) :
    TraceState :=
  let tracestate := do
    let tracestate ← sc.tracestate
    let additional ← tracestate.additionalValues
    api.fromKeyValue additional
  tracestate.getD none

structure DatadogPropagator where
  inner : Propagation.DatadogCompositePropagator
  cfg : Config

namespace DatadogPropagator

def new (config : Config) : DatadogPropagator :=
  { inner := .new config, cfg := config }

/-- The sampling that is injected: the decision of the trace, or else the flags of the span. -/
def injectedSampling (propagationData : TracePropagationData) (otelSpanContext : SpanContext) :
    Propagation.Sampling :=
  match propagationData.samplingDecision.priority with
  | some priority =>
      { priority := some priority
        mechanism := propagationData.samplingDecision.mechanism }
  | none =>
      { priority :=
          some
            (if otelSpanContext.traceFlags.isSampled then Priority.autoKeep
            else Priority.autoReject)
        mechanism := none }

/-- The context that is handed to the inner propagator. -/
def ddSpanContext (propagationData : TracePropagationData) (otelSpanContext : SpanContext) :
    Propagation.InjectSpanContext :=
  { traceId := otelSpanContext.traceId
    spanId := otelSpanContext.spanId
    sampling := injectedSampling propagationData otelSpanContext
    origin := propagationData.origin
    tags := propagationData.tags.getD ∅
    isRemote := otelSpanContext.isRemote
    tracestate :=
      if otelSpanContext.traceState = none then none
      else some { header := otelSpanContext.traceState.header } }

variable (ord : IterOrder Str Str) (api : TraceStateApi)

/-- The tags that the inner propagator adds stay with the copy that is injected. -/
def injectContext (self : DatadogPropagator) (registry : TraceRegistry) (cx : Context)
    (injector : Propagation.Carrier) : Propagation.Carrier :=
  if !self.cfg.enabled then injector
  else if !cx.spanContext.isValid then injector
  else
    let propagationData := registry.getTracePropagationData cx.spanContext.traceId
    (self.inner.inject ord (ddSpanContext propagationData cx.spanContext) injector).2

def extractWithContext (self : DatadogPropagator) (cx : Context)
    (extractor : Propagation.Carrier) : Context :=
  if !self.cfg.enabled then cx
  else
    match self.inner.extract ord extractor with
    | none => cx
    | some ddSpanContext =>
        -- the span context goes into the context, the rest of the data beside it
        let otelSpanContext : SpanContext :=
          { traceId := ddSpanContext.traceId
            spanId := ddSpanContext.spanId
            traceFlags := extractTraceFlags ddSpanContext
            isRemote := ddSpanContext.isRemote
            traceState := extractTraceStateFromContext api ddSpanContext }
        (cx.withSpanContext otelSpanContext).withValue (.fromSpanContext ord ddSpanContext)

end DatadogPropagator

end Otel
end DdTrace
