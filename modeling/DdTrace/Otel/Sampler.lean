import DdTrace.Otel.TextMapPropagator

/-!
# Sampler — the sampling decision for a new span

A span with a parent that was sampled or not inherits that; for others the rules, the rate limiter and
the service rates decide (`sampleRoot`).  What these answer for a span is taken as given
(`RootAnswers`), so that the results hold for any rules, rates and limits, and for any changes of them.
`shouldSample` stores the decision with the trace, or returns the one that is stored already.
-/

namespace DdTrace
namespace Otel

open DdTrace.Lib DdTrace.Core

/-! ## The decision for a root span -/

/-- The rule that matches a span: where it comes from, its rate, and whether it samples the trace. -/
structure RuleAnswer where
  provenance : Str
  sampleRate : F64
  sample : Bool

/-- The service rate for a span, and whether it samples the trace. -/
structure ServiceAnswer where
  sampleRate : F64
  sample : Bool

/-- What is answered for a root span. -/
structure RootAnswers where
  matchingRule : Option RuleAnswer
  isAllowed : Bool
  effectiveRate : Int32
  serviceSampler : Option ServiceAnswer

structure TraceRootSamplingInfo where
  priority : SamplingPriority
  mechanism : SamplingMechanism
  rate : F64
  rlEffectiveRate : Option Int32

structure DdSamplingResult where
  isKeep : Bool
  traceRootInfo : Option TraceRootSamplingInfo

/-- The decision as the API knows it. -/
inductive OtelSamplingDecision
  | drop
  | recordOnly
  | recordAndSample
  deriving DecidableEq, Repr

structure SamplingResult where
  decision : OtelSamplingDecision
  attributes : List KeyValue
  traceState : TraceState

namespace DatadogSampler

def getSamplingMechanism (rule : Option RuleAnswer) (usedAgentSampler : Bool) :
    SamplingMechanism :=
  match rule with
  | some rule =>
      if rule.provenance = "customer".toList then Mechanism.remoteUserTraceSamplingRule
      else if rule.provenance = "dynamic".toList then Mechanism.remoteDynamicTraceSamplingRule
      else Mechanism.localUserTraceSamplingRule
  | none => if usedAgentSampler then Mechanism.agentRateByService else Mechanism.default

def sampleRoot (answers : RootAnswers) : DdSamplingResult :=
  let (isKeep, usedAgentSampler, sampleRate, rlEffectiveRate) :
      Bool × Bool × F64 × Option Int32 :=
    match answers.matchingRule with
    | some rule =>
        -- the limiter is asked only about traces that the rule keeps
        if !rule.sample then (false, false, rule.sampleRate, none)
        else if !answers.isAllowed then (false, false, rule.sampleRate, some answers.effectiveRate)
        else (true, false, rule.sampleRate, none)
    | none =>
        match answers.serviceSampler with
        | some sampler => (sampler.sample, true, sampler.sampleRate, none)
        -- without a rule and a rate of the agent everything is kept
        | none => (true, false, .one, none)
  let mechanism := getSamplingMechanism answers.matchingRule usedAgentSampler
  { isKeep := isKeep
    traceRootInfo :=
      some
        { priority := mechanism.toPriority isKeep
          mechanism := mechanism
          rate := sampleRate
          rlEffectiveRate := rlEffectiveRate } }

/-- A parent that was sampled or not decides. -/
def sample (isParentSampled : Option Bool) (answers : RootAnswers) : DdSamplingResult :=
  match isParentSampled with
  | some isParentSampled => { isKeep := isParentSampled, traceRootInfo := none }
  | none => sampleRoot answers

end DatadogSampler

namespace DdSamplingResult

/-- The tags of a root span. -/
def toDdSamplingTags (self : DdSamplingResult) : List KeyValue :=
  match self.traceRootInfo with
  | none => []
  | some rootInfo =>
      let limit : List KeyValue :=
        match rootInfo.rlEffectiveRate with
        | some limit => [{ key := "_dd.limit_psr".toList, value := .i64 limit.toInt64 }]
        | none => []
      let decisionMaker : KeyValue :=
        { key := Propagation.SAMPLING_DECISION_MAKER_TAG_KEY
          value := .string rootInfo.mechanism.toCow }
      let rate : List KeyValue :=
        if rootInfo.mechanism = Mechanism.agentRateByService then
          [{ key := "_dd.agent_psr".toList, value := .f64 rootInfo.rate }]
        else if rootInfo.mechanism = Mechanism.remoteUserTraceSamplingRule ∨
            rootInfo.mechanism = Mechanism.remoteDynamicTraceSamplingRule ∨
            rootInfo.mechanism = Mechanism.localUserTraceSamplingRule then
          [{ key := "_dd.rule_psr".toList, value := .f64 rootInfo.rate }]
        else []
      let priority : KeyValue :=
        { key := "_sampling_priority_v1".toList
          value := .i64 rootInfo.priority.intoI8.toInt64 }
      limit ++ [decisionMaker] ++ rate ++ [priority]

def toOtelDecision (self : DdSamplingResult) : OtelSamplingDecision :=
  if self.isKeep then .recordAndSample else .recordOnly

end DdSamplingResult

/-! ## Sampling a span -/

namespace Sampler

/-- A parent whose decision was deferred has no say. -/
def isParentDeferred (parentContext : Option Context) : Bool :=
  parentContext.any fun c => c.spanContext.traceFlags = TRACE_FLAG_DEFERRED

def isParentSampled (parentContext : Option Context) : Option Bool :=
  (parentContext.filter fun c => !isParentDeferred parentContext && c.hasActiveSpan).map fun c =>
    c.spanContext.traceFlags.isSampled

/-- The data for a trace whose decision was taken here: with a deferred parent, beside what was
extracted. -/
def rootPropagationData (parentContext : Option Context) (rootInfo : TraceRootSamplingInfo) :
    TracePropagationData :=
  let extracted :=
    if isParentDeferred parentContext then parentContext.bind (·.extractData) else none
  let tags := (extracted.map (·.internalTags)).getD ∅
  { samplingDecision :=
      { priority := some rootInfo.priority
        mechanism := some rootInfo.mechanism }
    origin := extracted.bind (·.origin)
    tags :=
      some (AList.insert Propagation.SAMPLING_DECISION_MAKER_TAG_KEY rootInfo.mechanism.toCow tags) }

/-- The data for a trace that comes from a remote parent. -/
def remotePropagationData (parentContext : Option Context) : Option TracePropagationData := do
  let remoteCtx ← parentContext.filter fun c => c.spanContext.isRemote
  let data ← remoteCtx.extractData
  some
    { samplingDecision :=
        { priority := data.sampling.priority
          mechanism := data.sampling.mechanism }
      origin := data.origin
      tags := some data.internalTags }

/-- The data that is stored with the trace; a local parent has stored it already. -/
def tracePropagationData (parentContext : Option Context) (result : DdSamplingResult) :
    Option TracePropagationData :=
  match result.traceRootInfo with
  | some rootInfo => some (rootPropagationData parentContext rootInfo)
  | none => remotePropagationData parentContext

def parentTraceState (parentContext : Option Context) : TraceState :=
  (parentContext.map fun c => c.spanContext.traceState).getD none

def shouldSample (cfg : Config) (registry : TraceRegistry) (parentContext : Option Context)
    (traceId : TraceId) (answers : RootAnswers) : SamplingResult × TraceRegistry :=
  if !cfg.enabled then
    ({ decision := .drop, attributes := [], traceState := none }, registry)
  else
    let result := DatadogSampler.sample (isParentSampled parentContext) answers
    let decided : SamplingResult :=
      { decision := result.toOtelDecision
        attributes := result.toDdSamplingTags
        traceState := parentTraceState parentContext }
    match tracePropagationData parentContext result with
    | none => (decided, registry)
    | some propagationData =>
        match registry.registerLocalRootTracePropagationData traceId propagationData with
        | (.new, registry) => (decided, registry)
        | (.existing samplingDecision, registry) =>
            -- A trace that is stored without a priority is decided later, and kept until then.
            ({ decision :=
                if samplingDecision.priority.all (·.isKeep) then .recordAndSample else .recordOnly
               attributes := []
               traceState := parentTraceState parentContext }, registry)

end Sampler

end Otel
end DdTrace
