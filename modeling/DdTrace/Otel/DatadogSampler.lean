import DdTrace.Otel.LimiterTag
import DdTrace.TraceSampling.RateSampling
import DdTrace.TraceSampling.RuleMatching
import DdTrace.TraceSampling.TokenBurst

/-!
# DatadogSampler — the whole sampler of root spans

The sampler decides by the first rule that matches a span, then by the limiter; without a rule by the
rate that the agent gave for the service, and without such a rate it keeps the span.  Remote
configuration replaces the rules, a response of the agent the rates, and the span processor the
resource.

What rules, rates and limiter say about a span are the answers that `Sampler` takes as given:
`sampleRoot_eq` connects the two.
-/

namespace DdTrace
namespace Otel

open DdTrace.Lib DdTrace.Core DdTrace.Mappings DdTrace.TraceSampling

/-! ## The rates of the agent -/

/-- What a response of the agent says about rates. -/
structure AgentRates where
  ratesByService : Option (HashMap Str F64)

/-- The samplers for the services that the agent knows. -/
structure ServicesSampler where
  inner : HashMap Str RateSampler

namespace ServicesSampler

def default : ServicesSampler := { inner := ∅ }

def get (self : ServicesSampler) (service : Str) : Option RateSampler := self.inner.lookup service

/-- The samplers of the new rates take the place of all earlier ones. -/
def updateRates (ops : F64Ops) (_self : ServicesSampler) (rates : List (Str × F64)) :
    ServicesSampler :=
  { inner := .ofPairs (rates.map fun (service, rate) => (service, RateSampler.new ops rate)) }

end ServicesSampler

/-! ## The sampler -/

/-- The sampler: beside its rules the rates of the agent, the limiter, and the resource that it shares
with the span processor. -/
structure RootSampler extends DatadogSampler where
  serviceSamplers : ServicesSampler
  rateLimiter : RateLimiter
  resource : Resource

/-- What the sampler is given for a root span. -/
structure RootRequest where
  traceId : TraceId
  name : Str
  spanKind : SpanKind
  attributes : List KeyValue

/-- What is known of a root span before the limiter or the rates are asked. -/
structure RootLookup where
  traceId : TraceId
  matchingRule : Option SamplingRule
  serviceKey : Str

/-- The standard library and the crates that the sampler calls. -/
structure SamplerApi where
  ops : F64Ops
  lower : Str → Str
  mapping : MappingApi
  glob : GlobMatcher → Str → Bool
  /-- The JSON of a response, read as `AgentRates`. -/
  parseRates : Str → Option AgentRates

namespace RootSampler

variable (api : SamplerApi)

/-- The limiter starts with its default window. -/
def new (rules : List SamplingRule) (rateLimit : Int) (resource : Resource) (now : Instant) :
    RootSampler :=
  { rules := .new rules
    serviceSamplers := .default
    rateLimiter := .new rateLimit none now
    resource := resource }

/-- The callback for updated rules. -/
def updateRules (self : RootSampler) (ruleConfigs : List SamplingRuleConfig) : RootSampler :=
  { self with
    toDatadogSampler :=
      DatadogSampler.onRulesUpdate api.ops api.lower ruleConfigs self.toDatadogSampler }

/-- The callback for a response of the agent.  One that cannot be read, or that has no rates, changes
nothing. -/
def onAgentResponse (self : RootSampler) (response : Str) : RootSampler :=
  match api.parseRates response with
  | none => self
  | some newRates =>
      match newRates.ratesByService with
      | none => self
      | some newRates =>
          { self with
            serviceSamplers := self.serviceSamplers.updateRates api.ops newRates.toList }

def serviceKey (span : PreSampledSpan) : Str :=
  let service := getOtelService api.mapping (span.toOtelSpan api.mapping)
  let env := getOtelEnv api.mapping (span.toOtelSpan api.mapping)
  "service:".toList ++ service ++ ",env:".toList ++ env

/-- The first rule that matches. -/
def findMatchingRule (self : RootSampler) (span : PreSampledSpan) : Option SamplingRule :=
  self.rules.inner.find? fun rule => rule.matches api.mapping api.glob span

def getSamplingMechanism (rule : Option SamplingRule) (usedAgentSampler : Bool) :
    SamplingMechanism :=
  match rule with
  | some rule =>
      if rule.provenance = "customer".toList then Mechanism.remoteUserTraceSamplingRule
      else if rule.provenance = "dynamic".toList then Mechanism.remoteDynamicTraceSamplingRule
      else Mechanism.localUserTraceSamplingRule
  | none => if usedAgentSampler then Mechanism.agentRateByService else Mechanism.default

/-- The first part of `sample_root`, which reads the resource and the rules. -/
def lookUp (self : RootSampler) (request : RootRequest) : RootLookup :=
  let span := PreSampledSpan.new request.name request.spanKind request.attributes self.resource
  { traceId := request.traceId
    matchingRule := self.findMatchingRule api span
    serviceKey := serviceKey api span }

/-- The rest of `sample_root`, which asks the limiter or the rates. -/
def conclude (self : RootSampler) (now : Instant) (lookup : RootLookup) :
    DdSamplingResult × RootSampler :=
  let ((isKeep, usedAgentSampler, sampleRate, rlEffectiveRate), rateLimiter) :
      (Bool × Bool × F64 × Option Int32) × RateLimiter :=
    match lookup.matchingRule with
    | some rule =>
        if !rule.rateSampler.sample lookup.traceId then
          ((false, false, rule.sampleRate, none), self.rateLimiter)
        else
          match self.rateLimiter.isAllowed now with
          | (true, rateLimiter) => ((true, false, rule.sampleRate, none), rateLimiter)
          | (false, rateLimiter) =>
              ((false, false, rule.sampleRate, some (asI32 rateLimiter.effectiveRate)), rateLimiter)
    | none =>
        match self.serviceSamplers.get lookup.serviceKey with
        | some sampler =>
            ((sampler.sample lookup.traceId, true, sampler.sampleRate, none), self.rateLimiter)
        | none => ((true, false, .one, none), self.rateLimiter)
  let mechanism := getSamplingMechanism lookup.matchingRule usedAgentSampler
  ({ isKeep := isKeep
     traceRootInfo :=
       some
         { priority := mechanism.toPriority isKeep
           mechanism := mechanism
           rate := sampleRate
           rlEffectiveRate := rlEffectiveRate } }, { self with rateLimiter := rateLimiter })

def sampleRoot (self : RootSampler) (now : Instant) (request : RootRequest) :
    DdSamplingResult × RootSampler :=
  self.conclude now (self.lookUp api request)

def sample (self : RootSampler) (isParentSampled : Option Bool) (now : Instant)
    (request : RootRequest) : DdSamplingResult × RootSampler :=
  match isParentSampled with
  | some isParentSampled => ({ isKeep := isParentSampled, traceRootInfo := none }, self)
  | none => self.sampleRoot api now request

end RootSampler

/-- The limiter is asked for a span that a rule matches and keeps. -/
def RootLookup.asks (self : RootLookup) : Bool :=
  self.matchingRule.any fun rule => rule.rateSampler.sample self.traceId

/-! ## The answers for a root span -/

/-- What a rule says about a trace. -/
def ruleAnswer (rule : SamplingRule) (traceId : TraceId) : RuleAnswer :=
  { provenance := rule.provenance
    sampleRate := rule.sampleRate
    sample := rule.rateSampler.sample traceId }

/-- What the rate of a service says about a trace. -/
def serviceAnswer (sampler : RateSampler) (traceId : TraceId) : ServiceAnswer :=
  { sampleRate := sampler.sampleRate
    sample := sampler.sample traceId }

/-- The root span as the limiter knows it. -/
def RootLookup.rootSpan (self : RootLookup) (serviceSamplers : ServicesSampler) (now : Instant) :
    RootSpan :=
  { now := now
    matchingRule := self.matchingRule.map fun rule => ruleAnswer rule self.traceId
    serviceSampler :=
      (serviceSamplers.get self.serviceKey).map fun sampler => serviceAnswer sampler self.traceId }

namespace RootSampler

variable {api : SamplerApi}

theorem getSamplingMechanism_eq (rule : Option SamplingRule) (traceId : TraceId)
    (usedAgentSampler : Bool) :
    getSamplingMechanism rule usedAgentSampler =
      DatadogSampler.getSamplingMechanism (rule.map fun rule => ruleAnswer rule traceId)
        usedAgentSampler := by
  cases rule with
  | none => rfl
  | some rule => rfl

/-- Rules, rates and limiter only matter for their answers. -/
theorem conclude_eq (self : RootSampler) (now : Instant) (lookup : RootLookup) :
    self.conclude now lookup =
      ((sampleWithLimiter self.rateLimiter (lookup.rootSpan self.serviceSamplers now)).1,
        { self with
          rateLimiter :=
            (sampleWithLimiter self.rateLimiter (lookup.rootSpan self.serviceSamplers now)).2 }) := by
  have hmechanism := getSamplingMechanism_eq lookup.matchingRule lookup.traceId
  simp only [conclude, hmechanism]
  generalize hget : DatadogSampler.getSamplingMechanism = mechanism
  cases hrule : lookup.matchingRule with
  | some rule =>
      cases hsample : rule.rateSampler.sample lookup.traceId with
      | false =>
          -- the limiter is not asked
          simp [sampleWithLimiter, rootAnswers, RootLookup.rootSpan, RootSpan.Asks,
            DatadogSampler.sampleRoot, hrule, hsample, ruleAnswer, hget]
      | true =>
          rcases hallowed : self.rateLimiter.isAllowed now with ⟨allowed, rateLimiter⟩
          cases allowed with
          | true =>
              simp [sampleWithLimiter, rootAnswers, RootLookup.rootSpan, RootSpan.Asks,
                DatadogSampler.sampleRoot, hrule, hsample, hallowed, ruleAnswer, hget]
          | false =>
              simp [sampleWithLimiter, rootAnswers, RootLookup.rootSpan, RootSpan.Asks,
                DatadogSampler.sampleRoot, hrule, hsample, hallowed, ruleAnswer, hget]
  | none =>
      cases hservice : self.serviceSamplers.get lookup.serviceKey with
      | none =>
          simp [sampleWithLimiter, rootAnswers, RootLookup.rootSpan, RootSpan.Asks,
            DatadogSampler.sampleRoot, hrule, hservice, hget]
      | some sampler =>
          simp [sampleWithLimiter, rootAnswers, RootLookup.rootSpan, RootSpan.Asks,
            DatadogSampler.sampleRoot, hrule, hservice, serviceAnswer, hget]

theorem asks_rootSpan (lookup : RootLookup) (serviceSamplers : ServicesSampler) (now : Instant) :
    (lookup.rootSpan serviceSamplers now).Asks = lookup.asks := by
  unfold RootSpan.Asks RootLookup.rootSpan RootLookup.asks
  cases lookup.matchingRule with
  | none => rfl
  | some rule => rfl

/-- The limiter's answer is the decision where it is asked. -/
theorem conclude_of_asks (self : RootSampler) (now : Instant) {lookup : RootLookup}
    (h : lookup.asks = true) :
    (self.conclude now lookup).1.isKeep = (self.rateLimiter.isAllowed now).1 ∧
      (self.conclude now lookup).2 =
        { self with rateLimiter := (self.rateLimiter.isAllowed now).2 } := by
  have hspan := (asks_rootSpan lookup self.serviceSamplers now).trans h
  obtain ⟨rule, hrule, hsample⟩ := (Option.any_eq_true _ _).1 h
  rw [conclude_eq, sampleWithLimiter, rootAnswers_of_asks hspan]
  refine ⟨?_, rfl⟩
  simp only [RootLookup.rootSpan, DatadogSampler.sampleRoot, hrule, Option.map_some, ruleAnswer,
    hsample]
  cases (self.rateLimiter.isAllowed now).1 <;> rfl

/-- Otherwise the sampler stays as it is. -/
theorem conclude_of_not_asks (self : RootSampler) (now : Instant) {lookup : RootLookup}
    (h : lookup.asks = false) : (self.conclude now lookup).2 = self := by
  have hspan := (asks_rootSpan lookup self.serviceSamplers now).trans h
  rw [conclude_eq, sampleWithLimiter, rootAnswers, hspan]
  rfl

end RootSampler

end Otel
end DdTrace
