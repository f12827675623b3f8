import DdTrace.Core.SamplingRules

/-!
# SamplingRule — the rules of the sampler, made from those of the configuration

The sampler has its own form of a rule: the patterns are matchers, and the rate is a threshold for the
hashed trace id.  The arithmetic of doubles and the lower case of a text belong to the standard library:
they are the parameters `ops` and `lower`.
-/

namespace DdTrace
namespace TraceSampling

open DdTrace.Lib DdTrace.Core

/-! ## Rates -/

/-- The operations on doubles that make a threshold from a rate. -/
structure F64Ops where
  clamp : F64 → F64 → F64 → F64
  ge : F64 → F64 → Bool
  mul : F64 → F64 → F64
  ofU64 : UInt64 → F64
  toU64 : F64 → UInt64

def MAX_SAMPLE_RATE : F64 := F64.one
def MIN_SAMPLE_RATE : F64 := 0
def MAX_UINT_64BITS : UInt64 := 0xFFFFFFFFFFFFFFFF

structure RateSampler where
  sampleRate : F64
  samplingIdThreshold : UInt64
  deriving DecidableEq

namespace RateSampler

def calculateThreshold (ops : F64Ops) (rate : F64) : UInt64 :=
  if ops.ge rate MAX_SAMPLE_RATE then MAX_UINT_64BITS
  else ops.toU64 (ops.mul rate (ops.ofU64 MAX_UINT_64BITS))

def new (ops : F64Ops) (sampleRate : F64) : RateSampler :=
  let clampedRate := ops.clamp sampleRate MIN_SAMPLE_RATE MAX_SAMPLE_RATE
  { sampleRate := clampedRate
    samplingIdThreshold := calculateThreshold ops clampedRate }

end RateSampler

/-! ## Patterns -/

/-- A pattern, in lower case; what a matcher remembers of earlier matches is no part of the rule. -/
structure GlobMatcher where
  patternLower : Str
  deriving DecidableEq

def GlobMatcher.new (lower : Str → Str) (pattern : Str) : GlobMatcher :=
  { patternLower := lower pattern }

/-- The marker of a field without a rule. -/
def NO_RULE : Str := []

def matcherFromRule (lower : Str → Str) (rule : Str) : Option GlobMatcher :=
  if rule ≠ NO_RULE then some (.new lower rule) else none

/-! ## Rules -/

structure SamplingRule where
  sampleRate : F64
  provenance : Str
  rateSampler : RateSampler
  nameMatcher : Option GlobMatcher
  serviceMatcher : Option GlobMatcher
  resourceMatcher : Option GlobMatcher
  tagMatchers : HashMap Str GlobMatcher

namespace SamplingRule

variable (ops : F64Ops) (lower : Str → Str)

def new (sampleRate : F64) (service name resource : Option Str)
    (tags : Option (HashMap Str Str)) (provenance : Option Str) : SamplingRule :=
  { sampleRate := sampleRate
    provenance := provenance.getD "default".toList
    rateSampler := .new ops sampleRate
    nameMatcher := name.bind (matcherFromRule lower)
    serviceMatcher := service.bind (matcherFromRule lower)
    resourceMatcher := resource.bind (matcherFromRule lower)
    tagMatchers := .ofPairs ((tags.getD ∅).toList.filterMap fun (key, value) =>
      (matcherFromRule lower value).map fun matcher => (key, matcher)) }

/-- The rules of the sampler, in the order of the configuration. -/
def fromConfigs (configs : List SamplingRuleConfig) : List SamplingRule :=
  configs.map fun config =>
    new ops lower config.sampleRate config.service config.name config.resource (some config.tags)
      (some config.provenance)

end SamplingRule

structure RulesSampler where
  inner : List SamplingRule

namespace RulesSampler

def new (rules : List SamplingRule) : RulesSampler := { inner := rules }

def updateRules (self : RulesSampler) (newRules : List SamplingRule) : RulesSampler :=
  { self with inner := newRules }

end RulesSampler

/-- The sampler, as far as its rules go. -/
structure DatadogSampler where
  rules : RulesSampler

namespace DatadogSampler

def new (rules : List SamplingRule) : DatadogSampler := { rules := .new rules }

/-- The callback for updated rules: the rules are shared with the sampler, so it changes them there. -/
def onRulesUpdate (ops : F64Ops) (lower : Str → Str) (ruleConfigs : List SamplingRuleConfig)
    (self : DatadogSampler) : DatadogSampler :=
  { self with rules := self.rules.updateRules (SamplingRule.fromConfigs ops lower ruleConfigs) }

end DatadogSampler

end TraceSampling
end DdTrace
