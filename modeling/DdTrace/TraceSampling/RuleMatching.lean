import DdTrace.Mappings.Transform
import DdTrace.TraceSampling.SamplingRule

/-!
# RuleMatching — which spans a rule applies to

When a span is sampled it has no end yet, and so the sampler has a view of its own
(`PreSampledSpan`).  A rule compares the operation name, the service and the resource of this view with
its patterns, and then the tags.

The answers of a matcher are the parameter `glob`: what it remembers does not change them.
-/

namespace DdTrace
namespace TraceSampling

open DdTrace.Lib DdTrace.Core DdTrace.Otel DdTrace.Mappings

variable (api : MappingApi)

/-! ## The view of a span that starts -/

structure PreSampledSpan where
  name : Str
  spanKind : SpanKind
  attributes : List KeyValue
  resource : Resource
  spanAttrs : AttributeIndices

namespace PreSampledSpan

def new (name : Str) (spanKind : SpanKind) (attributes : List KeyValue) (resource : Resource) :
    PreSampledSpan :=
  { name := name
    spanKind := spanKind
    attributes := attributes
    resource := resource
    spanAttrs := .fromAttributeSlice attributes }

def toOtelSpan (self : PreSampledSpan) : OtelSpan :=
  { name := self.name
    spanKind := self.spanKind
    hasAttr := fun attrKey => (self.spanAttrs.get attrKey).isSome
    getAttrStrOpt := fun attrKey => do
      let idx ← self.spanAttrs.get attrKey
      let kv ← self.attributes[idx]?
      some (api.valueToString kv.value)
    getAttrI64 := fun attrKey => do
      let idx ← self.spanAttrs.get attrKey
      let kv ← self.attributes[idx]?
      valueI64 kv.value
    getResAttributeOpt := fun attrKey => self.resource.lookup attrKey.key }

end PreSampledSpan

/-! ## Values -/

def extractStringValue : Value → Option Str
  | .string s => some s
  | .i64 i => some (Numeral.intDecimal i.toInt)
  | .f64 f => some (api.displayF64 f)
  | .bool b => some (if b then "true".toList else "false".toList)
  | .array _ => none

def extractFloatValue : Value → Option F64
  | .f64 f => some f
  | .i64 i => some (Binary64.ofInt i.toInt)
  | _ => none

/-- The float is not what comes back from an `i64`, which saturates. -/
def hasDecimal (floatVal : F64) : Bool :=
  match Binary64.toInt? floatVal with
  | none => true
  | some i => !(-2 ^ 63 ≤ i ∧ i ≤ 2 ^ 63)

/-! ## The rule -/

/-- The texts that a rule compares with its patterns. -/
structure ComparedFields where
  name : Str
  service : Str
  resource : Str

def comparedFields (span : PreSampledSpan) : ComparedFields :=
  { name := getOtelOperationNameV2 api (span.toOtelSpan api)
    service := getOtelService api (span.toOtelSpan api)
    resource := getOtelResourceV2 api (span.toOtelSpan api) }

variable (glob : GlobMatcher → Str → Bool)

def matchAttributeValue (value : Value) (matcher : GlobMatcher) : Option Bool :=
  match extractFloatValue value with
  | some floatVal =>
      -- a number with decimals is only matched by a pattern that matches everything
      if hasDecimal floatVal then some (matcher.patternLower.all (· = '*'))
      else some (glob matcher (api.displayF64 floatVal))
  | none => (extractStringValue api value).map (glob matcher)

/-- No status code is found where it is zero. -/
def matchHttpStatusCodeRule (matcher : GlobMatcher) (span : PreSampledSpan) : Option Bool :=
  let statusCode := getOtelStatusCode (span.toOtelSpan api)
  if statusCode ≠ 0 then
    matchAttributeValue api glob (.i64 (Int64.ofNat statusCode.toNat)) matcher
  else none

/-- One tag of a rule: the attribute itself, or one that is exported under its key. -/
def matchTag (span : PreSampledSpan) (key : Str) (matcher : GlobMatcher) : Bool :=
  -- the status code may stand under several keys
  if key = "http.status_code".toList ∨ key = HTTP_RESPONSE_STATUS_CODE.key then
    matchHttpStatusCodeRule api glob matcher span = some true
  else
    let directMatch := (span.attributes.find? fun kv => kv.key = key).bind fun kv =>
      matchAttributeValue api glob kv.value matcher
    if directMatch = some true then true
    -- a key of this kind may be the one that an attribute is exported under
    else if "http.".toList.isPrefixOf key then
      span.attributes.any fun kv =>
        getDdKeyForOtlpAttribute kv.key = key &&
          (matchAttributeValue api glob kv.value matcher).getD false
    else false

namespace SamplingRule

/-- A field without a pattern matches. -/
def matchField (matcher : Option GlobMatcher) (text : Str) : Bool :=
  matcher.all fun matcher => glob matcher text

def «matches» (self : SamplingRule) (span : PreSampledSpan) : Bool :=
  let compared := comparedFields api span
  if !matchField glob self.nameMatcher compared.name then false
  else if !matchField glob self.serviceMatcher compared.service then false
  else if !matchField glob self.resourceMatcher compared.resource then false
  else self.tagMatchers.toList.all fun (key, matcher) => matchTag api glob span key matcher

end SamplingRule

end TraceSampling
end DdTrace
