import DdTrace.Propagation.Context
import DdTrace.Propagation.TraceContext

/-!
# Datadog — the `x-datadog-` headers, and the composite propagator

The Datadog style writes the lower half of the trace id in decimal and puts the higher half in a
tag; the propagation tags travel in one header of limited length.  The composite propagator injects
with each of its styles, extracts with each of its styles, and merges the contexts it found.
-/

namespace DdTrace
namespace Propagation

open DdTrace.Lib DdTrace.Core

namespace Datadog

def DATADOG_HIGHER_ORDER_TRACE_ID_BITS_KEY : Str := "_dd.p.tid".toList
def DATADOG_TRACE_ID_KEY : Str := "x-datadog-trace-id".toList
def DATADOG_ORIGIN_KEY : Str := "x-datadog-origin".toList
def DATADOG_PARENT_ID_KEY : Str := "x-datadog-parent-id".toList
def DATADOG_SAMPLING_PRIORITY_KEY : Str := "x-datadog-sampling-priority".toList
def DATADOG_TAGS_KEY : Str := "x-datadog-tags".toList
def DATADOG_PROPAGATION_ERROR_KEY : Str := "_dd.propagation_error".toList

/-! ## Injection -/

/-- The higher half of the trace id is a tag if it is not zero. -/
def injectTraceIdTag (traceId : BitVec 128) (tags : Tags) : Tags :=
  match (splitTraceId traceId).1 with
  | some higher =>
      AList.insert DATADOG_HIGHER_ORDER_TRACE_ID_BITS_KEY (Numeral.hexPadded 16 higher.toNat) tags
  | none => AList.erase DATADOG_HIGHER_ORDER_TRACE_ID_BITS_KEY tags

def injectTraceId (traceId : BitVec 128) (carrier : Carrier) (tags : Tags) : Carrier × Tags :=
  (carrier.set DATADOG_TRACE_ID_KEY (Numeral.decimal (splitTraceId traceId).2.toNat),
    injectTraceIdTag traceId tags)

def injectSampling (sampling : Sampling) (carrier : Carrier) (tags : Tags) : Carrier × Tags :=
  (match sampling.priority with
    | some priority => carrier.set DATADOG_SAMPLING_PRIORITY_KEY priority.display
    | none => carrier,
    match sampling.mechanism with
    | some mechanism => AList.insert SAMPLING_DECISION_MAKER_TAG_KEY mechanism.toCow tags
    | none => tags)

/-- The tail of a valid key is printable ASCII without blank and `,`. -/
def validateTagKey (key : Str) : Bool :=
  match Text.stripPrefix "_dd.p.".toList key with
  | none => false
  | some tail =>
      (Text.bytes tail).all fun c =>
        TraceContext.inRange '!' '+' c || TraceContext.inRange '-' '~' c

def validateTagValue (value : Str) : Bool :=
  (Text.bytes value).all fun c => TraceContext.inRange ' ' '+' c || TraceContext.inRange '-' '~' c

def isPropagationTag (pair : Str × Str) : Bool := DATADOG_PROPAGATION_TAG_PREFIX.isPrefixOf pair.1

theorem prefix_tid :
    DATADOG_PROPAGATION_TAG_PREFIX.isPrefixOf DATADOG_HIGHER_ORDER_TRACE_ID_BITS_KEY = true := by
  decide

theorem prefix_dm :
    DATADOG_PROPAGATION_TAG_PREFIX.isPrefixOf SAMPLING_DECISION_MAKER_TAG_KEY = true := by
  decide

/-- The size of the header: the pairs with `=` in them and `,` between them. -/
def tagsSize (pairs : List (Str × Str)) : Nat :=
  (pairs.map fun (k, v) => Text.utf8Len k + Text.utf8Len v + 1).sum + (pairs.length - 1)

variable (ord : IterOrder Str Str)

def getPropagationTags (tags : Tags) (maxLength : Nat) : Except String Str :=
  let pairs := (ord.iter tags).filter isPropagationTag
  if tagsSize pairs > maxLength then .error "inject_max_size"
  else if !pairs.all fun (key, value) => validateTagKey key && validateTagValue value then
    .error "encoding_error"
  else .ok ([','].intercalate (pairs.map fun (key, value) => key ++ '=' :: value))

def injectTags (tags : Tags) (carrier : Carrier) (maxLength : Nat) : Carrier × Tags :=
  if maxLength = 0 then
    (carrier, AList.insert DATADOG_PROPAGATION_ERROR_KEY "disabled".toList tags)
  else
    match getPropagationTags ord tags maxLength with
    | .ok propagationTags =>
        (if propagationTags.isEmpty then carrier else carrier.set DATADOG_TAGS_KEY propagationTags,
          tags)
    | .error message =>
        (carrier, AList.insert DATADOG_PROPAGATION_ERROR_KEY message.toList tags)

/-- The tags of the context change too. -/
def inject (context : InjectSpanContext) (carrier : Carrier) (config : Config) :
    InjectSpanContext × Carrier :=
  let (carrier, tags) := injectTraceId context.traceId carrier context.tags
  let carrier := carrier.set DATADOG_PARENT_ID_KEY (Numeral.decimal context.spanId.toNat)
  let carrier :=
    match context.origin with
    | some origin => carrier.set DATADOG_ORIGIN_KEY origin
    | none => carrier
  let (carrier, tags) := injectSampling context.sampling carrier tags
  let (carrier, tags) := injectTags ord tags carrier config.datadogTagsMaxLength
  ({ context with tags := tags }, carrier)

/-! ## Extraction -/

def extractTraceId (carrier : Carrier) : Except String (Option (BitVec 64)) :=
  match carrier.get DATADOG_TRACE_ID_KEY with
  | none => .ok none
  | some traceId =>
      match Numeral.parseUnsigned 10 (2 ^ 64) traceId with
      | none => .error "Failed to decode `trace_id`"
      | some traceId =>
          if traceId = 0 then .error "Invalid `trace_id` found"
          else .ok (some (BitVec.ofNat 64 traceId))

def extractParentId (carrier : Carrier) : Except String (Option (BitVec 64)) :=
  match carrier.get DATADOG_PARENT_ID_KEY with
  | none => .ok none
  | some parentId =>
      match Numeral.parseUnsigned 10 (2 ^ 64) parentId with
      | none => .error "Failed to decode `parent_id`"
      | some parentId => .ok (some (BitVec.ofNat 64 parentId))

def extractSamplingPriority (carrier : Carrier) : Except String (Option SamplingPriority) :=
  match carrier.get DATADOG_SAMPLING_PRIORITY_KEY with
  | none => .ok none
  | some priority =>
      match SamplingPriority.fromStr priority with
      | none => .error "Failed to decode `sampling_priority`"
      | some priority => .ok (some priority)

def extractOrigin (carrier : Carrier) : Option Str := carrier.get DATADOG_ORIGIN_KEY

def higherOrderBitsValid (traceIdHigherOrderBits : Str) : Bool :=
  if Text.utf8Len traceIdHigherOrderBits ≠ 16 then false
  else (Numeral.parseUnsigned 16 (2 ^ 64) traceIdHigherOrderBits).isSome

/-- The decision maker has to be an `i8` that is not positive. -/
def validateSamplingDecision (tags : Tags) : Tags :=
  let shouldRemove := (tags.lookup SAMPLING_DECISION_MAKER_TAG_KEY).any fun samplingDecision =>
    match Numeral.parseSigned (-128) 127 samplingDecision with
    | some m => m > 0
    | none => true
  if shouldRemove then
    AList.insert DATADOG_PROPAGATION_ERROR_KEY "decoding_error".toList
      (AList.erase SAMPLING_DECISION_MAKER_TAG_KEY tags)
  else tags

/-- The pairs of a header, up to those that are not propagation tags. -/
def readPairs (carrierTags : Str) : List (Str × Str) :=
  ((carrierTags.splitOn ',').filterMap (Text.splitOnce '=')).filter isPropagationTag

/-- A higher half of the trace id that cannot be read is removed. -/
def validateTraceIdTag (tags : Tags) : Tags :=
  match tags.lookup DATADOG_HIGHER_ORDER_TRACE_ID_BITS_KEY with
  | some traceIdHigherOrderBits =>
      if higherOrderBitsValid traceIdHigherOrderBits then tags
      else
        AList.erase DATADOG_HIGHER_ORDER_TRACE_ID_BITS_KEY
          (AList.insert DATADOG_PROPAGATION_ERROR_KEY
            ("malformed_tid ".toList ++ traceIdHigherOrderBits) tags)
  | none => tags

def extractTags (carrier : Carrier) (maxLength : Nat) : Tags :=
  let carrierTags := (carrier.get DATADOG_TAGS_KEY).getD []
  if Text.utf8Len carrierTags > maxLength then
    let errorMessage := if maxLength = 0 then "disabled" else "extract_max_size"
    AList.insert DATADOG_PROPAGATION_ERROR_KEY errorMessage.toList ∅
  else validateSamplingDecision (validateTraceIdTag (.ofPairs (readPairs carrierTags)))

def extract (carrier : Carrier) (config : Config) : Option SpanContext :=
  match extractTraceId carrier with
  | .error _ => none
  | .ok none => none
  | .ok (some lowerTraceId) =>
      let parentId :=
        -- an id that cannot be read counts as missing
        match extractParentId carrier with
        | .ok parentId => parentId.getD 0
        | .error _ => 0
      let tags := extractTags carrier config.datadogTagsMaxLength
      let sampling : Sampling :=
        match extractSamplingPriority carrier with
        | .ok samplingPriority =>
            { priority := samplingPriority
              -- the mechanism comes from the tags, and counts beside a priority only
              mechanism :=
                if samplingPriority.isSome then
                  (tags.lookup SAMPLING_DECISION_MAKER_TAG_KEY).bind SamplingMechanism.fromStr
                else none }
        | .error _ => { priority := none, mechanism := none }
      some
        { traceId :=
            combineTraceId lowerTraceId (tags.lookup DATADOG_HIGHER_ORDER_TRACE_ID_BITS_KEY)
          spanId := parentId
          sampling := sampling
          origin := extractOrigin carrier
          tags := tags
          links := []
          isRemote := true
          tracestate := none }

end Datadog

/-! ## Styles -/

namespace Style

variable (ord : IterOrder Str Str)

def extract (style : TracePropagationStyle) (carrier : Carrier) (config : Config) :
    Option SpanContext :=
  match style with
  | .datadog => Datadog.extract carrier config
  | .traceContext => TraceContext.extract ord carrier
  | .none => none

def inject (style : TracePropagationStyle) (context : InjectSpanContext) (carrier : Carrier)
    (config : Config) : InjectSpanContext × Carrier :=
  match style with
  | .datadog => Datadog.inject ord context carrier config
  | .traceContext => (context, TraceContext.inject ord context carrier)
  | .none => (context, carrier)

end Style

/-! ## The composite propagator -/

def getExtractors (config : Config) : List TracePropagationStyle :=
  match config.tracePropagationStyleExtract with
  | some extractors => extractors
  | none => config.tracePropagationStyle.getD []

def getInjectors (config : Config) : List TracePropagationStyle :=
  match config.tracePropagationStyleInject with
  | some injectors => injectors
  | none => config.tracePropagationStyle.getD []

structure DatadogCompositePropagator where
  config : Config
  extractors : List TracePropagationStyle
  injectors : List TracePropagationStyle

namespace DatadogCompositePropagator

def new (config : Config) : DatadogCompositePropagator :=
  let extractors := getExtractors config
  -- `None` takes the place of an extractor here, and is dropped afterwards
  let numPropagators := if config.tracePropagationExtractFirst then 1 else extractors.length
  { config := config
    extractors := (extractors.take numPropagators).filter (· ≠ .none)
    injectors := (getInjectors config).filter (· ≠ .none) }

variable (ord : IterOrder Str Str)

/-- Each injector meets the context as the one before it left it. -/
def inject (self : DatadogCompositePropagator) (context : InjectSpanContext) (carrier : Carrier) :
    InjectSpanContext × Carrier :=
  self.injectors.foldl
    (fun (context, carrier) style => Style.inject ord style context carrier self.config)
    (context, carrier)

def extractAvailableContexts (self : DatadogCompositePropagator) (carrier : Carrier) :
    List (SpanContext × TracePropagationStyle) :=
  self.extractors.filterMap fun style =>
    (Style.extract ord style carrier self.config).map fun context => (context, style)

/-- Take another context of the same trace into the primary one. -/
def mergeTraceContext (contexts : List (SpanContext × TracePropagationStyle))
    (primary context : SpanContext) : SpanContext :=
  let primary :=
    match context.tags.lookup TRACESTATE_KEY with
    | some tracestate =>
        { primary with
          tags := AList.insert TRACESTATE_KEY tracestate primary.tags
          tracestate := context.tracestate }
    | none => primary
  if primary.traceId = context.traceId ∧ primary.spanId ≠ context.spanId then
    let ddContext := (contexts.find? fun c => c.2 = .datadog).map Prod.fst
    let tags :=
      match context.tags.lookup DATADOG_LAST_PARENT_ID_KEY with
      | some parentId => AList.insert DATADOG_LAST_PARENT_ID_KEY parentId primary.tags
      | none =>
          match ddContext with
          | some sc =>
              AList.insert DATADOG_LAST_PARENT_ID_KEY (Numeral.hexPadded 16 sc.spanId.toNat)
                primary.tags
          | none => primary.tags
    { primary with tags := tags, spanId := context.spanId }
  else primary

/-- One step of the merge: a context of another trace becomes a link. -/
def resolveContext (contexts : List (SpanContext × TracePropagationStyle))
    (resolved : SpanContext × List SpanLink) (contextAndStyle : SpanContext × TracePropagationStyle) :
    SpanContext × List SpanLink :=
  let (primary, links) := resolved
  let (context, style) := contextAndStyle
  if context.spanId ≠ 0 ∧ context.traceId ≠ 0 ∧ context.traceId ≠ primary.traceId then
    (primary, links ++ [.terminatedContext context style])
  else if style = .traceContext then (mergeTraceContext contexts primary context, links)
  else (primary, links)

/-- The first context, with what the others add to it. -/
def resolveContexts (first : SpanContext × TracePropagationStyle)
    (others : List (SpanContext × TracePropagationStyle)) : SpanContext :=
  let (primary, links) := others.foldl (resolveContext (first :: others)) (first.1, [])
  { primary with links := links }

def extract (self : DatadogCompositePropagator) (carrier : Carrier) : Option SpanContext :=
  match self.extractAvailableContexts ord carrier with
  | [] => none
  | first :: others => some (resolveContexts first others)

end DatadogCompositePropagator

end Propagation
end DdTrace
