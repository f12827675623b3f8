import DdTrace.Lib.Frame
import DdTrace.Mappings.DdSpan

/-!
# Transform — from finished spans to exported spans

`otelSpanToDdSpan` maps a finished span, with the resource of its process, to a datadog span.  First
come the fields that a span always has, then the tags, from several sources one after the other: the
`datadog.` attributes, the resource, the instrumentation scope and the attributes.  At last come the
links, the events and what is derived from them.

The view of a finished span that the source builds first (`SdkSpan`) has the same fields, and is
left out.
-/

namespace DdTrace
namespace Mappings

open DdTrace.Lib DdTrace.Core DdTrace.Otel

variable (api : MappingApi)

/-! ## The view of a finished span -/

structure SpanExtractArgs where
  span : SpanData
  resource : Resource
  spanAttrs : AttributeIndices

namespace SpanExtractArgs

def new (span : SpanData) (resource : Resource) : SpanExtractArgs :=
  { span := span
    resource := resource
    spanAttrs := .fromAttributeSlice span.attributes }

def toOtelSpan (self : SpanExtractArgs) : OtelSpan :=
  { name := self.span.name
    spanKind := self.span.spanKind
    hasAttr := fun attrKey => (self.spanAttrs.get attrKey).isSome
    getAttrStrOpt := fun attrKey => do
      let idx ← self.spanAttrs.get attrKey
      let kv ← self.span.attributes[idx]?
      some (otelValueStringRepr api kv.value)
    getAttrI64 := fun attrKey => do
      let idx ← self.spanAttrs.get attrKey
      let kv ← self.span.attributes[idx]?
      valueI64 kv.value
    getResAttributeOpt := fun attrKey => self.resource.lookup attrKey.key }

end SpanExtractArgs

/-! ## Ids and times -/

def otelSpanIdToDdId (spanId : SpanId) : BitVec 64 := spanId

/-- The lower and the higher half. -/
def otelTraceIdToDdId (traceId : TraceId) : BitVec 64 × BitVec 64 :=
  (traceId.setWidth 64, (traceId >>> 64).setWidth 64)

/-- A time before the epoch counts as the epoch. -/
def timeAsUnixNanos (time : SystemTime) : Int64 :=
  if 0 ≤ time then Int64.ofInt time else 0

def checkedSub (a b : Int64) : Option Int64 :=
  let difference := a.toInt - b.toInt
  if -2 ^ 63 ≤ difference ∧ difference < 2 ^ 63 then some (Int64.ofInt difference) else none

/-! ## The minimal span -/

def isError : Status → Bool
  | .error _ => true
  | _ => false

/-- A text, or another one if it is empty. -/
def nonemptyOr (s other : Str) : Str := if s.isEmpty then other else s

def otelSpanToDdSpanMinimal (span : SpanExtractArgs) (isTopLevel : Bool) : DdSpan :=
  let view := span.toOtelSpan api
  let start := timeAsUnixNanos span.span.startTime
  let finish := timeAsUnixNanos span.span.endTime
  let ddSpan : DdSpan :=
    { service := nonemptyOr (view.getAttrStr DATADOG_SERVICE) (getOtelService api view)
      name := nonemptyOr (view.getAttrStr DATADOG_NAME) (getOtelOperationNameV2 api view)
      resource := nonemptyOr (view.getAttrStr DATADOG_RESOURCE) (getOtelResourceV2 api view)
      type := nonemptyOr (view.getAttrStr DATADOG_TYPE) (getOtelSpanType api view)
      traceId := (otelTraceIdToDdId span.span.spanContext.traceId).1
      spanId := otelSpanIdToDdId span.span.spanContext.spanId
      parentId := otelSpanIdToDdId span.span.parentSpanId
      start := start
      duration := max ((checkedSub finish start).getD 0) 0
      error :=
        match view.getAttrNum i32TryFrom DATADOG_ERROR with
        | some error => error
        | none => if isError span.span.status then 1 else 0
      metaTags := ∅
      metrics := ∅
      spanLinks := []
      spanEvents := [] }
  let spanKind := (view.getAttrStrOpt DATADOG_SPAN_KIND).getD (spanKindStr view.spanKind)
  let ddSpan := ddSpan.insertMeta "span.kind".toList spanKind
  let code :=
    match view.getAttrNum u32TryFrom DATADOG_HTTP_STATUS_CODE with
    | some httpStatusCode => httpStatusCode
    | none => getOtelStatusCode view
  let ddSpan :=
    if code ≠ 0 then ddSpan.insertMeta "http.status_code".toList (Numeral.decimal code.toNat)
    else ddSpan
  let ddSpan :=
    if isTopLevel then ddSpan.insertMetric "_top_level".toList F64.one else ddSpan
  if view.getAttrNum i32TryFrom DD_MEASURED = some 1 ∨ view.spanKind = .client ∨
      view.spanKind = .producer then
    ddSpan.insertMetric "_dd.measured".toList F64.one
  else ddSpan

/-! ## Links and events -/

def toDdSpanLink (link : Link) : DdSpanLink :=
  let (traceId, traceIdHigh) := otelTraceIdToDdId link.spanContext.traceId
  { traceId := traceId
    traceIdHigh := traceIdHigh
    spanId := otelSpanIdToDdId link.spanContext.spanId
    attributes :=
      .ofPairs (link.attributes.map fun kv => (kv.key, otelValueStringRepr api kv.value))
    tracestate := link.spanContext.traceState.header
    flags := link.spanContext.traceFlags.setWidth 32 }

def toDdSpanEvent (event : SpanEvent) : DdSpanEvent :=
  { timeUnixNano := (max (timeAsUnixNanos event.timestamp) 0).toUInt64
    name := event.name
    attributes :=
      .ofPairs (event.attributes.map fun kv => (kv.key, otelValueToDdScalar kv.value)) }

/-- The name of an event, in any case. -/
def isException (event : DdSpanEvent) : Bool :=
  event.name.map Char.toLower = "exception".toList

def HAS_EXCEPTION_KEY : Str := "_dd.span_events.has_exception".toList

def tagSpanIfContainsException (ddSpan : DdSpan) : DdSpan :=
  if ddSpan.spanEvents.any isException then ddSpan.insertMeta HAS_EXCEPTION_KEY "true".toList
  else ddSpan

/-! ## Errors -/

/-- The attributes of an exception event and the tags they are copied to. -/
def EXCEPTION_KEYS : List (Str × Str) :=
  [("exception.message".toList, "error.message".toList),
   ("exception.type".toList, "error.type".toList),
   ("exception.stacktrace".toList, "error.stack".toList)]

def setExceptionTag (event : DdSpanEvent) (ddSpan : DdSpan) (keys : Str × Str) : DdSpan :=
  match event.attributes.lookup keys.1 with
  | some attr => ddSpan.insertMeta keys.2 (ddValueToString api attr)
  | none => ddSpan

def setExceptionTags (ddSpan : DdSpan) (event : DdSpanEvent) : DdSpan :=
  if isException event then EXCEPTION_KEYS.foldl (setExceptionTag api event) ddSpan else ddSpan

/-- The message that the status code gives, if there is one. -/
def httpErrorMessage (ddSpan : DdSpan) : Option Str := do
  let code ←
    (ddSpan.metaTags.lookup "http.response.status_code".toList).or
      (ddSpan.metaTags.lookup "http.status_code".toList)
  match ddSpan.metaTags.lookup "http.status_text".toList with
  | some httpText => some (code ++ ' ' :: httpText)
  | none => some code

def setErrorMessage (description : Str) (ddSpan : DdSpan) : DdSpan :=
  if (ddSpan.metaTags.lookup "error.message".toList).isSome then ddSpan
  else if !description.isEmpty then ddSpan.insertMeta "error.message".toList description
  else
    match httpErrorMessage ddSpan with
    | some message => ddSpan.insertMeta "error.message".toList message
    | none => ddSpan

/-- The error field for a status, which is also described by the tags. -/
def statusToError (status : Status) (ddSpan : DdSpan) : DdSpan :=
  match status with
  | .error description =>
      let ddSpan := ddSpan.spanEvents.foldl (setExceptionTags api) ddSpan
      { setErrorMessage description ddSpan with error := 1 }
  | _ => { ddSpan with error := 0 }

/-! ## The whole span -/

/-- The `datadog.` attributes and the tags they set. -/
def DD_SEMANTICS_KEY_TO_META_KEY : List (AttributeKey × Str) :=
  [(DATADOG_ENV, "env".toList),
   (DATADOG_VERSION, "version".toList),
   (DATADOG_HTTP_STATUS_CODE, "http.status_code".toList),
   (DATADOG_ERROR_MSG, "error.message".toList),
   (DATADOG_ERROR_TYPE, "error.type".toList),
   (DATADOG_ERROR_STACK, "error.stack".toList)]

def setDdSemantics (view : OtelSpan) (ddSpan : DdSpan) (keys : AttributeKey × Str) : DdSpan :=
  let value := view.getAttrStr keys.1
  if !value.isEmpty then ddSpan.insertMeta keys.2 value else ddSpan

def setTraceState (traceState : TraceState) (ddSpan : DdSpan) : DdSpan :=
  if !traceState.header.isEmpty then ddSpan.insertMeta "w3c.tracestate".toList traceState.header
  else ddSpan

def setScope (scope : InstrumentationScope) (ddSpan : DdSpan) : DdSpan :=
  let ddSpan :=
    if !scope.name.isEmpty then ddSpan.insertMeta "otel.scope.name".toList scope.name else ddSpan
  match scope.version.filter fun version => !version.isEmpty with
  | some version => ddSpan.insertMeta "otel.scope.version".toList version
  | none => ddSpan

def statusStr : Status → Str
  | .unset => "Unset".toList
  | .ok => "Ok".toList
  | .error _ => "Error".toList

def setStatus (status : Status) (ddSpan : DdSpan) : DdSpan :=
  let ddSpan := ddSpan.insertMeta "otel.status_code".toList (statusStr status)
  match status with
  | .error description =>
      if !description.isEmpty then
        ddSpan.insertMeta "otel.status_description".toList description
      else ddSpan
  | _ => ddSpan

/-- The status pass, which is skipped if all the tags that describe an error are there. -/
def setError (status : Status) (ddSpan : DdSpan) : DdSpan :=
  if ["error.message".toList, "error.type".toList, "error.stack".toList].any fun k =>
      (ddSpan.metaTags.lookup k).isNone then
    statusToError api status ddSpan
  else ddSpan

/-- The tags that are set before the attributes. -/
def setTagsBeforeAttributes (span : SpanExtractArgs) (ddSpan : DdSpan) : DdSpan :=
  let view := span.toOtelSpan api
  let ddSpan := DD_SEMANTICS_KEY_TO_META_KEY.foldl (setDdSemantics view) ddSpan
  let ddSpan :=
    (api.resourceOrder.iter span.resource).foldl
      (fun ddSpan kv => setMetaOtlpWithSemconvMappings api kv.1 kv.2 ddSpan) ddSpan
  let ddSpan :=
    span.span.instrumentationScope.attributes.foldl
      (fun ddSpan kv => ddSpan.insertMeta kv.key (api.valueToString kv.value)) ddSpan
  let otelTraceId := Numeral.hexPadded 32 span.span.spanContext.traceId.toNat
  let ddSpan := ddSpan.insertMeta "otel.trace_id".toList otelTraceId
  ddSpan.fillMeta "version".toList
    (((span.resource.lookup SERVICE_VERSION.key).map api.valueToString).getD [])

/-- What is set after the attributes. -/
def setTagsAfterAttributes (span : SpanExtractArgs) (ddSpan : DdSpan) : DdSpan :=
  let otelSpan := span.span
  let ddSpan := ddSpan.fillMeta "env".toList (getOtelEnv api (span.toOtelSpan api))
  let ddSpan :=
    { ddSpan with
      spanLinks := otelSpan.links.map (toDdSpanLink api)
      spanEvents := otelSpan.events.map toDdSpanEvent }
  let ddSpan := tagSpanIfContainsException ddSpan
  let ddSpan := setTraceState otelSpan.spanContext.traceState ddSpan
  let ddSpan := setScope otelSpan.instrumentationScope ddSpan
  let ddSpan := setStatus otelSpan.status ddSpan
  setError api otelSpan.status ddSpan

def otelSpanToDdSpan (otelSpan : SpanData) (otelResource : Resource) : DdSpan :=
  let spanExtracted := SpanExtractArgs.new otelSpan otelResource
  -- top level spans are computed later
  let ddSpan := otelSpanToDdSpanMinimal api spanExtracted false
  let ddSpan := setTagsBeforeAttributes api spanExtracted ddSpan
  let ddSpan := otelSpan.attributes.foldl (setAttribute api) ddSpan
  setTagsAfterAttributes api spanExtracted ddSpan

/-! ## What the steps after the attributes leave alone

Each step leaves alone what ignores the tags that it writes. -/

section Ignores

variable {B : Type} {get : DdSpan → B}

/-- An observation that the value of a tag does not change. -/
def IgnoresTag (get : DdSpan → B) (k : Str) : Prop :=
  ∀ v, Frame.Keeps get fun ddSpan => ddSpan.insertMeta k v

theorem keeps_fillMeta {k : Str} (h : IgnoresTag get k) (v : Str) :
    Frame.Keeps get fun ddSpan => ddSpan.fillMeta k v := by
  intro ddSpan
  simp only [DdSpan.fillMeta]
  split_ifs
  · exact h v ddSpan
  · rfl

theorem keeps_tagSpanIfContainsException (h : IgnoresTag get HAS_EXCEPTION_KEY) :
    Frame.Keeps get tagSpanIfContainsException := by
  intro ddSpan
  simp only [tagSpanIfContainsException]
  split_ifs
  · exact h _ ddSpan
  · rfl

theorem keeps_setTraceState (h : IgnoresTag get "w3c.tracestate".toList)
    (traceState : TraceState) : Frame.Keeps get (setTraceState traceState) := by
  intro ddSpan
  simp only [setTraceState]
  split_ifs
  · exact h _ ddSpan
  · rfl

theorem keeps_setScope (hname : IgnoresTag get "otel.scope.name".toList)
    (hversion : IgnoresTag get "otel.scope.version".toList) (scope : InstrumentationScope) :
    Frame.Keeps get (setScope scope) := by
  intro ddSpan
  have hfirst : get
      (if !scope.name.isEmpty then ddSpan.insertMeta "otel.scope.name".toList scope.name
        else ddSpan) = get ddSpan := by
    split_ifs
    · exact hname _ ddSpan
    · rfl
  simp only [setScope]
  split
  · exact (hversion _ _).trans hfirst
  · exact hfirst

theorem keeps_setStatus (hcode : IgnoresTag get "otel.status_code".toList)
    (hdescription : IgnoresTag get "otel.status_description".toList) (status : Status) :
    Frame.Keeps get (setStatus status) := by
  intro ddSpan
  have hfirst : get (ddSpan.insertMeta "otel.status_code".toList (statusStr status)) = get ddSpan :=
    hcode _ ddSpan
  cases status with
  | unset => exact hfirst
  | ok => exact hfirst
  | error description =>
      simp only [setStatus]
      split_ifs
      · exact (hdescription _ _).trans hfirst
      · exact hfirst

theorem keeps_setExceptionTags (h : ∀ keys ∈ EXCEPTION_KEYS, IgnoresTag get keys.2)
    (event : DdSpanEvent) : Frame.Keeps get fun ddSpan => setExceptionTags api ddSpan event := by
  intro ddSpan
  simp only [setExceptionTags]
  split_ifs
  · -- the three tags describe the error
    refine Frame.keeps_foldl (fun keys hkeys s => ?_) ddSpan
    simp only [setExceptionTag]
    split
    · exact h keys hkeys _ s
    · rfl
  · rfl

theorem keeps_setErrorMessage (h : IgnoresTag get "error.message".toList) (description : Str) :
    Frame.Keeps get (setErrorMessage description) := by
  intro ddSpan
  simp only [setErrorMessage]
  split_ifs
  · rfl
  · exact h _ ddSpan
  · split
    · exact h _ ddSpan
    · rfl

section Errors

variable (htags : ∀ keys ∈ EXCEPTION_KEYS, IgnoresTag get keys.2)
  (hfield : ∀ error ddSpan, get { ddSpan with error := error } = get ddSpan)
include htags hfield

theorem keeps_statusToError (status : Status) : Frame.Keeps get (statusToError api status) := by
  intro ddSpan
  cases status with
  | unset => exact hfield 0 ddSpan
  | ok => exact hfield 0 ddSpan
  | error description =>
      have hmessage : IgnoresTag get "error.message".toList :=
        htags ("exception.message".toList, "error.message".toList) (List.mem_cons_self ..)
      have hevents : get (ddSpan.spanEvents.foldl (setExceptionTags api) ddSpan) = get ddSpan :=
        Frame.keeps_foldl (fun event _ => keeps_setExceptionTags api htags event) ddSpan
      exact (hfield 1 _).trans ((keeps_setErrorMessage hmessage description _).trans hevents)

theorem keeps_setError (status : Status) : Frame.Keeps get (setError api status) := by
  intro ddSpan
  simp only [setError]
  split_ifs
  · exact keeps_statusToError api htags hfield status ddSpan
  · rfl

end Errors

end Ignores

/-! ## What is not touched after the attributes

Beside the tag of exception events only keys that are not internal are written. -/

/-- An observation of a span that its public tags and its error field do not change. -/
structure IgnoresPublicTags {B : Type} (get : DdSpan → B) : Prop where
  insertMeta : ∀ {k : Str}, ¬ IsInternalKey k →
    ∀ v ddSpan, get (ddSpan.insertMeta k v) = get ddSpan
  setErrorField : ∀ error ddSpan, get { ddSpan with error := error } = get ddSpan

namespace IgnoresPublicTags

variable {B : Type} {get : DdSpan → B} (h : IgnoresPublicTags get)
include h

theorem ignoresTag {k : Str} (hk : ¬ IsInternalKey k) : IgnoresTag get k := h.insertMeta hk

theorem fillMeta {k : Str} (hk : ¬ IsInternalKey k) (v : Str) (ddSpan : DdSpan) :
    get (ddSpan.fillMeta k v) = get ddSpan :=
  keeps_fillMeta (h.ignoresTag hk) v ddSpan

/-- The last four steps of the mapping. -/
theorem keeps_tail (span : SpanData) :
    Frame.Keeps get fun ddSpan =>
      setError api span.status (setStatus span.status (setScope span.instrumentationScope
        (setTraceState span.spanContext.traceState ddSpan))) := by
  have hpublic : ∀ keys ∈ EXCEPTION_KEYS, ¬ IsInternalKey keys.2 := by decide
  have herror := keeps_setError api (fun keys hkeys => h.ignoresTag (hpublic keys hkeys))
    h.setErrorField span.status
  have hstatus := keeps_setStatus (h.ignoresTag (by decide)) (h.ignoresTag (by decide)) span.status
  have hscope := keeps_setScope (h.ignoresTag (by decide)) (h.ignoresTag (by decide))
    span.instrumentationScope
  have htraceState := keeps_setTraceState (h.ignoresTag (by decide)) span.spanContext.traceState
  exact herror.comp (hstatus.comp (hscope.comp htraceState))

end IgnoresPublicTags

theorem ignoresPublicTags_spanLinks : IgnoresPublicTags DdSpan.spanLinks :=
  { insertMeta := fun _ _ _ => rfl
    setErrorField := fun _ _ => rfl }

theorem ignoresPublicTags_metrics : IgnoresPublicTags DdSpan.metrics :=
  { insertMeta := fun _ _ _ => rfl
    setErrorField := fun _ _ => rfl }

theorem ignoresPublicTags_lookup {k : Str} (hk : IsInternalKey k) :
    IgnoresPublicTags fun ddSpan => ddSpan.metaTags.lookup k :=
  { insertMeta := fun {k'} hpublic v ddSpan =>
      DdSpan.lookup_insertMeta_ne (fun heq : k = k' => hpublic (heq ▸ hk)) ddSpan v
    setErrorField := fun _ _ => rfl }

/-- Whether the span has an event that the mapping takes for an exception. -/
def hasException (otelSpan : SpanData) : Bool :=
  (otelSpan.events.map toDdSpanEvent).any isException

/-- An internal key keeps its value, but for the tag of exception events. -/
theorem lookup_setTagsAfterAttributes {k : Str} (hk : IsInternalKey k) (span : SpanExtractArgs)
    (ddSpan : DdSpan) :
    (setTagsAfterAttributes api span ddSpan).metaTags.lookup k =
      if k = HAS_EXCEPTION_KEY ∧ hasException span.span then some "true".toList
      else ddSpan.metaTags.lookup k := by
  have hget := ignoresPublicTags_lookup hk
  have hfill : (ddSpan.fillMeta "env".toList
      (getOtelEnv api (span.toOtelSpan api))).metaTags.lookup k = ddSpan.metaTags.lookup k :=
    hget.fillMeta (by decide) _ ddSpan
  refine (hget.keeps_tail api span.span _).trans ?_
  simp only [tagSpanIfContainsException]
  cases hexception : hasException span.span with
  | false =>
      simp only [hasException] at hexception
      simp only [hexception, and_false, Bool.false_eq_true, if_false]
      exact hfill
  | true =>
      simp only [hasException] at hexception
      simp only [hexception, and_true, if_true]
      split_ifs with hkey
      · rw [hkey]
        exact DdSpan.lookup_insertMeta_self _ _ _
      · exact (DdSpan.lookup_insertMeta_ne hkey _ _).trans hfill

theorem metrics_setTagsAfterAttributes (span : SpanExtractArgs) (ddSpan : DdSpan) :
    (setTagsAfterAttributes api span ddSpan).metrics = ddSpan.metrics := by
  refine (ignoresPublicTags_metrics.keeps_tail api span.span _).trans ?_
  have hfill := ignoresPublicTags_metrics.fillMeta (k := "env".toList) (by decide)
    (getOtelEnv api (span.toOtelSpan api)) ddSpan
  simp only [tagSpanIfContainsException]
  split_ifs
  · exact hfill
  · exact hfill

variable (otelSpan : SpanData) (otelResource : Resource)

/-- The links of the span, all of them and in order. -/
theorem spanLinks_otelSpanToDdSpan :
    (otelSpanToDdSpan api otelSpan otelResource).spanLinks =
      otelSpan.links.map (toDdSpanLink api) := by
  refine (ignoresPublicTags_spanLinks.keeps_tail api otelSpan _).trans ?_
  simp only [tagSpanIfContainsException]
  split_ifs <;> rfl

end Mappings
end DdTrace
