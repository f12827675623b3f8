import DdTrace.Core.Sampling
import DdTrace.Mappings.Transform

/-!
# DdtraceTransform — the mapping of a chunk

Beyond the mapping of the agent, an exported span gets a sampling priority if it has none, and what
the configuration knows of every span: the service, the global tags and the version.
-/

namespace DdTrace
namespace Otel

open DdTrace.Lib DdTrace.Core DdTrace.Mappings

/-- What the mapping reads of the configuration. -/
structure CachedConfig where
  service : Str
  globalTags : List (Str × Str)
  version : Option Str

/-- A span without a sampling priority is given one by its flags. -/
def otelSamplingToDdSampling (otelTraceFlags : TraceFlags) (ddSpan : DdSpan) : DdSpan :=
  match ddSpan.metrics.lookup SAMPLING_PRIORITY_KEY with
  | some _ => ddSpan
  | none =>
      let priority := if otelTraceFlags.isSampled then Priority.autoKeep else Priority.autoReject
      ddSpan.insertMetric SAMPLING_PRIORITY_KEY (Binary64.ofInt priority.intoI8.toInt)

variable (api : MappingApi) (cachedConfig : CachedConfig)

def setGlobalTag (ddSpan : DdSpan) (tag : Str × Str) : DdSpan := ddSpan.insertMeta tag.1 tag.2

/-- The version is that of the service of the resource, so another service does not get it. -/
def setConfigVersion (otelResource : Resource) (ddSpan : DdSpan) : DdSpan :=
  match cachedConfig.version, otelResource.lookup SERVICE_NAME.key with
  | some version, some serviceName =>
      if ddSpan.service = api.valueAsStr serviceName then
        ddSpan.insertMeta "version".toList version
      else ddSpan
  | _, _ => ddSpan

def addConfigMetadata (otelResource : Resource) (ddSpan : DdSpan) : DdSpan :=
  let ddSpan :=
    if ddSpan.service = DEFAULT_OTLP_SERVICE_NAME then
      { ddSpan with service := cachedConfig.service }
    else ddSpan
  let ddSpan := cachedConfig.globalTags.foldl setGlobalTag ddSpan
  setConfigVersion api cachedConfig otelResource ddSpan

/-- One span of a chunk. -/
def otelSpanToExportedSpan (otelResource : Resource) (s : SpanData) : DdSpan :=
  let ddSpan := otelSpanToDdSpan api s otelResource
  let ddSpan := otelSamplingToDdSampling s.spanContext.traceFlags ddSpan
  addConfigMetadata api cachedConfig otelResource ddSpan

def otelTraceChunkToDdTraceChunk (spanData : List SpanData) (otelResource : Resource) :
    List DdSpan :=
  spanData.map (otelSpanToExportedSpan api cachedConfig otelResource)

/-! ## What is left alone -/

section Keeps

variable {B : Type} {get : DdSpan → B}

theorem keeps_otelSamplingToDdSampling (otelTraceFlags : TraceFlags)
    (h : ∀ k v ddSpan, get (ddSpan.insertMetric k v) = get ddSpan) :
    Frame.Keeps get (otelSamplingToDdSampling otelTraceFlags) := by
  intro ddSpan
  simp only [otelSamplingToDdSampling]
  split
  · rfl
  · exact h _ _ ddSpan

theorem keeps_setConfigVersion (h : IgnoresPublicTags get) (otelResource : Resource) :
    Frame.Keeps get (setConfigVersion api cachedConfig otelResource) := by
  intro ddSpan
  simp only [setConfigVersion]
  split
  · split_ifs
    · exact h.insertMeta (by decide) _ ddSpan
    · rfl
  · rfl

/-- The configuration changes the service, the global tags and the version. -/
theorem keeps_addConfigMetadata (h : IgnoresPublicTags get)
    (hservice : ∀ service ddSpan, get { ddSpan with service := service } = get ddSpan)
    (htags : ∀ tag ∈ cachedConfig.globalTags,
      Frame.Keeps get fun ddSpan => setGlobalTag ddSpan tag) (otelResource : Resource) :
    Frame.Keeps get (addConfigMetadata api cachedConfig otelResource) := by
  intro ddSpan
  have hfirst : get (if ddSpan.service = DEFAULT_OTLP_SERVICE_NAME then
      { ddSpan with service := cachedConfig.service } else ddSpan) = get ddSpan := by
    split_ifs
    · exact hservice _ ddSpan
    · rfl
  calc
    get (addConfigMetadata api cachedConfig otelResource ddSpan)
        = get (cachedConfig.globalTags.foldl setGlobalTag
            (if ddSpan.service = DEFAULT_OTLP_SERVICE_NAME then
              { ddSpan with service := cachedConfig.service } else ddSpan)) :=
          keeps_setConfigVersion api cachedConfig h otelResource _
    _ = get (if ddSpan.service = DEFAULT_OTLP_SERVICE_NAME then
          { ddSpan with service := cachedConfig.service } else ddSpan) :=
          Frame.keeps_foldl htags _
    _ = get ddSpan := hfirst

end Keeps

end Otel
end DdTrace
