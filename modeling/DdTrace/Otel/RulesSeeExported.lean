import DdTrace.Mappings.AttributeLookup
import DdTrace.Mappings.SpanFields
import DdTrace.Otel.DdResource
import DdTrace.TraceSampling.RuleMatching

/-!
# RulesSeeExported — the fields that rules compare and those that are exported

A sampling rule is written against what a user sees of the exported spans.  The sampler takes the
operation name, the service and the resource from its own view of the span, the exporter from the view of
the finished span; the views are the same (`toOtelSpan_preSampled`).

Only after the mapping does the exporter put the configured service in the place of the one that stands
for none.  The sampler does not: `seesExported_iff` says that its rules see the exported fields if and
only if there is a service to start with.
-/

namespace DdTrace
namespace Otel

open DdTrace.Lib DdTrace.Core DdTrace.Mappings DdTrace.TraceSampling

/-! ## The two views -/

/-- The values whose texts do not depend on how floats are printed. -/
def Value.IsPlain : Value → Prop
  | .bool _ => True
  | .i64 _ => True
  | .string _ => True
  | .f64 _ => False
  | .array _ => False

/-- The API prints the plain values as the exporter does. -/
def PrintsPlain (api : MappingApi) : Prop :=
  ∀ v : Value, v.IsPlain → api.valueToString v = otelValueStringRepr api v

/-- The span when it is sampled. -/
def preSampled (s : SpanData) (otelResource : Resource) : PreSampledSpan :=
  .new s.name s.spanKind s.attributes otelResource

variable {api : MappingApi}

theorem toOtelSpan_preSampled (hprint : PrintsPlain api) {s : SpanData}
    (hplain : ∀ kv ∈ s.attributes, kv.value.IsPlain) (otelResource : Resource) :
    (preSampled s otelResource).toOtelSpan api =
      (SpanExtractArgs.new s otelResource).toOtelSpan api := by
  have hstr : ∀ attrKey, ((preSampled s otelResource).toOtelSpan api).getAttrStrOpt attrKey =
      ((SpanExtractArgs.new s otelResource).toOtelSpan api).getAttrStrOpt attrKey := by
    intro attrKey
    simp only [preSampled, PreSampledSpan.new, PreSampledSpan.toOtelSpan, SpanExtractArgs.new,
      SpanExtractArgs.toOtelSpan, Option.bind_eq_bind]
    cases (AttributeIndices.fromAttributeSlice s.attributes).get attrKey with
    | none => rfl
    | some idx =>
        cases hkv : s.attributes[idx]? with
        | none => simp [hkv]
        | some kv =>
            have hmem : kv ∈ s.attributes := List.mem_of_getElem? hkv
            simp [hkv, hprint kv.value (hplain kv hmem)]
  have hview : ∀ view : OtelSpan, ∀ getAttrStrOpt, getAttrStrOpt = view.getAttrStrOpt →
      { view with getAttrStrOpt := getAttrStrOpt } = view := by
    rintro view _ rfl
    rfl
  exact hview ((SpanExtractArgs.new s otelResource).toOtelSpan api) _ (funext hstr)

/-! ## No `datadog.` attribute -/

/-- The attribute is not one that sets a field by itself. -/
def IsPublicKey (k : Str) : Prop := ¬ "datadog.".toList <+: k

theorem getAttrStr_of_isPublicKey {attrKey : AttributeKey} (hmem : attrKey ∈ ATTRIBUTE_KEYS)
    (hdatadog : "datadog.".toList <+: attrKey.key) {s : SpanData}
    (h : ∀ kv ∈ s.attributes, IsPublicKey kv.key) (otelResource : Resource) :
    ((SpanExtractArgs.new s otelResource).toOtelSpan api).getAttrStr attrKey = [] := by
  have hne : ∀ kv ∈ s.attributes, kv.key ≠ attrKey.key := by
    intro kv hkv heq
    exact h kv hkv (heq ▸ hdatadog)
  have hget := AttributeIndices.get_eq_none hmem hne
  simp [OtelSpan.getAttrStr, SpanExtractArgs.toOtelSpan, SpanExtractArgs.new, hget]

/-! ## The exported fields -/

/-- After the mapping only the service is set again, where it is the one that stands for none. -/
theorem fields_otelSpanToExportedSpan (api : MappingApi) (cachedConfig : CachedConfig)
    (otelResource : Resource) (s : SpanData) :
    (otelSpanToExportedSpan api cachedConfig otelResource s).fields =
      let (name, service, resource, type) := (otelSpanToDdSpan api s otelResource).fields
      (name, if service = DEFAULT_OTLP_SERVICE_NAME then cachedConfig.service else service, resource,
        type) := by
  have hsampling : Frame.Keeps DdSpan.fields (otelSamplingToDdSampling s.spanContext.traceFlags) :=
    keeps_otelSamplingToDdSampling _ fun _ _ _ => rfl
  have htags : Frame.Keeps DdSpan.fields fun ddSpan =>
      cachedConfig.globalTags.foldl setGlobalTag ddSpan :=
    Frame.keeps_foldl fun _ _ _ => rfl
  have hversion : Frame.Keeps DdSpan.fields (setConfigVersion api cachedConfig otelResource) :=
    keeps_setConfigVersion api cachedConfig ignoresPublicTags_fields otelResource
  -- what is left are the four fields of the mapped span, and their service
  have hfields := hsampling (otelSpanToDdSpan api s otelResource)
  simp only [DdSpan.fields, Prod.mk.injEq] at hfields
  obtain ⟨hname, hservice, hresource, htype⟩ := hfields
  refine (hversion _).trans ((htags _).trans ?_)
  simp only [DdSpan.fields, ← hname, ← hservice, ← hresource, ← htype]
  split_ifs <;> rfl

/-! ## The service -/

/-- The service of a resource that was completed with the configuration. -/
def resourceService (api : MappingApi) (base : Resource) (cfg : TaggingConfig) : Value :=
  match (base.lookup SERVICE_NAME.key).filter fun name =>
      api.valueAsStr name ≠ UNKNOWN_SERVICE ∧ cfg.service.isDefault with
  | some name => name
  | none => .string cfg.service.asStr

theorem lookup_service_eq (base : Resource) (cfg : TaggingConfig) :
    (createDdResource api base cfg).lookup SERVICE_NAME.key =
      some (resourceService api base cfg) := by
  rw [lookup_service_createDdResource, resourceService]
  cases base.lookup SERVICE_NAME.key with
  | none => simp
  | some name =>
      by_cases hname : api.valueAsStr name = UNKNOWN_SERVICE
      · simp [hname, Option.filter]
      · cases cfg.service.isDefault with
        | false => simp
        | true => simp [hname, Option.filter]

/-- There is a service: the span's own, or else that of the resource. -/
def NamesService (api : MappingApi) (own : Str) (service : Value) : Prop :=
  if own ≠ [] then own ≠ DEFAULT_OTLP_SERVICE_NAME
  else api.valueAsStr service ≠ [] ∧ api.valueToString service ≠ DEFAULT_OTLP_SERVICE_NAME

instance (api : MappingApi) (own : Str) (service : Value) :
    Decidable (NamesService api own service) :=
  inferInstanceAs (Decidable (if own ≠ [] then own ≠ DEFAULT_OTLP_SERVICE_NAME
    else api.valueAsStr service ≠ [] ∧ api.valueToString service ≠ DEFAULT_OTLP_SERVICE_NAME))

theorem getOtelService_ne_iff {span : OtelSpan} {service : Value}
    (h : span.getResAttributeOpt SERVICE_NAME = some service) :
    getOtelService api span ≠ DEFAULT_OTLP_SERVICE_NAME ↔
      NamesService api (span.getAttrStr SERVICE_NAME) service := by
  have hresource : (if (api.valueAsStr service).isEmpty then DEFAULT_OTLP_SERVICE_NAME
      else api.valueToString service) ≠ DEFAULT_OTLP_SERVICE_NAME ↔ NamesService api [] service := by
    cases hempty : api.valueAsStr service with
    | nil => simp [NamesService, hempty]
    | cons c rest => simp [NamesService, hempty]
  unfold getOtelService OtelSpan.getAttrStr
  rw [h]
  cases hown : span.getAttrStrOpt SERVICE_NAME with
  | none =>
      rw [Option.getD_none, ← hresource]
      cases hempty : (api.valueAsStr service).isEmpty with
      | true => simp [Option.filter, hempty]
      | false => simp [Option.filter, hempty]
  | some own =>
      cases own with
      | nil =>
          rw [Option.getD_some, ← hresource]
          cases hempty : (api.valueAsStr service).isEmpty with
          | true => simp [Option.filter, hempty]
          | false => simp [Option.filter, hempty]
      | cons c own => simp [NamesService, Option.filter]

/-! ## What the rules see -/

/-- The compared texts are those of the exported span. -/
structure SeesExported (compared : ComparedFields) (ddSpan : DdSpan) : Prop where
  name : compared.name = ddSpan.name
  service : compared.service = ddSpan.service
  resource : compared.resource = ddSpan.resource

/-- Without `datadog.` attributes the mapped span has the compared texts. -/
theorem seesExported_otelSpanToDdSpan (hprint : PrintsPlain api) {s : SpanData}
    (hplain : ∀ kv ∈ s.attributes, kv.value.IsPlain)
    (hpublic : ∀ kv ∈ s.attributes, IsPublicKey kv.key) (otelResource : Resource) :
    SeesExported (comparedFields api (preSampled s otelResource))
      (otelSpanToDdSpan api s otelResource) := by
  have hfields := (fields_otelSpanToDdSpan api s otelResource).trans
    (fields_otelSpanToDdSpanMinimal api _ _)
  simp only [DdSpan.fields, Prod.mk.injEq] at hfields
  obtain ⟨hname, hservice, hresource, -⟩ := hfields
  rw [getAttrStr_of_isPublicKey (by simp [ATTRIBUTE_KEYS]) (by decide) hpublic] at hname
  rw [getAttrStr_of_isPublicKey (by simp [ATTRIBUTE_KEYS]) (by decide) hpublic] at hservice
  rw [getAttrStr_of_isPublicKey (by simp [ATTRIBUTE_KEYS]) (by decide) hpublic] at hresource
  simp only [comparedFields, toOtelSpan_preSampled hprint hplain]
  exact ⟨hname.symm, hservice.symm, hresource.symm⟩

/-- The rules see what is exported, if there is a service to start with. -/
theorem seesExported_iff (hprint : PrintsPlain api) (base : Resource) (cfg : TaggingConfig)
    {chunk : List SpanData} {s : SpanData} {ddSpan : DdSpan}
    (hmem : (s, ddSpan) ∈ chunk.zip
      (otelTraceChunkToDdTraceChunk api (.new cfg) chunk (createDdResource api base cfg)))
    (hplain : ∀ kv ∈ s.attributes, kv.value.IsPlain)
    (hpublic : ∀ kv ∈ s.attributes, IsPublicKey kv.key) :
    SeesExported (comparedFields api (preSampled s (createDdResource api base cfg))) ddSpan ↔
      cfg.service.asStr = DEFAULT_OTLP_SERVICE_NAME ∨
        NamesService api
          (((SpanExtractArgs.new s (createDdResource api base cfg)).toOtelSpan api).getAttrStr
            SERVICE_NAME) (resourceService api base cfg) := by
  have hspan : otelSpanToExportedSpan api (.new cfg) (createDdResource api base cfg) s = ddSpan := by
    rw [otelTraceChunkToDdTraceChunk, ← List.map_prod_left_eq_zip] at hmem
    obtain ⟨s', -, heq⟩ := List.mem_map.1 hmem
    cases heq
    rfl
  have hmapped := seesExported_otelSpanToDdSpan hprint hplain hpublic
    (createDdResource api base cfg)
  have hexported := fields_otelSpanToExportedSpan api (.new cfg)
    (createDdResource api base cfg) s
  simp only [hspan, DdSpan.fields, ← hmapped.name, ← hmapped.service, ← hmapped.resource,
    Prod.mk.injEq] at hexported
  obtain ⟨hname, hservice, hresource, -⟩ := hexported
  have hview := toOtelSpan_preSampled hprint hplain (createDdResource api base cfg)
  have hnames := @getOtelService_ne_iff api
    ((SpanExtractArgs.new s (createDdResource api base cfg)).toOtelSpan api) _
    (lookup_service_eq base cfg)
  rw [← hnames, ← hview]
  constructor
  · intro h
    have heq := h.service.trans hservice
    by_cases hdefault : (comparedFields api
        (preSampled s (createDdResource api base cfg))).service = DEFAULT_OTLP_SERVICE_NAME
    · rw [if_pos hdefault, hdefault] at heq
      exact .inl heq.symm
    · exact .inr hdefault
  · intro h
    refine ⟨hname.symm, ?_, hresource.symm⟩
    rw [hservice]
    split
    · rename_i hdefault
      exact h.elim (fun hcfg => hdefault.trans hcfg.symm) fun hne => absurd hdefault hne
    · rfl

theorem plain_printsPlain : PrintsPlain .plain := by
  intro v hv
  cases v with
  | bool b => rfl
  | i64 i => rfl
  | string s => rfl
  | f64 f => cases hv
  | array items => cases hv

/-- A tracer that is only given the service of its spans. -/
def unconfigured : TaggingConfig :=
  { service := .default, env := none, version := none, globalTags := [] }

/-- A tracer with a service, an environment, a version and a global tag. -/
def configured : TaggingConfig :=
  { service := .configured "shop".toList
    env := some "prod".toList
    version := some "1".toList
    globalTags := [("team".toList, "a".toList)] }

/-- A request that a server has answered. -/
def requestSpan : SpanData :=
  { SpanData.ofIds 1 1 with
    spanKind := .server
    name := "GET /cart".toList
    attributes :=
      [{ key := HTTP_REQUEST_METHOD.key, value := .string "GET".toList },
       { key := HTTP_ROUTE.key, value := .string "/cart".toList },
       { key := HTTP_RESPONSE_STATUS_CODE.key, value := .i64 200 },
       { key := SERVICE_NAME.key, value := .string "cart".toList },
       { key := "customer.known".toList, value := .bool true }] }

/-- The resource of an application that names itself. -/
def appResource : Resource :=
  AList.insert "host.name".toList (.string "h1".toList)
    (AList.insert SERVICE_NAME.key (.string "backend".toList) ∅)

theorem seesExported_request :
    let resource := createDdResource .plain appResource configured
    SeesExported (comparedFields .plain (preSampled requestSpan resource))
      (otelSpanToExportedSpan .plain (.new configured) resource requestSpan) := by
  intro resource
  have hmem : (requestSpan, otelSpanToExportedSpan .plain (.new configured) resource requestSpan) ∈
      [requestSpan].zip
        (otelTraceChunkToDdTraceChunk .plain (.new configured) [requestSpan] resource) :=
    List.mem_singleton.2 rfl
  have hplain : ∀ kv ∈ requestSpan.attributes, kv.value.IsPlain := by
    simp [requestSpan, Value.IsPlain]
  have hpublic : ∀ kv ∈ requestSpan.attributes, IsPublicKey kv.key := by
    unfold IsPublicKey
    decide
  exact (seesExported_iff plain_printsPlain appResource configured hmem hplain hpublic).2
    (.inr (by decide))

/-- The application gives its resource an empty service. -/
theorem service_replaced :
    let span := SpanData.ofIds 1 1
    let resource := createDdResource .plain (AList.insert SERVICE_NAME.key (.string []) ∅)
      unconfigured
    ∃ ddSpan,
      (span, ddSpan) ∈
        [span].zip (otelTraceChunkToDdTraceChunk .plain (.new unconfigured) [span] resource) ∧
      ¬ SeesExported (comparedFields .plain (preSampled span resource)) ddSpan := by
  refine ⟨_, List.mem_singleton.2 rfl, ?_⟩
  intro h
  have hservice := h.service
  revert hservice
  decide

end Otel
end DdTrace
