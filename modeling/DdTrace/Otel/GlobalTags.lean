import DdTrace.Mappings.SpanTags
import DdTrace.Otel.RulesSeeExported

/-!
# GlobalTags — the tags of the configuration against those of the span

`DD_TAGS` gives default tags to every span, and `DD_ENV` and `DD_VERSION` are said to count more than
them.  The version does: it is set last.  The other two do not keep their place: the global tags are
written over what the span set, and over the environment, which has come in before with the resource.

`tagsAreDefaults_iff` says that the tags are defaults exactly when they contradict neither the tags that
the span sets nor the environment, and when the other writers of the mapping (the resource, the scope, the
description of the span, the exception events) have nothing else for the tags that the span sets.
-/

namespace DdTrace
namespace Otel

open DdTrace.Lib DdTrace.Core DdTrace.Mappings

/-- Strings are printed as they are. -/
structure PrintsStrings (api : MappingApi) : Prop where
  asStr : ∀ s, api.valueAsStr (.string s) = s
  toString : ∀ s, api.valueToString (.string s) = s

/-! ## What an application may expect -/

/-- The span, its scope or the resource has an attribute for a tag: one that is exported under its key,
or one that the mapping looks up for it. -/
def IsSet (k : Str) (spanKeys resourceKeys : List Str) (base : Resource) (s : SpanData) : Prop :=
  (∃ kv ∈ s.attributes, getDdKeyForOtlpAttribute kv.key = k ∨ kv.key ∈ spanKeys) ∨
    (∃ kv ∈ s.instrumentationScope.attributes, kv.key = k) ∨
    ∃ key, (base.lookup key).isSome ∧ (getDdKeyForOtlpAttribute key = k ∨ key ∈ resourceKeys)

def SetsEnv (base : Resource) (s : SpanData) : Prop :=
  IsSet "env".toList [DATADOG_ENV.key]
    [DATADOG_ENV.key, DEPLOYMENT_ENVIRONMENT_NAME.key, DEPLOYMENT_ENVIRONMENT.key] base s

def SetsVersion (base : Resource) (s : SpanData) : Prop :=
  IsSet "version".toList [DATADOG_VERSION.key] [SERVICE_VERSION.key] base s

variable (api : MappingApi) (base : Resource) (cfg : TaggingConfig) (s : SpanData)

/-- The span as it is exported with a configuration. -/
abbrev exported : DdSpan :=
  otelSpanToExportedSpan api (.new cfg) (createDdResource api base cfg) s

/-- The span keeps its own tags, and the environment and the version of the configuration theirs. -/
structure TagsAreDefaults : Prop where
  spanTags : ∀ k v, SpanSets api s k v → (exported api base cfg s).tag k = some v
  env : ∀ env, cfg.env = some env → ¬ SetsEnv base s →
    (exported api base cfg s).service = api.valueAsStr (resourceService api base cfg) →
    (exported api base cfg s).tag "env".toList = some env
  version : ∀ version, cfg.version = some version → ¬ SetsVersion base s →
    (exported api base cfg s).service = api.valueAsStr (resourceService api base cfg) →
    (exported api base cfg s).tag "version".toList = some version

/-! ## What the configuration writes -/

/-- The last entry of `DD_TAGS` for a key. -/
def globalTag (k : Str) : Option Str :=
  (cfg.globalTags.filterMap fun tag => if tag.1 = k then some tag.2 else none).getLast?

/-- The service of the span, before and after the placeholder is replaced. -/
def spanService : Str :=
  let view := viewOf api s (createDdResource api base cfg)
  let mapped := nonemptyOr (view.getAttrStr DATADOG_SERVICE) (getOtelService api view)
  if mapped = DEFAULT_OTLP_SERVICE_NAME then cfg.service.asStr else mapped

/-- The span is one of the service of its resource. -/
def HasResourceService : Prop :=
  spanService api base cfg s = api.valueAsStr (resourceService api base cfg)

instance : Decidable (HasResourceService api base cfg s) :=
  inferInstanceAs (Decidable (_ = _))

/-- What the configuration writes under a key: the version, or else a global tag. -/
def configText (k : Str) : Option Str :=
  (if k = "version".toList ∧ HasResourceService api base cfg s then cfg.version else none).or
    (globalTag cfg k)

/-- The configuration has the same text for a tag of the span, or none, and then the other writers keep
the text. -/
def KeepsTag (k v : Str) : Prop :=
  if (configText api base cfg s k).isSome then configText api base cfg s k = some v
  else KeepsSpanText api s (createDdResource api base cfg) k v

instance (k v : Str) : Decidable (KeepsTag api base cfg s k v) :=
  inferInstanceAs (Decidable (if (configText api base cfg s k).isSome then _ else _))

/-- Nothing contradicts a tag of the span, nor the configuration its own environment. -/
structure NoContradiction : Prop where
  spanTags : ∀ k v, SpanSets api s k v → KeepsTag api base cfg s k v
  env : ∀ env, cfg.env = some env → ¬ SetsEnv base s → HasResourceService api base cfg s →
    globalTag cfg "env".toList = some env ∨ globalTag cfg "env".toList = none ∧ env ≠ []

variable {api base cfg s}

theorem service_exported : (exported api base cfg s).service = spanService api base cfg s := by
  have hmapped := (fields_otelSpanToDdSpan api s (createDdResource api base cfg)).trans
    (fields_otelSpanToDdSpanMinimal api _ _)
  have hexported := fields_otelSpanToExportedSpan api (.new cfg) (createDdResource api base cfg) s
  rw [hmapped] at hexported
  exact congrArg (fun fields => fields.2.1) hexported

theorem tag_setConfigVersion {otelResource : Resource} {serviceName : Value}
    (h : otelResource.lookup SERVICE_NAME.key = some serviceName) (k : Str) (ddSpan : DdSpan) :
    (setConfigVersion api (.new cfg) otelResource ddSpan).tag k =
      (if k = "version".toList ∧ ddSpan.service = api.valueAsStr serviceName then cfg.version
        else none).or (ddSpan.tag k) := by
  simp only [setConfigVersion, CachedConfig.new, h]
  cases cfg.version with
  | none => simp only [ite_self, Option.none_or]
  | some version =>
      by_cases hservice : ddSpan.service = api.valueAsStr serviceName
      · by_cases hkey : k = "version".toList
        · subst hkey
          simp only [hservice, if_true, and_self, Option.some_or]
          exact DdSpan.lookup_insertMeta_self _ _ _
        · simp only [hservice, if_true, hkey, false_and, if_false, Option.none_or]
          exact DdSpan.lookup_insertMeta_ne hkey _ _
      · simp only [hservice, and_false, if_false, Option.none_or]

theorem tag_globalTags (k : Str) (ddSpan : DdSpan) :
    (cfg.globalTags.foldl setGlobalTag ddSpan).tag k = (globalTag cfg k).or (ddSpan.tag k) := by
  refine Frame.get_foldl_of_overwrites (DdSpan.tag k) ?_ ddSpan
  intro ddSpan tag _
  by_cases hkey : tag.1 = k
  · subst hkey
    simp [setGlobalTag]
  · simpa [setGlobalTag, hkey] using DdSpan.lookup_insertMeta_ne (Ne.symm hkey) ddSpan _

/-- The configuration counts, and then the mapping. -/
theorem tag_exported (k : Str) :
    (exported api base cfg s).tag k =
      (configText api base cfg s k).or
        ((otelSpanToDdSpan api s (createDdResource api base cfg)).tag k) := by
  let sampled := otelSamplingToDdSampling s.spanContext.traceFlags
    (otelSpanToDdSpan api s (createDdResource api base cfg))
  let withService := if sampled.service = DEFAULT_OTLP_SERVICE_NAME then
    { sampled with service := cfg.service.asStr } else sampled
  let withTags := cfg.globalTags.foldl setGlobalTag withService
  have hservice : withTags.service = spanService api base cfg s := by
    have hkeeps : Frame.Keeps DdSpan.service
        (setConfigVersion api (.new cfg) (createDdResource api base cfg)) :=
      keeps_setConfigVersion api _
        { insertMeta := fun _ _ _ => rfl
          setErrorField := fun _ _ => rfl } _
    exact (hkeeps withTags).symm.trans service_exported
  have hfirst : withService.tag k =
      (otelSpanToDdSpan api s (createDdResource api base cfg)).tag k := by
    have hsampled : Frame.Keeps (DdSpan.tag k)
        (otelSamplingToDdSampling s.spanContext.traceFlags) :=
      keeps_otelSamplingToDdSampling _ fun _ _ _ => rfl
    refine Eq.trans ?_ (hsampled _)
    simp only [withService]
    split
    · rfl
    · rfl
  calc
    (exported api base cfg s).tag k
        = (if k = "version".toList ∧
            withTags.service = api.valueAsStr (resourceService api base cfg) then cfg.version
            else none).or (withTags.tag k) :=
          tag_setConfigVersion (lookup_service_eq base cfg) k withTags
    _ = (if k = "version".toList ∧ HasResourceService api base cfg s then cfg.version
            else none).or ((globalTag cfg k).or (withService.tag k)) := by
          rw [hservice, tag_globalTags]
          rfl
    _ = (configText api base cfg s k).or
          ((otelSpanToDdSpan api s (createDdResource api base cfg)).tag k) := by
          rw [hfirst, configText, Option.or_assoc]

/-! ## The environment -/

section Env

variable (hset : ¬ SetsEnv base s)
include hset

theorem span_key_ne (kv : KeyValue) (hmem : kv ∈ s.attributes) :
    getDdKeyForOtlpAttribute kv.key ≠ "env".toList ∧ kv.key ≠ DATADOG_ENV.key := by
  refine ⟨?_, ?_⟩
  · intro hkey
    exact hset (.inl ⟨kv, hmem, .inl hkey⟩)
  · intro hkey
    exact hset (.inl ⟨kv, hmem, .inr (List.mem_singleton.2 hkey)⟩)

/-- What the configuration adds to the resource is not exported as the environment. -/
theorem resource_key_ne {key : Str}
    (hkey : ((createDdResource api base cfg).lookup key).isSome) :
    getDdKeyForOtlpAttribute key ≠ "env".toList := by
  by_cases hservice : key = SERVICE_NAME.key
  · -- the two keys of the configuration are mapped to other tags
    subst hservice
    decide
  · by_cases henv : key = DEPLOYMENT_ENVIRONMENT_NAME.key
    · subst henv
      decide
    · rw [lookup_createDdResource_ne api hservice henv] at hkey
      intro heq
      exact hset (.inr (.inr ⟨key, hkey, .inl heq⟩))

theorem lookup_eq_none {key : Str}
    (hkey : key ∈ [DATADOG_ENV.key, DEPLOYMENT_ENVIRONMENT_NAME.key, DEPLOYMENT_ENVIRONMENT.key]) :
    base.lookup key = none := by
  by_contra hsome
  exact hset (.inr (.inr ⟨key, Option.isSome_iff_ne_none.2 hsome, .inr hkey⟩))

theorem getAttrStrOpt_env :
    (viewOf api s (createDdResource api base cfg)).getAttrStrOpt DATADOG_ENV = none := by
  have hget := @AttributeIndices.get_eq_none DATADOG_ENV (by simp [ATTRIBUTE_KEYS]) s.attributes
    fun kv hmem => (span_key_ne hset kv hmem).2
  simp [SpanExtractArgs.toOtelSpan, SpanExtractArgs.new, hget]

/-- The environment of the resource is that of the configuration. -/
theorem getOtelEnv_eq (hprint : PrintsStrings api) {env : Str} (henv : cfg.env = some env) :
    getOtelEnv api (viewOf api s (createDdResource api base cfg)) = env := by
  have hspan : (viewOf api s (createDdResource api base cfg)).getAttrStrOpt DATADOG_ENV = none :=
    getAttrStrOpt_env hset
  have hdatadog : (createDdResource api base cfg).lookup DATADOG_ENV.key = none := by
    rw [lookup_createDdResource_ne api (by decide) (by decide)]
    exact lookup_eq_none hset (by simp)
  have hname : (createDdResource api base cfg).lookup DEPLOYMENT_ENVIRONMENT_NAME.key =
      some (.string env) := by
    rw [lookup_env_createDdResource, lookup_eq_none hset (by simp), henv]
    rfl
  have hold : (createDdResource api base cfg).lookup DEPLOYMENT_ENVIRONMENT.key = none := by
    rw [lookup_createDdResource_ne api (by decide) (by decide)]
    exact lookup_eq_none hset (by simp)
  have hlookup : ∀ attrKey, (viewOf api s (createDdResource api base cfg)).getResAttributeOpt
      attrKey = (createDdResource api base cfg).lookup attrKey.key := fun _ => rfl
  unfold getOtelEnv getResSpanAttributes getResSpanAttributes getResAttributes getResAttributes
    getResAttributes
  simp only [hlookup, hspan, hdatadog, hname, hold]
  cases env with
  | nil => simp [Option.filter, hprint.asStr]
  | cons c env => simp [Option.filter, hprint.asStr, hprint.toString]

/-- The mapping exports it, if it is not empty. -/
theorem tag_env_mapped (hprint : PrintsStrings api) {env : Str} (henv : cfg.env = some env) :
    (otelSpanToDdSpan api s (createDdResource api base cfg)).tag "env".toList =
      nonemptyText env := by
  let resource := createDdResource api base cfg
  have hne : ∀ keys ∈ EXCEPTION_KEYS, "env".toList ≠ keys.2 := by decide
  have herror : Frame.Keeps (DdSpan.tag "env".toList) (setError api s.status) :=
    keeps_setError api (fun keys hmem => ignoresTag_of_ne (hne keys hmem)) (fun _ _ => rfl) s.status
  -- none of the writers before the default has an environment
  have hexplicit : explicitText (viewOf api s resource) "env".toList = none := by
    have htable : (DATADOG_ENV, "env".toList) ∈ DD_SEMANTICS_KEY_TO_META_KEY := List.mem_cons_self ..
    rw [explicitText_eq htable, OtelSpan.getAttrStr, getAttrStrOpt_env hset]
    rfl
  have hresource : (api.resourceOrder.iter resource).filterMap
      (resourceText api "env".toList) = [] := by
    rw [List.filterMap_eq_nil_iff]
    intro entry hmem
    have hlookup : resource.lookup entry.1 = some entry.2 := api.resourceOrder.mem_iter.1 hmem
    exact if_neg (resource_key_ne hset (Option.isSome_iff_exists.2 ⟨_, hlookup⟩))
  have hscope : s.instrumentationScope.attributes.filterMap (scopeText api "env".toList) = [] := by
    rw [List.filterMap_eq_nil_iff]
    intro kv hmem
    exact if_neg fun hkey => hset (.inr (.inl ⟨kv, hmem, hkey⟩))
  have hattributes : s.attributes.filterMap (attributeText api "env".toList) = [] := by
    rw [List.filterMap_eq_nil_iff]
    intro kv hmem
    exact if_neg (span_key_ne hset kv hmem).1
  have hminimal : (otelSpanToDdSpanMinimal api (.new s resource) false).tag "env".toList = none :=
    tag_otelSpanToDdSpanMinimal api (by decide) (by decide) _
  have hversion : defaultText "version".toList (serviceVersion api resource) "env".toList = none :=
    defaultText_of_ne (by decide) _
  rw [otelSpanToDdSpan_eq, herror, tag_beforeError_of_isMetaKey api s resource rfl]
  simp only [hexplicit, hresource, hscope, hattributes, hminimal, hversion]
  exact congrArg nonemptyText (getOtelEnv_eq hset hprint henv)

end Env

/-! ## The tags of the configuration -/

theorem configText_env : configText api base cfg s "env".toList = globalTag cfg "env".toList := by
  have hne : "env".toList ≠ "version".toList := by decide
  rw [configText, if_neg fun h => hne h.1, Option.none_or]

/-- A tag of the span is exported if the configuration and the other writers keep it. -/
theorem tag_exported_iff {k v : Str} (h : SpanSets api s k v) :
    (exported api base cfg s).tag k = some v ↔ KeepsTag api base cfg s k v := by
  rw [tag_exported, KeepsTag]
  cases configText api base cfg s k with
  | none => exact tag_eq_iff_keepsSpanText h
  | some text => simp

/-- The tags of the configuration are defaults if nothing is contradicted. -/
theorem tagsAreDefaults_iff (hprint : PrintsStrings api) :
    TagsAreDefaults api base cfg s ↔ NoContradiction api base cfg s := by
  constructor
  · intro h
    refine ⟨?_, ?_⟩
    · intro k v hsets
      exact (tag_exported_iff hsets).1 (h.spanTags k v hsets)
    · intro env henv hset hservice
      have hexported := h.env env henv hset (service_exported.trans hservice)
      rw [tag_exported, tag_env_mapped hset hprint henv, configText_env] at hexported
      cases htag : globalTag cfg "env".toList with
      | some text =>
          rw [htag] at hexported
          exact .inl hexported
      | none =>
          rw [htag] at hexported
          refine .inr ⟨rfl, ?_⟩
          rintro rfl
          cases hexported
  · intro h
    refine ⟨?_, ?_, ?_⟩
    · intro k v hsets
      exact (tag_exported_iff hsets).2 (h.spanTags k v hsets)
    · intro env henv hset hservice
      rw [tag_exported, tag_env_mapped hset hprint henv, configText_env]
      rcases h.env env henv hset (service_exported.symm.trans hservice) with htag | ⟨htag, hne⟩
      · rw [htag]
        rfl
      · rw [htag]
        exact nonemptyText_of_ne_nil hne
    · intro version hversion _ hservice
      rw [tag_exported, configText, if_pos ⟨rfl, service_exported.symm.trans hservice⟩, hversion]
      rfl

theorem plain_printsStrings : PrintsStrings .plain :=
  { asStr := fun _ => rfl
    toString := fun _ => rfl }

/-- A request of a known customer. -/
def customerSpan : SpanData :=
  { requestSpan with
    attributes :=
      [{ key := "customer".toList, value := .string "acme".toList },
       { key := HTTP_ROUTE.key, value := .string "/cart".toList },
       { key := HTTP_RESPONSE_STATUS_CODE.key, value := .i64 200 },
       { key := "retried".toList, value := .bool true }] }

theorem tagsAreDefaults_customer : TagsAreDefaults .plain appResource configured customerSpan := by
  refine (tagsAreDefaults_iff plain_printsStrings).2 ⟨?_, ?_⟩
  · have hkeys : ∀ k ∈ spanKeys customerSpan, ∀ v ∈ spanText .plain customerSpan k,
        KeepsTag .plain appResource configured customerSpan k v := by decide
    intro k v hsets
    exact hkeys k (mem_spanKeys_of_spanSets hsets) v hsets.2
  · intro env henv _ _
    cases henv
    exact .inr (by decide)

/-- The span has a team of its own. -/
theorem tag_replaced :
    ¬ TagsAreDefaults .plain ∅ configured
      (spanWithAttribute { key := "team".toList, value := .string "b".toList }) := by
  intro h
  have hsets : SpanSets .plain
      (spanWithAttribute { key := "team".toList, value := .string "b".toList })
      "team".toList "b".toList := ⟨by decide, by decide⟩
  have hteam := h.spanTags "team".toList "b".toList hsets
  revert hteam
  decide

end Otel
end DdTrace
