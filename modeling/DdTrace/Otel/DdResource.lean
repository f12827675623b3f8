import DdTrace.Otel.DdtraceTransform

/-!
# DdResource — the resource with the configured service and environment

The configuration knows the service, the environment and the version that a user gave to the tracer.
The first two reach the spans through the resource: `create_dd_resource` completes the one that the
application has set.  The version and the tags are kept for the exporter.
-/

namespace DdTrace
namespace Otel

open DdTrace.Lib DdTrace.Core DdTrace.Mappings

/-! ## Configuration -/

inductive ServiceName
  | default
  | configured (name : Str)
  deriving DecidableEq

namespace ServiceName

def isDefault : ServiceName → Bool
  | .default => true
  | .configured _ => false

def asStr : ServiceName → Str
  | .default => "unnamed-rust-service".toList
  | .configured name => name

end ServiceName

/-- The settings that describe every span: `DD_SERVICE`, `DD_ENV`, `DD_VERSION` and `DD_TAGS`. -/
structure TaggingConfig where
  service : ServiceName
  env : Option Str
  version : Option Str
  globalTags : List (Str × Str)

def CachedConfig.new (cfg : TaggingConfig) : CachedConfig :=
  { service := cfg.service.asStr
    globalTags := cfg.globalTags
    version := cfg.version }

/-! ## Resource -/

/-- The additional attributes replace those of the base. -/
def mergeResource (base : Option Resource) (additional : List (Str × Value)) : Resource :=
  additional.foldl (fun resource kv => AList.insert kv.1 kv.2 resource) (base.getD ∅)

def UNKNOWN_SERVICE : Str := "unknown_service".toList

variable (api : MappingApi)

/-- The service that replaces the one of the resource. -/
def serviceAttributes (resource : Resource) (cfg : TaggingConfig) : List (Str × Value) :=
  let otelServiceName := resource.lookup SERVICE_NAME.key
  -- there is no service, or the one that the SDK puts in
  if otelServiceName.all fun name => api.valueAsStr name = UNKNOWN_SERVICE then
    [(SERVICE_NAME.key, .string cfg.service.asStr)]
  else if !cfg.service.isDefault then [(SERVICE_NAME.key, .string cfg.service.asStr)]
  else []

/-- The environment, which only fills a gap. -/
def envAttributes (resource : Resource) (cfg : TaggingConfig) : List (Str × Value) :=
  match cfg.env with
  | none => []
  | some env =>
      if (resource.lookup DEPLOYMENT_ENVIRONMENT_NAME.key).isNone then
        [(DEPLOYMENT_ENVIRONMENT_NAME.key, .string env)]
      else []

def createDdResource (resource : Resource) (cfg : TaggingConfig) : Resource :=
  let attributes := serviceAttributes api resource cfg ++ envAttributes resource cfg
  -- with nothing to add the resource is returned as it is
  if attributes.isEmpty then resource else mergeResource (some resource) attributes

/-! ## What the resource holds -/

theorem createDdResource_eq (resource : Resource) (cfg : TaggingConfig) :
    createDdResource api resource cfg =
      mergeResource (some resource) (serviceAttributes api resource cfg ++
        envAttributes resource cfg) := by
  simp only [createDdResource]
  split
  · rename_i hempty
    rw [List.isEmpty_iff.1 hempty]
    rfl
  · rfl

theorem mergeResource_append (base : Resource) (l₁ l₂ : List (Str × Value)) :
    mergeResource (some base) (l₁ ++ l₂) = mergeResource (some (mergeResource (some base) l₁)) l₂ := by
  simp [mergeResource]

/-- Merging attributes of another key. -/
theorem lookup_mergeResource_ne {k : Str} {additional : List (Str × Value)}
    (h : ∀ kv ∈ additional, kv.1 ≠ k) (base : Resource) :
    (mergeResource (some base) additional).lookup k = base.lookup k := by
  have hkeep : Frame.Keeps (fun resource : Resource => resource.lookup k) fun resource =>
      additional.foldl (fun resource kv => AList.insert kv.1 kv.2 resource) resource :=
    Frame.keeps_foldl fun kv hkv resource => AList.lookup_insert_ne (Ne.symm (h kv hkv))
  exact hkeep base

theorem key_of_mem_serviceAttributes {resource : Resource} {cfg : TaggingConfig} {kv : Str × Value}
    (h : kv ∈ serviceAttributes api resource cfg) : kv.1 = SERVICE_NAME.key := by
  simp only [serviceAttributes] at h
  split_ifs at h <;> simp_all

theorem key_of_mem_envAttributes {resource : Resource} {cfg : TaggingConfig} {kv : Str × Value}
    (h : kv ∈ envAttributes resource cfg) : kv.1 = DEPLOYMENT_ENVIRONMENT_NAME.key := by
  unfold envAttributes at h
  split at h
  · cases h
  · split at h
    · rw [List.mem_singleton.1 h]
    · cases h

/-- Beside the service and the environment nothing changes. -/
theorem lookup_createDdResource_ne {k : Str} (hservice : k ≠ SERVICE_NAME.key)
    (henv : k ≠ DEPLOYMENT_ENVIRONMENT_NAME.key) (resource : Resource) (cfg : TaggingConfig) :
    (createDdResource api resource cfg).lookup k = resource.lookup k := by
  rw [createDdResource_eq]
  refine lookup_mergeResource_ne ?_ resource
  intro kv hkv heq
  rcases List.mem_append.1 hkv with hkv | hkv
  · exact hservice (heq.symm.trans (key_of_mem_serviceAttributes api hkv))
  · exact henv (heq.symm.trans (key_of_mem_envAttributes hkv))

/-- The environment of the resource, or else that of the configuration. -/
theorem lookup_env_createDdResource (resource : Resource) (cfg : TaggingConfig) :
    (createDdResource api resource cfg).lookup DEPLOYMENT_ENVIRONMENT_NAME.key =
      (resource.lookup DEPLOYMENT_ENVIRONMENT_NAME.key).or (cfg.env.map Value.string) := by
  have hservice : ∀ kv ∈ serviceAttributes api resource cfg,
      kv.1 ≠ DEPLOYMENT_ENVIRONMENT_NAME.key := by
    intro kv hkv heq
    have hkeys : SERVICE_NAME.key ≠ DEPLOYMENT_ENVIRONMENT_NAME.key := by decide
    exact hkeys ((key_of_mem_serviceAttributes api hkv).symm.trans heq)
  have hbase := lookup_mergeResource_ne hservice resource
  rw [createDdResource_eq, mergeResource_append]
  unfold envAttributes
  cases cfg.env with
  | none => simpa [mergeResource] using hbase
  | some env =>
      cases hlookup : resource.lookup DEPLOYMENT_ENVIRONMENT_NAME.key with
      | none => exact AList.lookup_insert _
      | some value => simpa [mergeResource, hlookup] using hbase

/-- The service of the resource, unless the configured one replaces it. -/
theorem lookup_service_createDdResource (resource : Resource) (cfg : TaggingConfig) :
    (createDdResource api resource cfg).lookup SERVICE_NAME.key =
      if (resource.lookup SERVICE_NAME.key).all (fun name => api.valueAsStr name = UNKNOWN_SERVICE) ∨
          !cfg.service.isDefault then some (.string cfg.service.asStr)
      else resource.lookup SERVICE_NAME.key := by
  have henv : ∀ kv ∈ envAttributes resource cfg, kv.1 ≠ SERVICE_NAME.key := by
    intro kv hkv heq
    have hkeys : DEPLOYMENT_ENVIRONMENT_NAME.key ≠ SERVICE_NAME.key := by decide
    exact hkeys ((key_of_mem_envAttributes hkv).symm.trans heq)
  rw [createDdResource_eq, mergeResource_append, lookup_mergeResource_ne henv]
  simp only [serviceAttributes]
  by_cases hunknown :
      (resource.lookup SERVICE_NAME.key).all fun name => api.valueAsStr name = UNKNOWN_SERVICE
  · rw [if_pos hunknown, if_pos (.inl hunknown)]
    exact AList.lookup_insert _
  · rw [if_neg hunknown]
    by_cases hconfigured : !cfg.service.isDefault
    · rw [if_pos hconfigured, if_pos (.inr hconfigured)]
      exact AList.lookup_insert _
    · rw [if_neg hconfigured, if_neg (not_or.2 ⟨hunknown, hconfigured⟩)]
      rfl

end Otel
end DdTrace
