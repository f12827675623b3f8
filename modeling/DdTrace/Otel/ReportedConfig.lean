import DdTrace.Otel.ConfigBuilder

/-!
# ReportedConfig — what telemetry says of a configuration

Telemetry reports every setting with its value as a text and with the origin of the value.
`reported_reads_back` is about values of the environment: what is reported may differ from the text that
was read, but it would be read as the same value.
-/

namespace DdTrace
namespace Otel

open DdTrace.Lib DdTrace.Core

/-- A setting as it is reported. -/
structure Configuration where
  name : Str
  value : Str
  origin : ConfigSourceOrigin
  configId : Option Str
  deriving DecidableEq

variable {α : Type*}

/-- An item without override has no identifier. -/
def itemConfiguration (name : SupportedConfigurations) (type : ConfigType α) (item : ConfigItem α) :
    Configuration :=
  { name := name.asStr
    value := type.getConfigurationValue item.value
    origin := item.source
    configId := none }

def overrideConfiguration (name : SupportedConfigurations) (type : ConfigType α)
    (item : ConfigItemWithOverride α) : Configuration :=
  { name := name.asStr
    value := type.getConfigurationValue item.value
    origin := item.source
    configId := item.configId }

namespace ConfigItems

variable (api : ConfigApi) (self : ConfigItems)

def getConfiguration (s : Setting) : Configuration :=
  itemConfiguration s.name (s.type api.f64) (self.item s)

def getTelemetryConfiguration : List Configuration :=
  [ overrideConfiguration .DD_SERVICE serviceType self.service,
    self.getConfiguration api .env,
    self.getConfiguration api .version,
    self.getConfiguration api .globalTags,
    self.getConfiguration api .agentHost,
    self.getConfiguration api .traceAgentPort,
    self.getConfiguration api .traceAgentUrl,
    self.getConfiguration api .dogstatsdAgentHost,
    self.getConfiguration api .dogstatsdAgentPort,
    self.getConfiguration api .dogstatsdAgentUrl,
    overrideConfiguration .DD_TRACE_SAMPLING_RULES (parsedSamplingRulesType api)
      self.traceSamplingRules,
    self.getConfiguration api .traceRateLimit,
    self.getConfiguration api .enabled,
    self.getConfiguration api .logLevelFilter,
    self.getConfiguration api .traceStatsComputationEnabled,
    self.getConfiguration api .telemetryEnabled,
    self.getConfiguration api .telemetryLogCollectionEnabled,
    self.getConfiguration api .telemetryHeartbeatInterval,
    self.getConfiguration api .tracePartialFlushEnabled,
    self.getConfiguration api .tracePartialFlushMinSpans,
    self.getConfiguration api .tracePropagationStyle,
    self.getConfiguration api .tracePropagationStyleExtract,
    self.getConfiguration api .tracePropagationStyleInject,
    self.getConfiguration api .tracePropagationExtractFirst,
    self.getConfiguration api .remoteConfigEnabled,
    self.getConfiguration api .remoteConfigPollInterval,
    self.getConfiguration api .datadogTagsMaxLength ]

/-! ## Names -/

/-- The names in the order of the report. -/
def reportedNames : List SupportedConfigurations :=
  [.DD_SERVICE, .DD_ENV, .DD_VERSION, .DD_TAGS, .DD_AGENT_HOST, .DD_TRACE_AGENT_PORT,
    .DD_TRACE_AGENT_URL, .DD_DOGSTATSD_HOST, .DD_DOGSTATSD_PORT, .DD_DOGSTATSD_URL,
    .DD_TRACE_SAMPLING_RULES, .DD_TRACE_RATE_LIMIT, .DD_TRACE_ENABLED, .DD_LOG_LEVEL,
    .DD_TRACE_STATS_COMPUTATION_ENABLED, .DD_INSTRUMENTATION_TELEMETRY_ENABLED,
    .DD_TELEMETRY_LOG_COLLECTION_ENABLED, .DD_TELEMETRY_HEARTBEAT_INTERVAL,
    .DD_TRACE_PARTIAL_FLUSH_ENABLED, .DD_TRACE_PARTIAL_FLUSH_MIN_SPANS,
    .DD_TRACE_PROPAGATION_STYLE, .DD_TRACE_PROPAGATION_STYLE_EXTRACT,
    .DD_TRACE_PROPAGATION_STYLE_INJECT, .DD_TRACE_PROPAGATION_EXTRACT_FIRST,
    .DD_REMOTE_CONFIGURATION_ENABLED, .DD_REMOTE_CONFIG_POLL_INTERVAL_SECONDS,
    .DD_TRACE_X_DATADOG_TAGS_MAX_LENGTH]

theorem names_getTelemetryConfiguration :
    (self.getTelemetryConfiguration api).map Configuration.name =
      reportedNames.map SupportedConfigurations.asStr := rfl

/-- Every setting is reported. -/
theorem mem_reportedNames (name : SupportedConfigurations) : name ∈ reportedNames := by
  cases name <;> decide

/-- And reported once. -/
theorem nodup_names : (reportedNames.map SupportedConfigurations.asStr).Nodup := by decide +kernel

theorem mem_getTelemetryConfiguration (s : Setting) :
    self.getConfiguration api s ∈ self.getTelemetryConfiguration api := by
  cases s <;> simp [getTelemetryConfiguration]

theorem mem_service_getTelemetryConfiguration :
    overrideConfiguration .DD_SERVICE serviceType self.service ∈
      self.getTelemetryConfiguration api := by
  simp [getTelemetryConfiguration]

theorem mem_rules_getTelemetryConfiguration :
    overrideConfiguration .DD_TRACE_SAMPLING_RULES (parsedSamplingRulesType api)
      self.traceSamplingRules ∈ self.getTelemetryConfiguration api := by
  simp [getTelemetryConfiguration]

/-! ## The value of the environment -/

variable {api} {self} {s s' : Setting}

theorem envValue_setCode (value : s'.Value) :
    ((self.setCode s' value).item s).envValue = (self.item s).envValue := by
  by_cases hs : s = s'
  · subst hs
    rw [item_setCode_self]
    rfl
  · rw [item_setCode_of_ne self hs]

/-- Neither a call nor building reaches the value of the environment. -/
theorem envValue_call (c : BuilderCall) :
    ((self.call c).item s).envValue = (self.item s).envValue := by
  cases c with
  | setService service => rfl
  | setTraceSamplingRules rules => rfl
  | _ => exact envValue_setCode _

theorem envValue_build : (self.build.item s).envValue = (self.item s).envValue := by
  have htrace (self : ConfigItems) : (self.resolveTraceAgentUrl.item s).envValue =
      (self.item s).envValue := by
    unfold resolveTraceAgentUrl
    split_ifs
    · exact envValue_setCode _
    · rfl
  have hdogstatsd (self : ConfigItems) : (self.resolveDogstatsdAgentUrl.item s).envValue =
      (self.item s).envValue := by
    unfold resolveDogstatsdAgentUrl
    split_ifs
    · exact envValue_setCode _
    · rfl
  rw [build, hdogstatsd, htrace]

theorem envValue_configured (sources : CompositeSource) (calls : List BuilderCall) :
    ((configured api sources calls).item s).envValue =
      ((fromSources api sources).item s).envValue := by
  rw [configured, envValue_build]
  induction calls using List.reverseRecOn with
  | nil => rfl
  | append_singleton calls c ih =>
      rw [List.foldl_append, List.foldl_cons, List.foldl_nil, envValue_call, ih]

/-- The value of the environment was read. -/
theorem exists_text_of_envValue {sources : CompositeSource} {value : s.Value}
    (h : ((fromSources api sources).item s).envValue = some value) :
    ∃ text, (s.type api.f64).fromStr text = .ok value := by
  simp only [fromSources, CompositeSource.getParse_eq, applyResult] at h
  cases hfirst : sources.sources.findSome? fun source =>
      source.found (s.type api.f64).toFromStr s.name with
  | none =>
      rw [hfirst] at h
      cases h
  | some key =>
      obtain ⟨source, -, hsource⟩ := List.exists_of_findSome?_eq_some hfirst
      obtain ⟨text, htext⟩ := ConfigurationSource.exists_text_of_found hsource
      rw [hfirst] at h
      obtain ⟨read, origin⟩ := key
      cases origin with
      | envVar =>
          cases h
          exact ⟨text, htext⟩
      | _ => cases h

theorem value_of_source_envVar {item : ConfigItem α} (h : item.source = .envVar) :
    item.envValue = some item.value := by
  obtain ⟨defaultValue, envValue, codeValue⟩ := item
  cases codeValue with
  | some value => cases h
  | none =>
      cases envValue with
      | some value => rfl
      | none => cases h

/-! ## Reading back -/

theorem readsBack_type (hapi : api.f64.Lawful) (s : Setting) : (s.type api.f64).ReadsBack := by
  cases s with
  | env => exact readsBack_optionalStringType
  | version => exact readsBack_optionalStringType
  | globalTags => exact readsBack_tagsType
  | agentHost => exact readsBack_stringType
  | traceAgentUrl => exact readsBack_stringType
  | dogstatsdAgentHost => exact readsBack_stringType
  | dogstatsdAgentUrl => exact readsBack_stringType
  | traceAgentPort => exact fun _ value _ => fromStr_u32Type value
  | dogstatsdAgentPort => exact fun _ value _ => fromStr_u32Type value
  | traceRateLimit => exact fun _ value _ => fromStr_i32Type value
  | logLevelFilter => exact fun _ value _ => fromStr_levelFilterType value
  | telemetryHeartbeatInterval => exact readsBack_intervalType hapi
  | remoteConfigPollInterval => exact readsBack_pollIntervalType hapi
  | tracePartialFlushMinSpans => exact fun _ value _ => fromStr_usizeType value
  | datadogTagsMaxLength =>
      intro text value h
      obtain ⟨length, -, rfl⟩ := of_map_eq_ok h
      have hback := fromStr_map Setting.tagsMaxLength
        (fromStr_usizeType (Setting.tagsMaxLength length))
      rw [tagsMaxLength_tagsMaxLength] at hback
      exact hback
  | tracePropagationStyle => exact readsBack_stylesType
  | tracePropagationStyleExtract => exact readsBack_stylesType
  | tracePropagationStyleInject => exact readsBack_stylesType
  | _ => exact fun _ value _ => fromStr_boolType value

theorem readsBack_serviceType : serviceType.ReadsBack := by
  intro text value h
  obtain ⟨name, -, rfl⟩ := of_map_eq_ok h
  exact fromStr_map ServiceName.configured rfl

/-- A service of the environment was read. -/
theorem exists_text_of_service {sources : CompositeSource} {calls : List BuilderCall}
    (h : (configured api sources calls).service.source = .envVar) :
    ∃ text, serviceType.fromStr text = .ok (configured api sources calls).service.value := by
  obtain ⟨hvalue, hsource, -⟩ := service_configured api sources calls
  rw [hsource] at h
  rw [hvalue, requestedService]
  cases hasked : lastSome BuilderCall.asksService calls with
  | some service =>
      rw [hasked] at h
      cases h
  | none =>
      rw [hasked] at h
      cases hfound : serviceFound sources with
      | none =>
          rw [hfound] at h
          cases h
      | some key =>
          obtain ⟨hfirst, -⟩ := Option.filter_eq_some_iff.1 hfound
          obtain ⟨source, -, hread⟩ := List.exists_of_findSome?_eq_some hfirst
          exact ConfigurationSource.exists_text_of_found hread

/-- For any sources and any calls: the report has each setting once, with the text of the value in
effect, its origin and no identifier of a remote configuration.  Where the origin is the environment, the
text would be read as the value in effect; how rules are read is left to the crate for JSON. -/
theorem reported_reads_back (hapi : api.f64.Lawful) (sources : CompositeSource)
    (calls : List BuilderCall) :
    let cfg := configured api sources calls
    let report := cfg.getTelemetryConfiguration api
    (report.map Configuration.name).Nodup ∧
    (∀ name : SupportedConfigurations, name.asStr ∈ report.map Configuration.name) ∧
    (∀ s : Setting,
      { name := s.name.asStr
        value := (s.type api.f64).getConfigurationValue (cfg.value s)
        origin := cfg.source s
        configId := none } ∈ report ∧
      (cfg.source s = .envVar →
        (s.type api.f64).fromStr ((s.type api.f64).getConfigurationValue (cfg.value s)) =
          .ok (cfg.value s))) ∧
    ({ name := "DD_SERVICE".toList
       value := cfg.service.value.asStr
       origin := cfg.service.source
       configId := none } ∈ report ∧
      (cfg.service.source = .envVar →
        serviceType.fromStr cfg.service.value.asStr = .ok cfg.service.value)) ∧
    { name := "DD_TRACE_SAMPLING_RULES".toList
      value := api.rulesToJson cfg.traceSamplingRules.value
      origin := cfg.traceSamplingRules.source
      configId := none } ∈ report := by
  intro cfg report
  obtain ⟨-, -, hserviceId⟩ := service_configured api sources calls
  obtain ⟨-, -, hrulesId⟩ := traceSamplingRules_configured api sources calls
  refine ⟨?_, ?_, ?_, ⟨?_, ?_⟩, ?_⟩
  · rw [names_getTelemetryConfiguration]
    exact nodup_names
  · intro name
    rw [names_getTelemetryConfiguration]
    exact List.mem_map_of_mem (mem_reportedNames name)
  · intro s
    refine ⟨mem_getTelemetryConfiguration api cfg s, fun horigin => ?_⟩
    have henv := value_of_source_envVar horigin
    rw [envValue_configured] at henv
    obtain ⟨text, htext⟩ := exists_text_of_envValue henv
    exact readsBack_type hapi s text _ htext
  · have hentry := mem_service_getTelemetryConfiguration api cfg
    rwa [overrideConfiguration, hserviceId] at hentry
  · intro horigin
    obtain ⟨text, htext⟩ := exists_text_of_service horigin
    exact readsBack_serviceType text _ htext
  · have hentry := mem_rules_getTelemetryConfiguration api cfg
    rwa [overrideConfiguration, hrulesId] at hentry

theorem lawful_bitsText : bitsText.Lawful := by
  have hread (x : F64) : bitsText.fromStr (bitsText.display x) =
      .ok (if Binary64.isNaN x then Binary64.nan else x) := by
    simp [bitsText, Numeral.parseUnsigned_decimal x.isLt]
  refine { number := ?_, noNumber := ?_, read := ?_ }
  · intro x hx
    rw [hread, hx, if_neg Bool.false_ne_true]
  · intro x hx
    rw [hread, hx, if_pos rfl]
  · intro text x h hx
    unfold bitsText at h
    dsimp only at h
    split at h
    · split_ifs at h with hnan
      · cases h
        decide
      · cases h
        exact absurd hx hnan
    · cases h

/-- Tags with blanks around them are reported without. -/
theorem reported_reads_back_tags :
    let cfg := configured noJson (oneSetting .DD_TAGS " team : core ,broken".toList) []
    { name := "DD_TAGS".toList
      value := "team:core".toList
      origin := .envVar
      configId := none } ∈ cfg.getTelemetryConfiguration noJson ∧
    tagsType.fromStr "team:core".toList = .ok [("team".toList, "core".toList)] ∧
    { name := "DD_SERVICE".toList
      value := "unnamed-rust-service".toList
      origin := .default
      configId := none } ∈ cfg.getTelemetryConfiguration noJson := by
  intro cfg
  obtain ⟨-, -, hsettings, ⟨hservice, -⟩, -⟩ := @reported_reads_back noJson lawful_bitsText
    (oneSetting .DD_TAGS " team : core ,broken".toList) []
  obtain ⟨hentry, hback⟩ := hsettings .globalTags
  have hvalue : cfg.value .globalTags = [("team".toList, "core".toList)] := by decide +kernel
  have hsource : cfg.source .globalTags = .envVar := by decide +kernel
  have htext : (Setting.type noJson.f64 .globalTags).getConfigurationValue
      (cfg.value .globalTags) = "team:core".toList := by decide +kernel
  have hname : cfg.service.value.asStr = "unnamed-rust-service".toList := by decide +kernel
  have horigin : cfg.service.source = .default := by decide +kernel
  have hread := hback hsource
  rw [htext, hsource] at hentry
  rw [htext, hvalue] at hread
  rw [hname, horigin] at hservice
  exact ⟨hentry, hread, hservice⟩

end ConfigItems

end Otel
end DdTrace
