import Mathlib.Logic.Function.Basic
import DdTrace.Core.ConfigValues
import DdTrace.Lib.Prefixes
import DdTrace.Otel.DdResource

/-!
# ConfigBuilder — the configuration that an application builds

A configuration is read from the sources, changed in code by the calls to a builder, and built, where the
addresses of the agent that nobody gave are made from host and port.

`built_config` says what is in effect in the end, setting by setting: the last that the code asked for, else
what the sources have, else the default.
-/

namespace DdTrace
namespace Otel

open DdTrace.Lib DdTrace.Core

/-! ## Settings -/

/-- The settings whose items have no override. -/
inductive Setting
  | env
  | version
  | globalTags
  | agentHost
  | traceAgentPort
  | traceAgentUrl
  | dogstatsdAgentHost
  | dogstatsdAgentPort
  | dogstatsdAgentUrl
  | traceRateLimit
  | enabled
  | logLevelFilter
  | traceStatsComputationEnabled
  | telemetryEnabled
  | telemetryLogCollectionEnabled
  | telemetryHeartbeatInterval
  | tracePartialFlushEnabled
  | tracePartialFlushMinSpans
  | tracePropagationStyle
  | tracePropagationStyleExtract
  | tracePropagationStyleInject
  | tracePropagationExtractFirst
  | remoteConfigEnabled
  | remoteConfigPollInterval
  | datadogTagsMaxLength
  deriving DecidableEq

namespace Setting

/-- The name under which the sources have a setting. -/
def name : Setting → SupportedConfigurations
  | env => .DD_ENV
  | version => .DD_VERSION
  | globalTags => .DD_TAGS
  | agentHost => .DD_AGENT_HOST
  | traceAgentPort => .DD_TRACE_AGENT_PORT
  | traceAgentUrl => .DD_TRACE_AGENT_URL
  | dogstatsdAgentHost => .DD_DOGSTATSD_HOST
  | dogstatsdAgentPort => .DD_DOGSTATSD_PORT
  | dogstatsdAgentUrl => .DD_DOGSTATSD_URL
  | traceRateLimit => .DD_TRACE_RATE_LIMIT
  | enabled => .DD_TRACE_ENABLED
  | logLevelFilter => .DD_LOG_LEVEL
  | traceStatsComputationEnabled => .DD_TRACE_STATS_COMPUTATION_ENABLED
  | telemetryEnabled => .DD_INSTRUMENTATION_TELEMETRY_ENABLED
  | telemetryLogCollectionEnabled => .DD_TELEMETRY_LOG_COLLECTION_ENABLED
  | telemetryHeartbeatInterval => .DD_TELEMETRY_HEARTBEAT_INTERVAL
  | tracePartialFlushEnabled => .DD_TRACE_PARTIAL_FLUSH_ENABLED
  | tracePartialFlushMinSpans => .DD_TRACE_PARTIAL_FLUSH_MIN_SPANS
  | tracePropagationStyle => .DD_TRACE_PROPAGATION_STYLE
  | tracePropagationStyleExtract => .DD_TRACE_PROPAGATION_STYLE_EXTRACT
  | tracePropagationStyleInject => .DD_TRACE_PROPAGATION_STYLE_INJECT
  | tracePropagationExtractFirst => .DD_TRACE_PROPAGATION_EXTRACT_FIRST
  | remoteConfigEnabled => .DD_REMOTE_CONFIGURATION_ENABLED
  | remoteConfigPollInterval => .DD_REMOTE_CONFIG_POLL_INTERVAL_SECONDS
  | datadogTagsMaxLength => .DD_TRACE_X_DATADOG_TAGS_MAX_LENGTH

abbrev Value : Setting → Type
  | env | version => Option Str
  | globalTags => List (Str × Str)
  | agentHost | traceAgentUrl | dogstatsdAgentHost | dogstatsdAgentUrl => Str
  | traceAgentPort | dogstatsdAgentPort => UInt32
  | traceRateLimit => Int32
  | enabled | traceStatsComputationEnabled | telemetryEnabled | telemetryLogCollectionEnabled
  | tracePartialFlushEnabled | tracePropagationExtractFirst | remoteConfigEnabled => Bool
  | logLevelFilter => LevelFilter
  | telemetryHeartbeatInterval | remoteConfigPollInterval => F64
  | tracePartialFlushMinSpans | datadogTagsMaxLength => UInt64
  | tracePropagationStyle | tracePropagationStyleExtract | tracePropagationStyleInject =>
      Option (List TracePropagationStyle)

/-- The values where neither source nor code has one. -/
def default : (s : Setting) → s.Value
  | env | version => none
  | globalTags => []
  | agentHost | dogstatsdAgentHost => "localhost".toList
  | traceAgentPort => 8126
  | dogstatsdAgentPort => 8125
  | traceAgentUrl | dogstatsdAgentUrl => []
  | traceRateLimit => 100
  | enabled | traceStatsComputationEnabled | telemetryEnabled | telemetryLogCollectionEnabled
  | remoteConfigEnabled => true
  | tracePartialFlushEnabled | tracePropagationExtractFirst => false
  | logLevelFilter => .error
  | telemetryHeartbeatInterval => 0x404E000000000000
  | remoteConfigPollInterval => RC_DEFAULT_POLL_INTERVAL
  | tracePartialFlushMinSpans => 300
  | datadogTagsMaxLength => UInt64.ofNat DATADOG_TAGS_MAX_LENGTH
  | tracePropagationStyle => some [.datadog, .traceContext]
  | tracePropagationStyleExtract | tracePropagationStyleInject => none

/-- A length beyond the limit is the limit. -/
def tagsMaxLength (length : UInt64) : UInt64 := min length (UInt64.ofNat DATADOG_TAGS_MAX_LENGTH)

/-- How a setting is read from a source and printed for telemetry. -/
def type (api : F64Text) : (s : Setting) → ConfigType s.Value
  | env | version => optionalStringType
  | globalTags => tagsType
  | agentHost | traceAgentUrl | dogstatsdAgentHost | dogstatsdAgentUrl => stringType
  | traceAgentPort | dogstatsdAgentPort => u32Type
  | traceRateLimit => i32Type
  | enabled | traceStatsComputationEnabled | telemetryEnabled | telemetryLogCollectionEnabled
  | tracePartialFlushEnabled | tracePropagationExtractFirst | remoteConfigEnabled => boolType
  | logLevelFilter => levelFilterType
  | telemetryHeartbeatInterval => intervalType api
  | remoteConfigPollInterval => pollIntervalType api
  | tracePartialFlushMinSpans => usizeType
  | datadogTagsMaxLength =>
      { usizeType with toFromStr := usizeType.toFromStr.map tagsMaxLength }
  | tracePropagationStyle | tracePropagationStyleExtract | tracePropagationStyleInject => stylesType

end Setting

/-! ## Configuration -/

/-- How the standard library and the crate for JSON read and print. -/
structure ConfigApi where
  f64 : F64Text
  rulesFromJson : Str → Except Str (List SamplingRuleConfig)
  rulesToJson : List SamplingRuleConfig → Str

def serviceType : ConfigType ServiceName :=
  { toFromStr := stringType.toFromStr.map .configured
    getConfigurationValue := ServiceName.asStr }

/-- A blank text has no rules. -/
def parsedSamplingRulesType (api : ConfigApi) : ConfigType (List SamplingRuleConfig) :=
  { typeName := "dd_trace::configuration::configuration::ParsedSamplingRules".toList
    fromStr := fun s => if (Text.trim s).isEmpty then .ok [] else api.rulesFromJson s
    getConfigurationValue := api.rulesToJson }

/-- The items of a configuration, the one of a setting under its name. -/
structure ConfigItems where
  service : ConfigItemWithOverride ServiceName
  traceSamplingRules : ConfigItemWithOverride (List SamplingRuleConfig)
  item : (s : Setting) → ConfigItem s.Value

namespace ConfigItems

def default : ConfigItems :=
  { service := .newCode (.new .default)
    traceSamplingRules := .newRc (.new [])
    item := fun s => .new s.default }

def fromSources (api : ConfigApi) (sources : CompositeSource) : ConfigItems :=
  { service :=
      applyResult ConfigItemWithOverride.setValueSource default.service
        (sources.getParse serviceType.toFromStr .DD_SERVICE)
    traceSamplingRules :=
      applyResult ConfigItemWithOverride.setValueSource default.traceSamplingRules
        (sources.getParse (parsedSamplingRulesType api).toFromStr .DD_TRACE_SAMPLING_RULES)
    item := fun s =>
      applyResult ConfigItem.setValueSource (default.item s)
        (sources.getParse (s.type api.f64).toFromStr s.name) }

def value (self : ConfigItems) (s : Setting) : s.Value := (self.item s).value

def source (self : ConfigItems) (s : Setting) : ConfigSourceOrigin := (self.item s).source

def setCode (self : ConfigItems) (s : Setting) (value : s.Value) : ConfigItems :=
  { self with item := Function.update self.item s ((self.item s).setCode value) }

end ConfigItems

/-! ## Builder -/

/-- The calls that change a configuration before it is built. -/
inductive BuilderCall
  | setService (service : Str)
  | setEnv (env : Str)
  | setVersion (version : Str)
  | setGlobalTags (tags : List (Str × Str))
  | addGlobalTag (tag : Str × Str)
  | setTelemetryEnabled (enabled : Bool)
  | setTelemetryLogCollectionEnabled (enabled : Bool)
  | setTelemetryHeartbeatInterval (seconds : F64)
  | setAgentHost (host : Str)
  | setTraceAgentPort (port : UInt32)
  | setTraceAgentUrl (url : Str)
  | setDogstatsdAgentHost (host : Str)
  | setDogstatsdAgentPort (port : UInt32)
  | setTracePartialFlushEnabled (enabled : Bool)
  | setTracePartialFlushMinSpans (minSpans : UInt64)
  | setTraceSamplingRules (rules : List SamplingRuleConfig)
  | setTraceRateLimit (rateLimit : Int32)
  | setTracePropagationStyle (styles : List TracePropagationStyle)
  | setTracePropagationStyleExtract (styles : List TracePropagationStyle)
  | setTracePropagationStyleInject (styles : List TracePropagationStyle)
  | setTracePropagationExtractFirst (first : Bool)
  | setEnabled (enabled : Bool)
  | setLogLevelFilter (filter : LevelFilter)
  | setTraceStatsComputationEnabled (enabled : Bool)
  | setRemoteConfigEnabled (enabled : Bool)
  | setRemoteConfigPollInterval (seconds : F64)
  | setDatadogTagsMaxLength (length : UInt64)

namespace ConfigItems

def call (self : ConfigItems) : BuilderCall → ConfigItems
  | .setService service => { self with service := self.service.setCode (.configured service) }
  | .setEnv env => self.setCode .env (some env)
  | .setVersion version => self.setCode .version (some version)
  | .setGlobalTags tags => self.setCode .globalTags tags
  | .addGlobalTag tag => self.setCode .globalTags (self.value .globalTags ++ [tag])
  | .setTelemetryEnabled enabled => self.setCode .telemetryEnabled enabled
  | .setTelemetryLogCollectionEnabled enabled =>
      self.setCode .telemetryLogCollectionEnabled enabled
  | .setTelemetryHeartbeatInterval seconds =>
      self.setCode .telemetryHeartbeatInterval (Binary64.abs seconds)
  | .setAgentHost host => self.setCode .agentHost host
  | .setTraceAgentPort port => self.setCode .traceAgentPort port
  | .setTraceAgentUrl url => self.setCode .traceAgentUrl url
  | .setDogstatsdAgentHost host => self.setCode .dogstatsdAgentHost host
  | .setDogstatsdAgentPort port => self.setCode .dogstatsdAgentPort port
  | .setTracePartialFlushEnabled enabled => self.setCode .tracePartialFlushEnabled enabled
  | .setTracePartialFlushMinSpans minSpans => self.setCode .tracePartialFlushMinSpans minSpans
  | .setTraceSamplingRules rules =>
      { self with traceSamplingRules := self.traceSamplingRules.setCode rules }
  | .setTraceRateLimit rateLimit => self.setCode .traceRateLimit rateLimit
  | .setTracePropagationStyle styles => self.setCode .tracePropagationStyle (some styles)
  | .setTracePropagationStyleExtract styles =>
      self.setCode .tracePropagationStyleExtract (some styles)
  | .setTracePropagationStyleInject styles =>
      self.setCode .tracePropagationStyleInject (some styles)
  | .setTracePropagationExtractFirst first => self.setCode .tracePropagationExtractFirst first
  | .setEnabled enabled => self.setCode .enabled enabled
  | .setLogLevelFilter filter => self.setCode .logLevelFilter filter
  | .setTraceStatsComputationEnabled enabled => self.setCode .traceStatsComputationEnabled enabled
  | .setRemoteConfigEnabled enabled => self.setCode .remoteConfigEnabled enabled
  | .setRemoteConfigPollInterval seconds =>
      self.setCode .remoteConfigPollInterval (pollInterval seconds)
  | .setDatadogTagsMaxLength length =>
      self.setCode .datadogTagsMaxLength (Setting.tagsMaxLength length)

/-- The address at a host and a port. -/
def hostAndPort (host : Str) (port : UInt32) : Str :=
  "http://".toList ++ host ++ ':' :: Numeral.intDecimal port.toNat

/-- The first part of `build`. -/
def resolveTraceAgentUrl (self : ConfigItems) : ConfigItems :=
  if List.isEmpty (self.value .traceAgentUrl) then
    self.setCode .traceAgentUrl (hostAndPort (self.value .agentHost) (self.value .traceAgentPort))
  else self

/-- The second part. -/
def resolveDogstatsdAgentUrl (self : ConfigItems) : ConfigItems :=
  if List.isEmpty (self.value .dogstatsdAgentUrl) then
    self.setCode .dogstatsdAgentUrl
      (hostAndPort (self.value .dogstatsdAgentHost) (self.value .dogstatsdAgentPort))
  else self

def build (self : ConfigItems) : ConfigItems :=
  self.resolveTraceAgentUrl.resolveDogstatsdAgentUrl

/-- What an application has after the calls that it makes. -/
def configured (api : ConfigApi) (sources : CompositeSource) (calls : List BuilderCall) :
    ConfigItems :=
  (calls.foldl call (fromSources api sources)).build

end ConfigItems

/-! ## What a call changes -/

namespace BuilderCall

/-- What a call asks for: a setting, and the value that it is to have.  The table says what the names
and the documentation of the builder promise; `call_of_assignment` compares it with what is done. -/
def assignment : BuilderCall → Option (Σ s : Setting, s.Value)
  | setService _ | addGlobalTag _ | setTraceSamplingRules _ => none
  | setEnv env => some ⟨.env, some env⟩
  | setVersion version => some ⟨.version, some version⟩
  | setGlobalTags tags => some ⟨.globalTags, tags⟩
  | setTelemetryEnabled enabled => some ⟨.telemetryEnabled, enabled⟩
  | setTelemetryLogCollectionEnabled enabled => some ⟨.telemetryLogCollectionEnabled, enabled⟩
  | setTelemetryHeartbeatInterval seconds =>
      some ⟨.telemetryHeartbeatInterval, Binary64.abs seconds⟩
  | setAgentHost host => some ⟨.agentHost, host⟩
  | setTraceAgentPort port => some ⟨.traceAgentPort, port⟩
  | setTraceAgentUrl url => some ⟨.traceAgentUrl, url⟩
  | setDogstatsdAgentHost host => some ⟨.dogstatsdAgentHost, host⟩
  | setDogstatsdAgentPort port => some ⟨.dogstatsdAgentPort, port⟩
  | setTracePartialFlushEnabled enabled => some ⟨.tracePartialFlushEnabled, enabled⟩
  | setTracePartialFlushMinSpans minSpans => some ⟨.tracePartialFlushMinSpans, minSpans⟩
  | setTraceRateLimit rateLimit => some ⟨.traceRateLimit, rateLimit⟩
  | setTracePropagationStyle styles => some ⟨.tracePropagationStyle, some styles⟩
  | setTracePropagationStyleExtract styles => some ⟨.tracePropagationStyleExtract, some styles⟩
  | setTracePropagationStyleInject styles => some ⟨.tracePropagationStyleInject, some styles⟩
  | setTracePropagationExtractFirst first => some ⟨.tracePropagationExtractFirst, first⟩
  | setEnabled enabled => some ⟨.enabled, enabled⟩
  | setLogLevelFilter filter => some ⟨.logLevelFilter, filter⟩
  | setTraceStatsComputationEnabled enabled => some ⟨.traceStatsComputationEnabled, enabled⟩
  | setRemoteConfigEnabled enabled => some ⟨.remoteConfigEnabled, enabled⟩
  | setRemoteConfigPollInterval seconds => some ⟨.remoteConfigPollInterval, pollInterval seconds⟩
  | setDatadogTagsMaxLength length => some ⟨.datadogTagsMaxLength, Setting.tagsMaxLength length⟩

/-- What a call asks for of one setting. -/
def assigns (s : Setting) (c : BuilderCall) : Option s.Value :=
  match c.assignment with
  | some ⟨s', value⟩ => if h : s' = s then some (h ▸ value) else none
  | none => none

/-- The tag that a call adds to those there are. -/
def addsTag : BuilderCall → Option (Str × Str)
  | addGlobalTag tag => some tag
  | _ => none

/-- The service that a call asks for. -/
def asksService : BuilderCall → Option ServiceName
  | setService service => some (.configured service)
  | _ => none

/-- The rules that a call asks for. -/
def asksRules : BuilderCall → Option (List SamplingRuleConfig)
  | setTraceSamplingRules rules => some rules
  | _ => none

/-- The call changes the setting. -/
def touches (s : Setting) (c : BuilderCall) : Bool :=
  (c.assigns s).isSome || (s = .globalTags && c.addsTag.isSome)

end BuilderCall

namespace ConfigItems

variable {api : ConfigApi} {sources : CompositeSource} {calls : List BuilderCall}
variable (self : ConfigItems) {c : BuilderCall} {s s' : Setting}

@[simp] theorem item_setCode_self (value : s.Value) :
    (self.setCode s value).item s = (self.item s).setCode value :=
  Function.update_self _ _ _

theorem item_setCode_of_ne (h : s ≠ s') (value : s'.Value) :
    (self.setCode s' value).item s = self.item s :=
  Function.update_of_ne h _ _

/-- A call does what it is asked for. -/
theorem call_of_assignment {value : s'.Value} (h : c.assignment = some ⟨s', value⟩) :
    self.call c = self.setCode s' value := by
  cases c <;> first | (cases h; done) | (cases h; rfl)

/-- A setting that a call replaces. -/
theorem item_call_of_assigns {value : s.Value} (h : c.assigns s = some value) :
    (self.call c).item s = (self.item s).setCode value := by
  unfold BuilderCall.assigns at h
  split at h
  · rename_i s' value' hassigned
    split_ifs at h with hs
    subst hs
    rw [call_of_assignment self hassigned, item_setCode_self]
    cases h
    rfl
  · cases h

/-- A setting that a call does not touch. -/
theorem item_call_of_not_touches (h : c.touches s = false) :
    (self.call c).item s = self.item s := by
  obtain ⟨hassigns, hadds⟩ := Bool.or_eq_false_iff.1 h
  cases hassigned : c.assignment with
  | some assigned =>
      obtain ⟨s', value⟩ := assigned
      have hne : s ≠ s' := by
        rintro rfl
        simp [BuilderCall.assigns, hassigned] at hassigns
      rw [call_of_assignment self hassigned, item_setCode_of_ne self hne]
  | none =>
      cases c with
      | setService service => rfl
      | setTraceSamplingRules rules => rfl
      | addGlobalTag tag =>
          have hne : s ≠ .globalTags := by
            rintro rfl
            cases hadds
          exact item_setCode_of_ne self hne _
      | _ => cases hassigned

/-! ## All calls -/

/-- The settings that are only replaced, never added to. -/
theorem item_foldl (hne : s ≠ .globalTags) (calls : List BuilderCall) :
    (calls.foldl call self).item s =
      match lastSome (BuilderCall.assigns s) calls with
      | some value => (self.item s).setCode value
      | none => self.item s := by
  induction calls using List.reverseRecOn with
  | nil => rfl
  | append_singleton calls c ih =>
      rw [List.foldl_append, List.foldl_cons, List.foldl_nil, lastSome_snoc]
      cases hassigns : c.assigns s with
      | some value =>
          rw [item_call_of_assigns _ hassigns, ih]
          -- the code value that was there before is gone
          cases lastSome (BuilderCall.assigns s) calls with
          | some earlier => rfl
          | none => rfl
      | none =>
          have hkept : c.touches s = false := by
            simp [BuilderCall.touches, hassigns, hne]
          rw [item_call_of_not_touches _ hkept, ih]
          rfl

/-- The tags that were added since all tags were replaced. -/
def addedTags (calls : List BuilderCall) : List (Str × Str) :=
  (calls.rtakeWhile fun c => (c.assigns .globalTags).isNone).filterMap BuilderCall.addsTag

theorem addedTags_snoc_of_assigns {tags : List (Str × Str)} (h : c.assigns .globalTags = some tags) :
    addedTags (calls ++ [c]) = [] := by
  rw [addedTags, List.rtakeWhile_concat_neg _ _ _ (by simp [h]), List.filterMap_nil]

theorem addedTags_snoc (h : c.assigns .globalTags = none) :
    addedTags (calls ++ [c]) = addedTags calls ++ c.addsTag.toList := by
  rw [addedTags, List.rtakeWhile_concat_pos _ _ _ (by simp [h]), List.filterMap_append]
  cases hadds : c.addsTag with
  | none => simp [addedTags, hadds]
  | some tag => simp [addedTags, hadds]

theorem value_globalTags_foldl (calls : List BuilderCall) :
    (calls.foldl call self).value .globalTags =
      (lastSome (BuilderCall.assigns .globalTags) calls).getD (self.value .globalTags) ++
        addedTags calls := by
  induction calls using List.reverseRecOn with
  | nil => simp [addedTags]
  | append_singleton calls c ih =>
      rw [List.foldl_append, List.foldl_cons, List.foldl_nil, lastSome_snoc]
      cases hassigns : c.assigns .globalTags with
      | some tags =>
          rw [value, item_call_of_assigns _ hassigns, addedTags_snoc_of_assigns hassigns]
          simp
      | none =>
          rw [addedTags_snoc hassigns]
          cases hadds : c.addsTag with
          | some tag =>
              cases c with
              | addGlobalTag tag' =>
                  cases hadds
                  rw [value, call, item_setCode_self, ConfigItem.value_setCode, ih]
                  simp
              | _ => cases hadds
          | none =>
              have hkept : c.touches .globalTags = false := by
                simp [BuilderCall.touches, hassigns, hadds]
              rw [value, item_call_of_not_touches _ hkept, ← value]
              simpa using ih

/-- A setting that some call touches has its value from the code. -/
theorem source_foldl (s : Setting) (calls : List BuilderCall) :
    (calls.foldl call self).source s =
      if calls.any (BuilderCall.touches s) then .code else self.source s := by
  induction calls using List.reverseRecOn with
  | nil => rfl
  | append_singleton calls c ih =>
      rw [List.foldl_append, List.foldl_cons, List.foldl_nil, List.any_append]
      cases htouches : c.touches s with
      | true =>
          have hcode : (((calls.foldl call self).call c).item s).source = .code := by
            cases hassigns : c.assigns s with
            | some value => rw [item_call_of_assigns _ hassigns, ConfigItem.source_setCode]
            | none =>
                cases c with
                | addGlobalTag tag =>
                    have hs : s = .globalTags := by
                      simpa [BuilderCall.touches, hassigns, BuilderCall.addsTag] using htouches
                    subst hs
                    rw [call, item_setCode_self, ConfigItem.source_setCode]
                | _ => simp [BuilderCall.touches, hassigns, BuilderCall.addsTag] at htouches
          rw [source, hcode]
          simp [htouches]
      | false =>
          rw [source, item_call_of_not_touches _ htouches, ← source, ih]
          simp [htouches]

/-! ## What the sources have -/

end ConfigItems

/-- What the sources have for a setting, where it has a place in the item. -/
def Setting.found (api : ConfigApi) (sources : CompositeSource) (s : Setting) :
    Option (ConfigKey s.Value) :=
  (sources.sources.findSome? fun source => source.found (s.type api.f64).toFromStr s.name).filter
    fun key => key.origin = .code || key.origin = .envVar

namespace ConfigItems

variable {api : ConfigApi} {sources : CompositeSource} {calls : List BuilderCall}
variable (self : ConfigItems) {s : Setting}

theorem item_fromSources (api : ConfigApi) (sources : CompositeSource) (s : Setting) :
    ((fromSources api sources).item s).value =
        ((s.found api sources).map ConfigKey.value).getD s.default ∧
      ((fromSources api sources).item s).source =
        ((s.found api sources).map ConfigKey.origin).getD .default := by
  simp only [fromSources, CompositeSource.getParse_eq, applyResult, Setting.found]
  cases sources.sources.findSome? fun source =>
      source.found (s.type api.f64).toFromStr s.name with
  | none => exact ⟨rfl, rfl⟩
  | some key =>
      obtain ⟨value, origin⟩ := key
      cases origin with
      | default => exact ⟨rfl, rfl⟩
      | envVar => exact ⟨rfl, rfl⟩
      | code => exact ⟨rfl, rfl⟩
      | remoteConfig => exact ⟨rfl, rfl⟩

/-- What the code asked for, else what the sources have, else the default. -/
def requested (api : ConfigApi) (sources : CompositeSource) (calls : List BuilderCall)
    (s : Setting) : s.Value :=
  ((lastSome (BuilderCall.assigns s) calls).or ((s.found api sources).map ConfigKey.value)).getD
    s.default

theorem value_calls (api : ConfigApi) (sources : CompositeSource) (calls : List BuilderCall)
    (hne : s ≠ .globalTags) :
    (calls.foldl call (fromSources api sources)).value s = requested api sources calls s := by
  rw [value, item_foldl _ hne, requested]
  cases lastSome (BuilderCall.assigns s) calls with
  | some value => rfl
  | none => exact (item_fromSources api sources s).1

/-! ## Building -/

theorem item_resolveTraceAgentUrl (h : s ≠ .traceAgentUrl) :
    self.resolveTraceAgentUrl.item s = self.item s := by
  unfold resolveTraceAgentUrl
  split_ifs
  · exact item_setCode_of_ne self h _
  · rfl

theorem item_resolveDogstatsdAgentUrl (h : s ≠ .dogstatsdAgentUrl) :
    self.resolveDogstatsdAgentUrl.item s = self.item s := by
  unfold resolveDogstatsdAgentUrl
  split_ifs
  · exact item_setCode_of_ne self h _
  · rfl

theorem item_build (htrace : s ≠ .traceAgentUrl) (hdogstatsd : s ≠ .dogstatsdAgentUrl) :
    self.build.item s = self.item s := by
  rw [build, item_resolveDogstatsdAgentUrl _ hdogstatsd, item_resolveTraceAgentUrl self htrace]

theorem item_traceAgentUrl_build :
    self.build.item .traceAgentUrl =
      if List.isEmpty (self.value .traceAgentUrl) then
        (self.item .traceAgentUrl).setCode
          (hostAndPort (self.value .agentHost) (self.value .traceAgentPort))
      else self.item .traceAgentUrl := by
  rw [build, item_resolveDogstatsdAgentUrl _ (by decide), resolveTraceAgentUrl]
  split_ifs
  · exact item_setCode_self self _
  · rfl

theorem item_dogstatsdAgentUrl_build :
    self.build.item .dogstatsdAgentUrl =
      if List.isEmpty (self.value .dogstatsdAgentUrl) then
        (self.item .dogstatsdAgentUrl).setCode
          (hostAndPort (self.value .dogstatsdAgentHost) (self.value .dogstatsdAgentPort))
      else self.item .dogstatsdAgentUrl := by
  have hkept (s : Setting) (h : s ≠ .traceAgentUrl) : self.resolveTraceAgentUrl.item s = self.item s :=
    item_resolveTraceAgentUrl self h
  have hvalue (s : Setting) (h : s ≠ .traceAgentUrl) :
      self.resolveTraceAgentUrl.value s = self.value s := congrArg ConfigItem.value (hkept s h)
  rw [build, resolveDogstatsdAgentUrl, hvalue .dogstatsdAgentUrl (by decide),
    hvalue .dogstatsdAgentHost (by decide), hvalue .dogstatsdAgentPort (by decide)]
  by_cases hempty : List.isEmpty (self.value .dogstatsdAgentUrl) = true
  · rw [if_pos hempty, if_pos hempty, item_setCode_self, hkept .dogstatsdAgentUrl (by decide)]
  · rw [if_neg hempty, if_neg hempty, hkept .dogstatsdAgentUrl (by decide)]

end ConfigItems

/-! ## The service and the rules -/

/-- What the sources have for the service, where it has a place in the item. -/
def serviceFound (sources : CompositeSource) : Option (ConfigKey ServiceName) :=
  (sources.sources.findSome? fun source =>
    source.found serviceType.toFromStr .DD_SERVICE).filter
      fun key => key.origin = .code || key.origin = .envVar

/-- What the sources have for the rules.  Their item has a place for remote rules too. -/
def rulesFound (api : ConfigApi) (sources : CompositeSource) :
    Option (ConfigKey (List SamplingRuleConfig)) :=
  (sources.sources.findSome? fun source =>
    source.found (parsedSamplingRulesType api).toFromStr .DD_TRACE_SAMPLING_RULES).filter
      fun key => key.origin ≠ .default

/-- Remote rules of the sources, which no call replaces. -/
def remoteRules (api : ConfigApi) (sources : CompositeSource) : Option (List SamplingRuleConfig) :=
  ((rulesFound api sources).filter fun key => key.origin = .remoteConfig).map ConfigKey.value

namespace ConfigItems

variable {api : ConfigApi} {sources : CompositeSource} {calls : List BuilderCall}
variable (self : ConfigItems) {s : Setting}

theorem service_foldl (h : self.service.overrideOrigin = .code) (calls : List BuilderCall) :
    (calls.foldl call self).service =
      { self.service with
        overrideValue :=
          (lastSome BuilderCall.asksService calls).or self.service.overrideValue } := by
  induction calls using List.reverseRecOn with
  | nil => rfl
  | append_singleton calls c ih =>
      rw [List.foldl_append, List.foldl_cons, List.foldl_nil, lastSome_snoc]
      cases c with
      | setService service =>
          rw [call, ih]
          simp [ConfigItemWithOverride.setCode, ConfigItemWithOverride.setValueSource,
            ConfigItemWithOverride.setOverrideValue, h, BuilderCall.asksService]
      | _ => exact ih

theorem traceSamplingRules_foldl (h : self.traceSamplingRules.overrideOrigin = .remoteConfig)
    (calls : List BuilderCall) :
    (calls.foldl call self).traceSamplingRules =
      { self.traceSamplingRules with
        configItem :=
          { self.traceSamplingRules.configItem with
            codeValue := (lastSome BuilderCall.asksRules calls).or
              self.traceSamplingRules.configItem.codeValue } } := by
  induction calls using List.reverseRecOn with
  | nil => rfl
  | append_singleton calls c ih =>
      rw [List.foldl_append, List.foldl_cons, List.foldl_nil, lastSome_snoc]
      cases c with
      | setTraceSamplingRules rules =>
          rw [call, ih]
          simp [ConfigItemWithOverride.setCode, ConfigItemWithOverride.setValueSource,
            ConfigItem.setValueSource, h, BuilderCall.asksRules]
      | _ => exact ih

theorem service_build : self.build.service = self.service := by
  unfold build resolveDogstatsdAgentUrl resolveTraceAgentUrl
  split_ifs <;> rfl

theorem traceSamplingRules_build : self.build.traceSamplingRules = self.traceSamplingRules := by
  unfold build resolveDogstatsdAgentUrl resolveTraceAgentUrl
  split_ifs <;> rfl

theorem service_fromSources (api : ConfigApi) (sources : CompositeSource) :
    (fromSources api sources).service =
      match serviceFound sources with
      | some ⟨value, .code⟩ => { default.service with overrideValue := some value }
      | some ⟨value, _⟩ =>
          { default.service with
            configItem := { default.service.configItem with envValue := some value } }
      | none => default.service := by
  simp only [fromSources, CompositeSource.getParse_eq, applyResult, serviceFound]
  cases sources.sources.findSome? fun source =>
      source.found serviceType.toFromStr .DD_SERVICE with
  | none => rfl
  | some key =>
      obtain ⟨value, origin⟩ := key
      cases origin with
      | default => rfl
      | envVar => rfl
      | code => rfl
      | remoteConfig => rfl

/-- The service that the code asked for last, else that of the sources, else the default. -/
def requestedService (sources : CompositeSource) (calls : List BuilderCall) : ServiceName :=
  ((lastSome BuilderCall.asksService calls).or
    ((serviceFound sources).map ConfigKey.value)).getD .default

/-- The remote rules of the sources, else those that the code asked for last, else the others of the
sources, else none. -/
def requestedRules (api : ConfigApi) (sources : CompositeSource) (calls : List BuilderCall) :
    List SamplingRuleConfig :=
  (((remoteRules api sources).or (lastSome BuilderCall.asksRules calls)).or
    ((rulesFound api sources).map ConfigKey.value)).getD []

/-- The origin of the service is that of its value. -/
theorem service_configured (api : ConfigApi) (sources : CompositeSource)
    (calls : List BuilderCall) :
    (configured api sources calls).service.value = requestedService sources calls ∧
      (configured api sources calls).service.source =
        (if (lastSome BuilderCall.asksService calls).isSome then .code
        else ((serviceFound sources).map ConfigKey.origin).getD .default) ∧
      (configured api sources calls).service.configId = none := by
  have hfound : ∀ key, serviceFound sources = some key →
      key.origin = .code ∨ key.origin = .envVar := by
    intro key hkey
    simpa using (Option.filter_eq_some_iff.1 hkey).2
  have hfrom := service_fromSources api sources
  have hcode : (fromSources api sources).service.overrideOrigin = .code := by
    rw [hfrom]
    split <;> rfl
  rw [configured, service_build, service_foldl _ hcode, hfrom, requestedService]
  cases hkey : serviceFound sources with
  | none => cases lastSome BuilderCall.asksService calls <;> exact ⟨rfl, rfl, rfl⟩
  | some key =>
      obtain ⟨value, origin⟩ := key
      rcases hfound _ hkey with horigin | horigin
      · cases horigin
        cases lastSome BuilderCall.asksService calls <;> exact ⟨rfl, rfl, rfl⟩
      · cases horigin
        cases lastSome BuilderCall.asksService calls <;> exact ⟨rfl, rfl, rfl⟩

theorem traceSamplingRules_fromSources (api : ConfigApi) (sources : CompositeSource) :
    (fromSources api sources).traceSamplingRules =
      match rulesFound api sources with
      | some ⟨value, .remoteConfig⟩ =>
          { default.traceSamplingRules with overrideValue := some value }
      | some ⟨value, .code⟩ =>
          { default.traceSamplingRules with
            configItem := { default.traceSamplingRules.configItem with codeValue := some value } }
      | some ⟨value, _⟩ =>
          { default.traceSamplingRules with
            configItem := { default.traceSamplingRules.configItem with envValue := some value } }
      | none => default.traceSamplingRules := by
  simp only [fromSources, CompositeSource.getParse_eq, applyResult, rulesFound]
  cases sources.sources.findSome? fun source =>
      source.found (parsedSamplingRulesType api).toFromStr .DD_TRACE_SAMPLING_RULES with
  | none => rfl
  | some key =>
      obtain ⟨value, origin⟩ := key
      cases origin with
      | default => rfl
      | envVar => rfl
      | code => rfl
      | remoteConfig => rfl

theorem traceSamplingRules_configured (api : ConfigApi) (sources : CompositeSource)
    (calls : List BuilderCall) :
    (configured api sources calls).traceSamplingRules.value = requestedRules api sources calls ∧
      (configured api sources calls).traceSamplingRules.source =
        (if (remoteRules api sources).isSome then .remoteConfig
        else if (lastSome BuilderCall.asksRules calls).isSome then .code
        else ((rulesFound api sources).map ConfigKey.origin).getD .default) ∧
      (configured api sources calls).traceSamplingRules.configId = none := by
  have hfound : ∀ key, rulesFound api sources = some key → key.origin ≠ .default := by
    intro key hkey
    simpa using (Option.filter_eq_some_iff.1 hkey).2
  have hfrom := traceSamplingRules_fromSources api sources
  have hremote : (fromSources api sources).traceSamplingRules.overrideOrigin = .remoteConfig := by
    rw [hfrom]
    split <;> rfl
  rw [configured, traceSamplingRules_build, traceSamplingRules_foldl _ hremote, hfrom, requestedRules,
    remoteRules]
  cases hkey : rulesFound api sources with
  | none => cases lastSome BuilderCall.asksRules calls <;> exact ⟨rfl, rfl, rfl⟩
  | some key =>
      obtain ⟨value, origin⟩ := key
      cases origin with
      | default => exact absurd rfl (hfound _ hkey)
      | envVar => cases lastSome BuilderCall.asksRules calls <;> exact ⟨rfl, rfl, rfl⟩
      | code => cases lastSome BuilderCall.asksRules calls <;> exact ⟨rfl, rfl, rfl⟩
      | remoteConfig => cases lastSome BuilderCall.asksRules calls <;> exact ⟨rfl, rfl, rfl⟩

end ConfigItems

/-! ## Bounds -/

/-- What a built configuration promises of a setting. -/
def Setting.InBounds : (s : Setting) → s.Value → Prop
  | .traceAgentUrl, url => url ≠ []
  | .dogstatsdAgentUrl, url => url ≠ []
  | .telemetryHeartbeatInterval, seconds => Binary64.isNegative seconds = false
  | .remoteConfigPollInterval, seconds =>
      Binary64.isNegative seconds = false ∧ Binary64.le seconds RC_DEFAULT_POLL_INTERVAL = true
  | .datadogTagsMaxLength, length => length ≤ UInt64.ofNat DATADOG_TAGS_MAX_LENGTH
  | _, _ => True

namespace ConfigItems

variable {api : ConfigApi} {sources : CompositeSource} {calls : List BuilderCall}
variable {s : Setting} {c : BuilderCall}

theorem tagsMaxLength_le (length : UInt64) :
    Setting.tagsMaxLength length ≤ UInt64.ofNat DATADOG_TAGS_MAX_LENGTH := by
  change (if length ≤ UInt64.ofNat DATADOG_TAGS_MAX_LENGTH then length
    else UInt64.ofNat DATADOG_TAGS_MAX_LENGTH) ≤ UInt64.ofNat DATADOG_TAGS_MAX_LENGTH
  split_ifs with hle
  · exact hle
  · exact UInt64.le_refl _

theorem tagsMaxLength_tagsMaxLength (length : UInt64) :
    Setting.tagsMaxLength (Setting.tagsMaxLength length) = Setting.tagsMaxLength length :=
  if_pos (tagsMaxLength_le length)

theorem inBounds_default (htrace : s ≠ .traceAgentUrl) (hdogstatsd : s ≠ .dogstatsdAgentUrl) :
    s.InBounds s.default := by
  cases s with
  | traceAgentUrl => exact absurd rfl htrace
  | dogstatsdAgentUrl => exact absurd rfl hdogstatsd
  | telemetryHeartbeatInterval => exact (by decide : Binary64.isNegative 0x404E000000000000 = false)
  | remoteConfigPollInterval => exact ⟨by decide, by decide⟩
  | datadogTagsMaxLength => exact UInt64.le_refl (UInt64.ofNat DATADOG_TAGS_MAX_LENGTH)
  | _ => trivial

/-- A setter keeps the bounds of its setting. -/
theorem inBounds_of_assigns (htrace : s ≠ .traceAgentUrl) (hdogstatsd : s ≠ .dogstatsdAgentUrl)
    {value : s.Value} (h : c.assigns s = some value) : s.InBounds value := by
  cases s with
  | traceAgentUrl => exact absurd rfl htrace
  | dogstatsdAgentUrl => exact absurd rfl hdogstatsd
  | telemetryHeartbeatInterval =>
      cases c with
      | setTelemetryHeartbeatInterval seconds =>
          cases h
          exact Binary64.isNegative_abs seconds
      | _ => cases h
  | remoteConfigPollInterval =>
      cases c with
      | setRemoteConfigPollInterval seconds =>
          cases h
          exact pollInterval_bounds seconds
      | _ => cases h
  | datadogTagsMaxLength =>
      cases c with
      | setDatadogTagsMaxLength length =>
          cases h
          exact tagsMaxLength_le length
      | _ => cases h
  | _ => trivial

/-- A reader keeps the bounds of its setting. -/
theorem inBounds_of_read (htrace : s ≠ .traceAgentUrl) (hdogstatsd : s ≠ .dogstatsdAgentUrl)
    {text : Str} {value : s.Value} (h : (s.type api.f64).fromStr text = .ok value) :
    s.InBounds value := by
  cases s with
  | traceAgentUrl => exact absurd rfl htrace
  | dogstatsdAgentUrl => exact absurd rfl hdogstatsd
  | telemetryHeartbeatInterval =>
      obtain ⟨seconds, -, rfl⟩ := of_map_eq_ok h
      exact Binary64.isNegative_abs seconds
  | remoteConfigPollInterval =>
      obtain ⟨seconds, -, rfl⟩ := of_map_eq_ok h
      exact pollInterval_bounds seconds
  | datadogTagsMaxLength =>
      obtain ⟨length, -, rfl⟩ := of_map_eq_ok h
      exact tagsMaxLength_le length
  | _ => trivial

theorem inBounds_requested (htrace : s ≠ .traceAgentUrl) (hdogstatsd : s ≠ .dogstatsdAgentUrl)
    (api : ConfigApi) (sources : CompositeSource) (calls : List BuilderCall) :
    s.InBounds (requested api sources calls s) := by
  unfold requested
  cases hassigned : lastSome (BuilderCall.assigns s) calls with
  | some value =>
      obtain ⟨c, -, hc⟩ := List.mem_filterMap.1 (List.mem_of_getLast? hassigned)
      exact inBounds_of_assigns htrace hdogstatsd hc
  | none =>
      cases hfound : s.found api sources with
      | none => exact inBounds_default htrace hdogstatsd
      | some key =>
          obtain ⟨hfirst, -⟩ := Option.filter_eq_some_iff.1 hfound
          obtain ⟨source, -, hsource⟩ := List.exists_of_findSome?_eq_some hfirst
          obtain ⟨text, htext⟩ := ConfigurationSource.exists_text_of_found hsource
          exact inBounds_of_read htrace hdogstatsd htext

theorem hostAndPort_ne_nil (host : Str) (port : UInt32) : hostAndPort host port ≠ [] :=
  List.append_ne_nil_of_right_ne_nil _ (List.cons_ne_nil _ _)

/-- A setting of which some call asked for a value, or an address that nobody gave. -/
def fromCode (api : ConfigApi) (sources : CompositeSource) (calls : List BuilderCall)
    (s : Setting) : Bool :=
  calls.any (BuilderCall.touches s) ||
    (s = .traceAgentUrl && List.isEmpty (requested api sources calls .traceAgentUrl)) ||
    (s = .dogstatsdAgentUrl && List.isEmpty (requested api sources calls .dogstatsdAgentUrl))

theorem source_calls (api : ConfigApi) (sources : CompositeSource) (calls : List BuilderCall)
    (s : Setting) :
    (calls.foldl call (fromSources api sources)).source s =
      if calls.any (BuilderCall.touches s) then .code
      else ((s.found api sources).map ConfigKey.origin).getD .default := by
  rw [source_foldl]
  exact congrArg _ (item_fromSources api sources s).2

theorem value_globalTags_calls (api : ConfigApi) (sources : CompositeSource)
    (calls : List BuilderCall) :
    (calls.foldl call (fromSources api sources)).value .globalTags =
      requested api sources calls .globalTags ++ addedTags calls := by
  rw [value_globalTags_foldl, requested]
  cases lastSome (BuilderCall.assigns .globalTags) calls with
  | some tags => rfl
  | none =>
      exact congrArg (· ++ addedTags calls) (item_fromSources api sources .globalTags).1

theorem value_traceAgentUrl (api : ConfigApi) (sources : CompositeSource)
    (calls : List BuilderCall) :
    (configured api sources calls).value .traceAgentUrl =
      if List.isEmpty (requested api sources calls .traceAgentUrl) then
        hostAndPort (requested api sources calls .agentHost)
          (requested api sources calls .traceAgentPort)
      else requested api sources calls .traceAgentUrl := by
  rw [configured, value, item_traceAgentUrl_build, value_calls api sources calls (by decide),
    value_calls api sources calls (by decide), value_calls api sources calls (by decide)]
  split_ifs
  · rfl
  · exact value_calls api sources calls (by decide)

theorem value_dogstatsdAgentUrl (api : ConfigApi) (sources : CompositeSource)
    (calls : List BuilderCall) :
    (configured api sources calls).value .dogstatsdAgentUrl =
      if List.isEmpty (requested api sources calls .dogstatsdAgentUrl) then
        hostAndPort (requested api sources calls .dogstatsdAgentHost)
          (requested api sources calls .dogstatsdAgentPort)
      else requested api sources calls .dogstatsdAgentUrl := by
  rw [configured, value, item_dogstatsdAgentUrl_build, value_calls api sources calls (by decide),
    value_calls api sources calls (by decide), value_calls api sources calls (by decide)]
  split_ifs
  · rfl
  · exact value_calls api sources calls (by decide)

theorem source_configured (api : ConfigApi) (sources : CompositeSource) (calls : List BuilderCall)
    (s : Setting) :
    (configured api sources calls).source s =
      if fromCode api sources calls s then .code
      else ((s.found api sources).map ConfigKey.origin).getD .default := by
  have hcalls : ((calls.foldl call (fromSources api sources)).item s).source =
      if calls.any (BuilderCall.touches s) then .code
      else ((s.found api sources).map ConfigKey.origin).getD .default :=
    source_calls api sources calls s
  unfold fromCode
  by_cases htrace : s = .traceAgentUrl
  · subst htrace
    rw [configured, source, item_traceAgentUrl_build, value_calls api sources calls (by decide)]
    by_cases hempty : List.isEmpty (requested api sources calls .traceAgentUrl) = true
    · simp [hempty]
    · simpa [hempty] using hcalls
  · by_cases hdogstatsd : s = .dogstatsdAgentUrl
    · subst hdogstatsd
      rw [configured, source, item_dogstatsdAgentUrl_build,
        value_calls api sources calls (by decide)]
      by_cases hempty : List.isEmpty (requested api sources calls .dogstatsdAgentUrl) = true
      · simp [hempty]
      · simpa [hempty] using hcalls
    · rw [configured, source, item_build _ htrace hdogstatsd]
      simpa [htrace, hdogstatsd] using hcalls

theorem inBounds_configured (api : ConfigApi) (sources : CompositeSource)
    (calls : List BuilderCall) (s : Setting) :
    s.InBounds ((configured api sources calls).value s) := by
  by_cases htrace : s = .traceAgentUrl
  · subst htrace
    rw [value_traceAgentUrl]
    split_ifs with hempty
    · exact hostAndPort_ne_nil _ _
    · exact fun hnil => hempty (List.isEmpty_iff.2 hnil)
  · by_cases hdogstatsd : s = .dogstatsdAgentUrl
    · subst hdogstatsd
      rw [value_dogstatsdAgentUrl]
      split_ifs with hempty
      · exact hostAndPort_ne_nil _ _
      · exact fun hnil => hempty (List.isEmpty_iff.2 hnil)
    · by_cases htags : s = .globalTags
      · subst htags
        trivial
      · rw [configured, value, item_build _ htrace hdogstatsd, ← value,
          value_calls api sources calls htags]
        exact inBounds_requested htrace hdogstatsd api sources calls

/-- The configuration that is built, for any sources and any calls.  A setting has what the last call
asked for, else what the first source with a valid text has, else its default; tags that are added follow
those that were set last; an address that is empty is made from host and port.  The origin is that of
the value, and every value is within the bounds of its setting.  The service and the rules, whose items
have an override, are what was asked for too; only remote rules stand against the code. -/
theorem built_config (api : ConfigApi) (sources : CompositeSource) (calls : List BuilderCall) :
    (∀ s : Setting, s ≠ .globalTags → s ≠ .traceAgentUrl → s ≠ .dogstatsdAgentUrl →
      (configured api sources calls).value s = requested api sources calls s) ∧
    (configured api sources calls).value .globalTags =
      requested api sources calls .globalTags ++ addedTags calls ∧
    (configured api sources calls).value .traceAgentUrl =
      (if List.isEmpty (requested api sources calls .traceAgentUrl) then
        hostAndPort (requested api sources calls .agentHost)
          (requested api sources calls .traceAgentPort)
      else requested api sources calls .traceAgentUrl) ∧
    (configured api sources calls).value .dogstatsdAgentUrl =
      (if List.isEmpty (requested api sources calls .dogstatsdAgentUrl) then
        hostAndPort (requested api sources calls .dogstatsdAgentHost)
          (requested api sources calls .dogstatsdAgentPort)
      else requested api sources calls .dogstatsdAgentUrl) ∧
    (∀ s : Setting, (configured api sources calls).source s =
      if fromCode api sources calls s then .code
      else ((s.found api sources).map ConfigKey.origin).getD .default) ∧
    (∀ s : Setting, s.InBounds ((configured api sources calls).value s)) ∧
    ((configured api sources calls).service.value = requestedService sources calls ∧
      (configured api sources calls).service.source =
        if (lastSome BuilderCall.asksService calls).isSome then .code
        else ((serviceFound sources).map ConfigKey.origin).getD .default) ∧
    (configured api sources calls).traceSamplingRules.value = requestedRules api sources calls ∧
      (configured api sources calls).traceSamplingRules.source =
        if (remoteRules api sources).isSome then .remoteConfig
        else if (lastSome BuilderCall.asksRules calls).isSome then .code
        else ((rulesFound api sources).map ConfigKey.origin).getD .default := by
  obtain ⟨hservice, hserviceSource, -⟩ := service_configured api sources calls
  obtain ⟨hrules, hrulesSource, -⟩ := traceSamplingRules_configured api sources calls
  refine ⟨?_, ?_, value_traceAgentUrl api sources calls, value_dogstatsdAgentUrl api sources calls,
    source_configured api sources calls, inBounds_configured api sources calls,
    ⟨hservice, hserviceSource⟩, hrules, hrulesSource⟩
  · intro s htags htrace hdogstatsd
    rw [configured, value, item_build _ htrace hdogstatsd]
    exact value_calls api sources calls htags
  · rw [configured, value, item_build _ (by decide) (by decide)]
    exact value_globalTags_calls api sources calls

end ConfigItems

section Example

/-- A source with one setting. -/
def oneSetting (name : SupportedConfigurations) (text : Str) : CompositeSource :=
  { sources := [.ofTable .envVar fun key => if key = name.asStr then some text else none] }

/-- Doubles printed as their bits, with one text for all that are no number. -/
def bitsText : F64Text :=
  { fromStr := fun s =>
      match Numeral.parseUnsigned 10 (2 ^ 64) s with
      | some bits =>
          let x : F64 := BitVec.ofNat 64 bits
          .ok (if Binary64.isNaN x then Binary64.nan else x)
      | none => .error "invalid float literal".toList
    display := fun x => Numeral.decimal x.toNat }

def noJson : ConfigApi :=
  { f64 := bitsText
    rulesFromJson := fun _ => .error []
    rulesToJson := fun _ => [] }

end Example

namespace ConfigItems

/-- Two tags of the environment, one of the code, an address made of defaults, and the second of two
services. -/
theorem built_config_tags :
    let cfg := configured noJson (oneSetting .DD_TAGS "team:core, stage : beta,broken".toList)
      [.setService "a".toList, .addGlobalTag ("k".toList, "v".toList), .setService "b".toList]
    cfg.value .globalTags =
      [("team".toList, "core".toList), ("stage".toList, "beta".toList),
        ("k".toList, "v".toList)] ∧
    cfg.value .traceAgentUrl = "http://localhost:8126".toList ∧ cfg.value .env = none ∧
    cfg.service.value = .configured "b".toList ∧ cfg.service.source = .code ∧
    cfg.traceSamplingRules.value = [] := by
  intro cfg
  have h := built_config noJson (oneSetting .DD_TAGS "team:core, stage : beta,broken".toList)
    [.setService "a".toList, .addGlobalTag ("k".toList, "v".toList), .setService "b".toList]
  refine ⟨h.2.1.trans (by decide +kernel), h.2.2.1.trans (by decide +kernel),
    (h.1 .env (by decide) (by decide) (by decide)).trans (by decide +kernel), ?_⟩
  obtain ⟨-, -, -, -, -, -, ⟨hservice, hserviceSource⟩, hrules, -⟩ := h
  exact ⟨hservice.trans (by decide +kernel), hserviceSource.trans (by decide +kernel),
    hrules.trans (by decide +kernel)⟩

end ConfigItems

end Otel
end DdTrace
