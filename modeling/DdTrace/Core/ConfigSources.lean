import DdTrace.Core.SamplingRules

/-!
# ConfigSources — where the value of a setting comes from

The sources of the configuration are asked in turn.  A source is asked for the name of the setting and,
only if it does not have that, for the older names of it.  A text that cannot be read is recorded as an
error, and the next source is asked.

`getParse_eq` says what the loop over the sources finds: the value of the first source whose answer can be
read, and before it the errors of those that have an answer which cannot.
-/

namespace DdTrace
namespace Core

open Lib

/-! ## Settings -/

inductive SupportedConfigurations
  | DD_AGENT_HOST
  | DD_DOGSTATSD_HOST
  | DD_DOGSTATSD_PORT
  | DD_DOGSTATSD_URL
  | DD_ENV
  | DD_INSTRUMENTATION_TELEMETRY_ENABLED
  | DD_LOG_LEVEL
  | DD_REMOTE_CONFIGURATION_ENABLED
  | DD_REMOTE_CONFIG_POLL_INTERVAL_SECONDS
  | DD_SERVICE
  | DD_TAGS
  | DD_TELEMETRY_HEARTBEAT_INTERVAL
  | DD_TELEMETRY_LOG_COLLECTION_ENABLED
  | DD_TRACE_AGENT_PORT
  | DD_TRACE_AGENT_URL
  | DD_TRACE_ENABLED
  | DD_TRACE_PARTIAL_FLUSH_ENABLED
  | DD_TRACE_PARTIAL_FLUSH_MIN_SPANS
  | DD_TRACE_PROPAGATION_EXTRACT_FIRST
  | DD_TRACE_PROPAGATION_STYLE
  | DD_TRACE_PROPAGATION_STYLE_EXTRACT
  | DD_TRACE_PROPAGATION_STYLE_INJECT
  | DD_TRACE_RATE_LIMIT
  | DD_TRACE_SAMPLING_RULES
  | DD_TRACE_STATS_COMPUTATION_ENABLED
  | DD_TRACE_X_DATADOG_TAGS_MAX_LENGTH
  | DD_VERSION
  deriving DecidableEq

namespace SupportedConfigurations

def asStr : SupportedConfigurations → Str
  | DD_AGENT_HOST => "DD_AGENT_HOST".toList
  | DD_DOGSTATSD_HOST => "DD_DOGSTATSD_HOST".toList
  | DD_DOGSTATSD_PORT => "DD_DOGSTATSD_PORT".toList
  | DD_DOGSTATSD_URL => "DD_DOGSTATSD_URL".toList
  | DD_ENV => "DD_ENV".toList
  | DD_INSTRUMENTATION_TELEMETRY_ENABLED => "DD_INSTRUMENTATION_TELEMETRY_ENABLED".toList
  | DD_LOG_LEVEL => "DD_LOG_LEVEL".toList
  | DD_REMOTE_CONFIGURATION_ENABLED => "DD_REMOTE_CONFIGURATION_ENABLED".toList
  | DD_REMOTE_CONFIG_POLL_INTERVAL_SECONDS => "DD_REMOTE_CONFIG_POLL_INTERVAL_SECONDS".toList
  | DD_SERVICE => "DD_SERVICE".toList
  | DD_TAGS => "DD_TAGS".toList
  | DD_TELEMETRY_HEARTBEAT_INTERVAL => "DD_TELEMETRY_HEARTBEAT_INTERVAL".toList
  | DD_TELEMETRY_LOG_COLLECTION_ENABLED => "DD_TELEMETRY_LOG_COLLECTION_ENABLED".toList
  | DD_TRACE_AGENT_PORT => "DD_TRACE_AGENT_PORT".toList
  | DD_TRACE_AGENT_URL => "DD_TRACE_AGENT_URL".toList
  | DD_TRACE_ENABLED => "DD_TRACE_ENABLED".toList
  | DD_TRACE_PARTIAL_FLUSH_ENABLED => "DD_TRACE_PARTIAL_FLUSH_ENABLED".toList
  | DD_TRACE_PARTIAL_FLUSH_MIN_SPANS => "DD_TRACE_PARTIAL_FLUSH_MIN_SPANS".toList
  | DD_TRACE_PROPAGATION_EXTRACT_FIRST => "DD_TRACE_PROPAGATION_EXTRACT_FIRST".toList
  | DD_TRACE_PROPAGATION_STYLE => "DD_TRACE_PROPAGATION_STYLE".toList
  | DD_TRACE_PROPAGATION_STYLE_EXTRACT => "DD_TRACE_PROPAGATION_STYLE_EXTRACT".toList
  | DD_TRACE_PROPAGATION_STYLE_INJECT => "DD_TRACE_PROPAGATION_STYLE_INJECT".toList
  | DD_TRACE_RATE_LIMIT => "DD_TRACE_RATE_LIMIT".toList
  | DD_TRACE_SAMPLING_RULES => "DD_TRACE_SAMPLING_RULES".toList
  | DD_TRACE_STATS_COMPUTATION_ENABLED => "DD_TRACE_STATS_COMPUTATION_ENABLED".toList
  | DD_TRACE_X_DATADOG_TAGS_MAX_LENGTH => "DD_TRACE_X_DATADOG_TAGS_MAX_LENGTH".toList
  | DD_VERSION => "DD_VERSION".toList

/-- The older names. -/
def aliases : SupportedConfigurations → List Str
  | DD_REMOTE_CONFIGURATION_ENABLED => ["DD_REMOTE_CONFIG_ENABLED".toList]
  | _ => []

end SupportedConfigurations

/-! ## Sources -/

inductive ConfigSourceError
  | missing
  | failedParsing (desiredType error value : Str)
  deriving DecidableEq

structure ConfigurationSource where
  origin : ConfigSourceOrigin
  get : Str → Except ConfigSourceError Str

/-- The environment, or any other table of texts. -/
def ConfigurationSource.ofTable (origin : ConfigSourceOrigin) (table : Str → Option Str) :
    ConfigurationSource :=
  { origin := origin
    get := fun key =>
      match table key with
      | some value => .ok value
      | none => .error .missing }

/-- How a value is read: its type, as it is named in an error, and what makes it from a text. -/
structure FromStr (α : Type*) where
  typeName : Str
  fromStr : Str → Except Str α

variable {α β : Type*}

/-- A value that is read and then changed. -/
def FromStr.map (self : FromStr α) (transform : α → β) : FromStr β :=
  { typeName := self.typeName
    fromStr := fun s => (self.fromStr s).map transform }

/-- Reading a value, where the text that cannot be read becomes part of the error. -/
def FromStr.parse (self : FromStr α) (value : Str) : Except ConfigSourceError α :=
  (self.fromStr value).mapError fun e => .failedParsing self.typeName e value

namespace ConfigurationSource

/-- The loop over the older names. -/
def firstOf (self : ConfigurationSource) : List Str → Except ConfigSourceError Str
  | [] => .error .missing
  | key :: keys =>
      match self.get key with
      | .ok value => .ok value
      | .error .missing => self.firstOf keys
      | .error e => .error e

def getAliasValue (self : ConfigurationSource) (key : SupportedConfigurations) :
    Except ConfigSourceError Str :=
  self.firstOf key.aliases

end ConfigurationSource

structure ConfigKey (α : Type*) where
  value : α
  origin : ConfigSourceOrigin

structure CompositeParseError where
  desiredType : Str
  error : Str
  value : Str
  origin : ConfigSourceOrigin

structure CompositeConfigSourceResult (α : Type*) where
  name : SupportedConfigurations
  value : Option (ConfigKey α)
  errors : List CompositeParseError

/-- The sources, of higher precedence first. -/
structure CompositeSource where
  sources : List ConfigurationSource

namespace CompositeSource

/-- The loop over the sources, with the errors met before. -/
def getParseFrom (reader : FromStr α) (name : SupportedConfigurations) :
    List ConfigurationSource → List CompositeParseError → CompositeConfigSourceResult α
  | [], errors => { name := name, value := none, errors := errors }
  | s :: sources, errors =>
      match (s.get name.asStr).bind reader.parse with
      | .ok v => { name := name, value := some { value := v, origin := s.origin }, errors := errors }
      | .error .missing =>
          match (s.getAliasValue name).bind reader.parse with
          | .ok v =>
              { name := name, value := some { value := v, origin := s.origin }, errors := errors }
          | .error .missing => getParseFrom reader name sources errors
          | .error (.failedParsing desiredType error value) =>
              getParseFrom reader name sources
                (errors ++ [{ desiredType := desiredType, error := error, value := value,
                              origin := s.origin }])
      | .error (.failedParsing desiredType error value) =>
          getParseFrom reader name sources
            (errors ++ [{ desiredType := desiredType, error := error, value := value,
                          origin := s.origin }])

def getParse (self : CompositeSource) (reader : FromStr α) (name : SupportedConfigurations) :
    CompositeConfigSourceResult α :=
  getParseFrom reader name self.sources []

end CompositeSource

/-! ## What a source answers -/

namespace ConfigurationSource

variable (self : ConfigurationSource) (reader : FromStr α) (name : SupportedConfigurations)

/-- The first name of the setting that the source has, read. -/
def answer : Except ConfigSourceError α :=
  (self.firstOf (name.asStr :: name.aliases)).bind reader.parse

/-- What the source adds to the errors. -/
def refused : Option CompositeParseError :=
  match self.answer reader name with
  | .error (.failedParsing desiredType error value) =>
      some { desiredType := desiredType, error := error, value := value, origin := self.origin }
  | _ => none

/-- What the source has as the value. -/
def found : Option (ConfigKey α) :=
  match self.answer reader name with
  | .ok v => some { value := v, origin := self.origin }
  | .error _ => none

variable {self reader name}

/-- Reading a text never finds it missing. -/
theorem parse_ne_missing (value : Str) : reader.parse value ≠ .error .missing := by
  unfold FromStr.parse
  cases reader.fromStr value with
  | ok v => simp [Except.mapError]
  | error e => simp [Except.mapError]

/-- The older names count where the source does not have the present one. -/
theorem answer_eq :
    self.answer reader name =
      match (self.get name.asStr).bind reader.parse with
      | .error .missing => (self.getAliasValue name).bind reader.parse
      | answer => answer := by
  rw [answer, firstOf]
  cases hget : self.get name.asStr with
  | ok value =>
      -- the text decides, whether or not it can be read
      cases hparse : reader.parse value with
      | ok v => simp [Except.bind, hparse]
      | error e =>
          cases e with
          | missing => exact absurd hparse (parse_ne_missing value)
          | failedParsing desiredType error value' => simp [Except.bind, hparse]
  | error e =>
      cases e with
      | missing => rfl
      | failedParsing desiredType error value => rfl

/-- A value that is found was read from some text. -/
theorem exists_text_of_found {key : ConfigKey α} (h : self.found reader name = some key) :
    ∃ text, reader.fromStr text = .ok key.value := by
  unfold found at h
  cases hanswer : self.answer reader name with
  | error e => simp [hanswer] at h
  | ok v =>
      rw [hanswer] at h
      cases h
      unfold answer at hanswer
      cases hfirst : self.firstOf (name.asStr :: name.aliases) with
      | error e => simp [hfirst, Except.bind] at hanswer
      | ok text =>
          refine ⟨text, ?_⟩
          simp only [hfirst, Except.bind, FromStr.parse] at hanswer
          cases hread : reader.fromStr text with
          | error e => simp [hread, Except.mapError] at hanswer
          | ok v' => simpa [hread, Except.mapError] using hanswer

end ConfigurationSource

namespace CompositeSource

open ConfigurationSource

variable {reader : FromStr α} {name : SupportedConfigurations}

/-- One source: a value ends the loop, an error is recorded, and an absent setting changes nothing. -/
theorem getParseFrom_cons (s : ConfigurationSource) (sources : List ConfigurationSource)
    (errors : List CompositeParseError) :
    getParseFrom reader name (s :: sources) errors =
      match s.found reader name with
      | some key => { name := name, value := some key, errors := errors }
      | none =>
          getParseFrom reader name sources (errors ++ (s.refused reader name).toList) := by
  rw [getParseFrom, found, ConfigurationSource.refused, answer_eq]
  cases hget : (s.get name.asStr).bind reader.parse with
  | ok v => simp
  | error e =>
      cases e with
      | failedParsing desiredType error value => simp
      | missing =>
          cases halias : (s.getAliasValue name).bind reader.parse with
          | ok v => simp
          | error e =>
              cases e with
              | failedParsing desiredType error value => simp
              | missing => simp

theorem getParseFrom_eq (sources : List ConfigurationSource) (errors : List CompositeParseError) :
    getParseFrom reader name sources errors =
      { name := name
        value := sources.findSome? fun s => s.found reader name
        errors := errors ++ (sources.takeWhile fun s => (s.found reader name).isNone).filterMap
          fun s => s.refused reader name } := by
  induction sources generalizing errors with
  | nil => simp [getParseFrom]
  | cons s sources ih =>
      rw [getParseFrom_cons]
      cases hfound : s.found reader name with
      | some key => simp [hfound]
      | none =>
          rw [ih]
          cases hrefused : s.refused reader name with
          | none => simp [hfound, hrefused]
          | some refusal => simp [hfound, hrefused]

/-- The value is that of the first source whose answer can be read, and the errors are those of the
sources before it. -/
theorem getParse_eq (self : CompositeSource) :
    self.getParse reader name =
      { name := name
        value := self.sources.findSome? fun s => s.found reader name
        errors := (self.sources.takeWhile fun s => (s.found reader name).isNone).filterMap
          fun s => s.refused reader name } := by
  rw [getParse, getParseFrom_eq, List.nil_append]

end CompositeSource

/-! ## Items -/

namespace ConfigItem

def new (default : α) : ConfigItem α :=
  { defaultValue := default, envValue := none, codeValue := none }

def setCode (self : ConfigItem α) (value : α) : ConfigItem α :=
  { self with codeValue := some value }

def source (self : ConfigItem α) : ConfigSourceOrigin :=
  if self.codeValue.isSome then .code
  else if self.envValue.isSome then .envVar
  else .default

/-- Neither remote configuration nor a later default has a place in an item. -/
def setValueSource (self : ConfigItem α) (value : α) (source : ConfigSourceOrigin) : ConfigItem α :=
  match source with
  | .code => { self with codeValue := some value }
  | .envVar => { self with envValue := some value }
  | .remoteConfig => self
  | .default => self

@[simp] theorem value_setCode (self : ConfigItem α) (value : α) :
    (self.setCode value).value = value := rfl

@[simp] theorem source_setCode (self : ConfigItem α) (value : α) :
    (self.setCode value).source = .code := rfl

end ConfigItem

namespace ConfigItemWithOverride

/-- An item whose override is the value that the code gives. -/
def newCode (configItem : ConfigItem α) : ConfigItemWithOverride α :=
  { configItem := configItem
    overrideValue := none
    overrideOrigin := .code
    configId := none }

def source (self : ConfigItemWithOverride α) : ConfigSourceOrigin :=
  if self.overrideValue.isSome then self.overrideOrigin else self.configItem.source

/-- A value of the origin of the override becomes the override. -/
def setValueSource (self : ConfigItemWithOverride α) (value : α) (source : ConfigSourceOrigin) :
    ConfigItemWithOverride α :=
  if source = self.overrideOrigin then self.setOverrideValue value source
  else { self with configItem := self.configItem.setValueSource value source }

def setCode (self : ConfigItemWithOverride α) (value : α) : ConfigItemWithOverride α :=
  self.setValueSource value .code

end ConfigItemWithOverride

/-- A value that a source has becomes the value of its origin. -/
def applyResult {ι : Type*} (setValueSource : ι → α → ConfigSourceOrigin → ι) (item : ι)
    (result : CompositeConfigSourceResult α) : ι :=
  match result.value with
  | some key => setValueSource item key.value key.origin
  | none => item

end Core
end DdTrace
