import DdTrace.Core.SamplingRules

/-!
# RemoteConfig — processing a remote configuration response

A response carries signed targets (metadata), target files (the configurations) and the paths of the
client configurations.  `processResponse` records the version of the targets, checks that every file
is announced, and then applies the files one by one.  Every `?` of the source is an exit that keeps
the changes made so far.

Base64, the JSON parser and SHA-256 are other people's code: they are the fields of `Codec`.
-/

namespace DdTrace
namespace Core

open Lib

/-! ## Data -/

inductive JsonNumber
  | posInt (n : UInt64)
  | negInt (i : Int64)
  | float (f : F64)

/-- `serde_json::Value`; the keys of an object are distinct. -/
inductive JsonValue
  | null
  | bool (b : Bool)
  | number (n : JsonNumber)
  | string (s : Str)
  | array (items : List JsonValue)
  | object (entries : List (Str × JsonValue))

namespace JsonValue

def get (self : JsonValue) (key : Str) : Option JsonValue :=
  match self with
  | .object entries => entries.lookup key
  | _ => none

def asStr : JsonValue → Option Str
  | .string s => some s
  | _ => none

def asU64 : JsonValue → Option UInt64
  | .number (.posInt n) => some n
  | _ => none

def isNull : JsonValue → Bool
  | .null => true
  | _ => false

end JsonValue

structure LibConfig where
  /-- An explicit `null` is `some .null`. -/
  tracingSamplingRules : Option JsonValue

structure ApmTracingConfig where
  id : Str
  libConfig : LibConfig

structure TargetDesc where
  length : UInt64
  /-- From algorithm to hash. -/
  hashes : HashMap Str Str
  custom : Option JsonValue

structure Targets where
  custom : Option JsonValue
  targets : HashMap Str TargetDesc
  version : UInt64

structure SignedTargets where
  signed : Targets

structure TargetFile where
  path : Str
  raw : Str

structure ConfigResponse where
  targets : Option Str
  targetFiles : Option (List TargetFile)
  clientConfigs : Option (List Str)

structure ConfigState where
  id : Str
  version : UInt64
  product : Str
  applyState : UInt64
  applyError : Option Str

structure ClientState where
  rootVersion : UInt64
  targetsVersion : UInt64
  configStates : List ConfigState
  hasError : Bool
  error : Option Str
  backendClientState : Option Str

structure Hash where
  algorithm : Str
  hash : Str

structure CachedTargetFile where
  path : Str
  length : Nat
  hashes : List Hash

/-- The code of other packages. -/
structure Codec where
  decodeBase64 : Str → Except Str (List UInt8)
  /-- The text of the error of `String::from_utf8`. -/
  utf8Error : List UInt8 → Str
  parseTargets : Str → Except Str SignedTargets
  parseApmTracing : Str → Except Str ApmTracingConfig
  parseRules : Str → Except Str (List SamplingRuleConfig)
  rulesToString : JsonValue → Except Str Str
  /-- The SHA-256 digest of the bytes of a string, in hexadecimal. -/
  sha256Hex : Str → Str

/-- `String::from_utf8`. -/
def Codec.fromUtf8 (codec : Codec) (bytes : List UInt8) : Except Str Str :=
  match String.fromUTF8? ⟨bytes.toArray⟩ with
  | some s => .ok s.toList
  | none => .error (codec.utf8Error bytes)

/-- The bytes of a text are that text. -/
theorem Codec.fromUtf8_toUTF8 (codec : Codec) (s : String) :
    codec.fromUtf8 s.toUTF8.data.toList = .ok s.toList := by
  have hbytes : (⟨s.toUTF8.data.toList.toArray⟩ : ByteArray) = s.toUTF8 := by simp
  have hvalid : s.toUTF8.IsValidUTF8 := s.isValidUTF8
  simp only [Codec.fromUtf8, hbytes, String.fromUTF8?, dif_pos hvalid]
  rfl

/-- `map_err` with a text in front of the error. -/
def withContext {α : Type*} (context : String) (result : Except Str α) : Except Str α :=
  result.mapError fun e => context.toList ++ e

/-! ## Products -/

/-- The product and the config id of a path `datadog/2/{product}/{config id}/config`. -/
def extractProductAndIdFromPath (path : Str) : Option (Str × Str) := do
  let rest ← Text.stripPrefix "datadog/2/".toList path
  let rest ← Text.stripSuffix "/config".toList rest
  match rest.splitOn '/' with
  | [product, configId] => some (product, configId)
  | _ => none

namespace ApmTracingHandler

def productName : Str := "APM_TRACING".toList

/-- Fails only if the text cannot be read: an update that is refused is logged. -/
def processConfig (codec : Codec) (configJson : Str) (config : SamplingRules) :
    Except Str Unit × SamplingRules :=
  match withContext "Failed to parse APM tracing config: " (codec.parseApmTracing configJson) with
  | .error e => (.error e, config)
  | .ok tracingConfig =>
      match tracingConfig.libConfig.tracingSamplingRules with
      | none => (.ok (), config)
      | some rulesValue =>
          -- `null` takes the remote rules back, no field at all leaves them alone
          if rulesValue.isNull then
            (.ok (), config.clearRemoteSamplingRules (some tracingConfig.id))
          else
            match withContext "Failed to serialize sampling rules: "
                (codec.rulesToString rulesValue) with
            | .error e => (.error e, config)
            | .ok rulesJson =>
                (.ok (),
                  (config.updateSamplingRulesFromRemote codec.parseRules rulesJson
                    (some tracingConfig.id)).2)

end ApmTracingHandler

/-- The only handler of the registry is that of `APM_TRACING`. -/
def hasHandler (product : Str) : Bool := product = ApmTracingHandler.productName

/-! ## Targets -/

/-- The metadata in the response, if there is any. -/
def decodeTargets (codec : Codec) (targets : Option Str) : Except Str (Option SignedTargets) :=
  match targets with
  | none => .ok none
  | some targetsStr => do
      let decoded ← withContext "Failed to decode targets: " (codec.decodeBase64 targetsStr)
      let targetsJson ← withContext "Invalid UTF-8 in targets: " (codec.fromUtf8 decoded)
      let targets ← withContext "Failed to parse targets metadata: "
        (codec.parseTargets targetsJson)
      .ok (some targets)

namespace SignedTargets

/-- The version in the custom metadata of a path: `v`, else `version`. -/
def metaVersion (self : SignedTargets) (path : Str) : Option UInt64 := do
  let desc ← self.signed.targets.lookup path
  let custom ← desc.custom
  let version ← (custom.get "v".toList).or (custom.get "version".toList)
  version.asU64

def opaqueBackendState (self : SignedTargets) : Option Str := do
  let custom ← self.signed.custom
  let state ← custom.get "opaque_backend_state".toList
  state.asStr

end SignedTargets

namespace ClientState

/-- The state with the version and the backend state of the targets. -/
def recordTargets (self : ClientState) (targets : SignedTargets) : ClientState :=
  { self with
    targetsVersion := targets.signed.version
    backendClientState :=
      match targets.opaqueBackendState with
      | some state => some state
      | none => self.backendClientState }

end ClientState

/-- Every target file has to be a signed target or a client config. -/
def validateSignedTargetFiles (payloadTargetFiles : List TargetFile)
    (payloadTargetsSigned : Option SignedTargets) (clientConfigs : Option (List Str)) :
    Except Str Unit :=
  match payloadTargetFiles with
  | [] => .ok ()
  | target :: rest =>
      let existsInSignedTargets := payloadTargetsSigned.any fun targets =>
        (targets.signed.targets.lookup target.path).isSome
      let existsInClientConfigs := clientConfigs.any fun configs => configs.contains target.path
      if !existsInSignedTargets && !existsInClientConfigs then
        .error ("target file ".toList ++ target.path ++
          " not exists in client_config and signed targets".toList)
      else validateSignedTargetFiles rest payloadTargetsSigned clientConfigs

/-! ## The client -/

structure RemoteConfigClient where
  config : SamplingRules
  state : ClientState
  cachedTargetFiles : List CachedTargetFile

/-- The variables of the loop over the target files, with what it changes of the client. -/
structure FileLoop where
  config : SamplingRules
  state : ClientState
  newCache : List CachedTargetFile
  anyFailure : Bool
  configStatesCleared : Bool

namespace FileLoop

/-- The first report of the loop replaces the states of the last response. -/
def report (self : FileLoop) (configState : ConfigState) : FileLoop :=
  { self with
    state :=
      { self.state with
        configStates :=
          (if self.configStatesCleared then self.state.configStates else []) ++ [configState] }
    configStatesCleared := true }

/-- Apply the content of a file. -/
def apply (codec : Codec) (targets : Option SignedTargets) (self : FileLoop) (file : TargetFile)
    (product configId configStr : Str) : FileLoop :=
  let configVersion := (targets.bind fun targets => targets.metaVersion file.path).getD 1
  match ApmTracingHandler.processConfig codec configStr self.config with
  | (.ok (), config) =>
      let cached : CachedTargetFile :=
        { path := file.path
          length := Text.utf8Len file.raw
          hashes := [{ algorithm := "sha256".toList, hash := codec.sha256Hex file.raw }] }
      let next : FileLoop := { self with config := config, newCache := self.newCache ++ [cached] }
      next.report
        { id := configId
          version := configVersion
          product := product
          applyState := 2
          applyError := none }
  | (.error e, config) =>
      let next : FileLoop := { self with config := config, anyFailure := true }
      next.report
        { id := configId
          version := configVersion
          product := product
          applyState := 3
          applyError := some e }

/-- The base64 content of a file, as text. -/
def decodeFile (codec : Codec) (file : TargetFile) : Except Str Str := do
  let decoded ← withContext "Failed to decode config: " (codec.decodeBase64 file.raw)
  withContext "Invalid UTF-8 in config: " (codec.fromUtf8 decoded)

/-- One pass of the loop; files of other products, and of other paths, are skipped. -/
def processFile (codec : Codec) (targets : Option SignedTargets) (self : FileLoop)
    (file : TargetFile) : Except Str FileLoop :=
  match extractProductAndIdFromPath file.path with
  | none => .ok self
  | some (product, configId) =>
      if hasHandler product then
        (decodeFile codec file).map fun configStr =>
          self.apply codec targets file product configId configStr
      else .ok self

/-- The loop, up to its end or to the first file that cannot be decoded. -/
def processFiles (codec : Codec) (targets : Option SignedTargets) (self : FileLoop) :
    List TargetFile → Except Str Unit × FileLoop
  | [] => (.ok (), self)
  | file :: files =>
      match self.processFile codec targets file with
      | .error e => (.error e, self)
      | .ok next => next.processFiles codec targets files

end FileLoop

namespace RemoteConfigClient

/-- The client after the targets of the response were recorded. -/
def recordTargets (self : RemoteConfigClient) (targets : Option SignedTargets) :
    RemoteConfigClient :=
  match targets with
  | some targets => { self with state := self.state.recordTargets targets }
  | none => self

/-- Apply the target files; the cache is replaced only if all of them were applied. -/
def applyFiles (codec : Codec) (self : RemoteConfigClient) (targets : Option SignedTargets)
    (targetFiles : List TargetFile) : Except Str Unit × RemoteConfigClient :=
  let start : FileLoop :=
    { config := self.config
      state := self.state
      newCache := []
      anyFailure := false
      configStatesCleared := false }
  let (result, last) := start.processFiles codec targets targetFiles
  -- the loop works on the client itself, so its changes stay when it ends with an error
  let self := { self with config := last.config, state := last.state }
  match result with
  | .error e => (.error e, self)
  | .ok () =>
      (.ok (), if last.anyFailure then self else { self with cachedTargetFiles := last.newCache })

def processResponse (codec : Codec) (self : RemoteConfigClient) (response : ConfigResponse) :
    Except Str Unit × RemoteConfigClient :=
  match decodeTargets codec response.targets with
  | .error e => (.error e, self)
  | .ok targets =>
      -- the targets are recorded before the files are validated
      let self := self.recordTargets targets
      match response.targetFiles with
      | none => (.ok (), self)
      | some targetFiles =>
          match validateSignedTargetFiles targetFiles targets response.clientConfigs with
          | .error e => (.error e, self)
          | .ok () => self.applyFiles codec targets targetFiles

end RemoteConfigClient

end Core
end DdTrace
