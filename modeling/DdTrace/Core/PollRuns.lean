import DdTrace.Core.CachedTargets
import DdTrace.Lib.Machine
import DdTrace.Lib.Prefixes

/-!
# PollRuns — what the requests report, over whole runs

The worker of remote configuration polls the agent: it sends a request, reads the answer, processes the
response, and records how the poll ended.  A request carries what the polls before it left in the client.

What a response tells is read off the response alone (`told`), whether it is processed to its end or not.
So each field of a request is what the last poll told that told anything about it (`requests_report`), and
the same answer once more changes nothing (`answered_again`).
-/

namespace DdTrace
namespace Core

open Lib

/-! ## A poll -/

structure StatusCode where
  code : Nat
  text : Str

def StatusCode.isSuccess (self : StatusCode) : Bool := 200 ≤ self.code ∧ self.code < 300

structure HttpRequest where
  method : Str
  uri : Str
  headers : List (Str × Str)
  body : Str

/-- The body is read after the status, and reading it can fail. -/
structure HttpResponse where
  status : StatusCode
  body : Except Str (List UInt8)

/-- The code of other packages, with that of the HTTP client. -/
structure AgentCodec extends Codec where
  encodeBase64 : List UInt8 → Str
  requestToString : ConfigRequest → Except Str Str
  buildHttpRequest : HttpRequest → Except Str HttpRequest
  parseResponse : List UInt8 → Except Str ConfigResponse

/-- The response in an answer of the agent. -/
def readAnswer (codec : AgentCodec) (answer : Except Str HttpResponse) :
    Except Str ConfigResponse := do
  let response ← withContext "Failed to send request: " answer
  if !response.status.isSuccess then
    .error ("Agent returned error status: ".toList ++ response.status.text)
  else
    let bodyBytes ← withContext "Failed to read response body: " response.body
    withContext "Failed to parse response: " (codec.parseResponse bodyBytes)

namespace RemoteConfigClient

/-- `fetch_and_apply_config` up to the call of the agent. -/
def httpRequest (codec : AgentCodec) (agentUrl : Str) (config : RequestSettings)
    (self : RemoteConfigClient) : Except Str HttpRequest := do
  let jsonBody ← withContext "Failed to serialize request: "
    (codec.requestToString (self.buildRequest codec.encodeBase64 config))
  withContext "Failed to build request: "
    (codec.buildHttpRequest
      { method := "POST".toList
        uri := agentUrl
        headers :=
          [("content-type".toList, "application/json".toList),
            ("user-agent".toList, "dd-trace-rs".toList)]
        body := jsonBody })

/-- `fetch_and_apply_config` from the answer of the agent on. -/
def applyAnswer (codec : AgentCodec) (self : RemoteConfigClient)
    (answer : Except Str HttpResponse) : Except Str Unit × RemoteConfigClient :=
  match readAnswer codec answer with
  | .error e => (.error e, self)
  | .ok configResponse => self.processResponse codec.toCodec configResponse

/-- The end of a poll, as the next request reports it. -/
def recordResult (self : RemoteConfigClient) (result : Except Str Unit) : RemoteConfigClient :=
  match result with
  | .ok () => { self with state := { self.state with hasError := false, error := none } }
  | .error e => { self with state := { self.state with hasError := true, error := some e } }

def new (config : SamplingRules) : RemoteConfigClient :=
  { config := config
    state :=
      { rootVersion := 1
        targetsVersion := 0
        configStates := []
        hasError := false
        error := none
        backendClientState := none }
    cachedTargetFiles := [] }

end RemoteConfigClient

/-! ## The worker -/

inductive WorkerPhase
  /-- Between two polls. -/
  | sleeping
  /-- Waiting for the agent. -/
  | fetching
  | cancelled
  deriving DecidableEq

structure RemoteConfigClientWorker where
  client : RemoteConfigClient
  phase : WorkerPhase

inductive WorkerEvent
  /-- The next poll begins; what the request reads of the configuration may have changed. -/
  | poll (config : RequestSettings)
  | answer (answer : Except Str HttpResponse)
  | cancel

inductive WorkerOutput
  | sent (payload : ConfigRequest) (req : HttpRequest)
  | polled (result : Except Str Unit)
  | stopped

/-- A history of the worker. -/
abbrev PollHistory := List (WorkerEvent × WorkerOutput)

namespace RemoteConfigClientWorker

def start (config : SamplingRules) : RemoteConfigClientWorker :=
  { client := .new config
    phase := .sleeping }

/-- The loop of `run`.  A response is processed and its end recorded without a wait in between, so the
worker is cancelled only while it sleeps or waits for the agent. -/
def machine (codec : AgentCodec) (agentUrl : Str) :
    Machine RemoteConfigClientWorker WorkerEvent WorkerOutput :=
  fun self event =>
    match self.phase, event with
    | .sleeping, .poll config =>
        match self.client.httpRequest codec agentUrl config with
        | .error e =>
            some ({ self with client := self.client.recordResult (.error e) }, .polled (.error e))
        | .ok req =>
            some ({ self with phase := .fetching },
              .sent (self.client.buildRequest codec.encodeBase64 config) req)
    | .fetching, .answer answer =>
        let (result, client) := self.client.applyAnswer codec answer
        some ({ client := client.recordResult result, phase := .sleeping }, .polled result)
    | .sleeping, .cancel => some ({ self with phase := .cancelled }, .stopped)
    | .fetching, .cancel => some ({ self with phase := .cancelled }, .stopped)
    | _, _ => none

end RemoteConfigClientWorker

/-! ## What a response tells -/

/-- Whether all files with a handler can be decoded: the error of the first one that cannot. -/
def decodeFiles (codec : Codec) (targets : Option SignedTargets) :
    List TargetFile → Except Str Unit
  | [] => .ok ()
  | file :: files =>
      match readFile codec targets file with
      | .error e => .error e
      | .ok _ => decodeFiles codec targets files

/-- The content was taken. -/
def Reading.accepted (self : Reading) : Bool := self.state.applyError.isNone

/-- The handler takes the content of the file. -/
def takes (codec : Codec) (targets : Option SignedTargets) (file : TargetFile) : Bool :=
  match readFile codec targets file with
  | .ok (some reading) => reading.accepted
  | _ => false

/-- What a response tells the client, up to the point where its processing ends. -/
structure Told where
  result : Except Str Unit
  targets : Option SignedTargets
  applied : List Reading
  /-- The new cache, if it is replaced. -/
  cache : Option (List CachedTargetFile)

def told (codec : Codec) (response : ConfigResponse) : Told :=
  match decodeTargets codec response.targets with
  | .error e => { result := .error e, targets := none, applied := [], cache := none }
  | .ok targets =>
      match response.targetFiles with
      | none => { result := .ok (), targets := targets, applied := [], cache := none }
      | some files =>
          match validateSignedTargetFiles files targets response.clientConfigs with
          | .error e => { result := .error e, targets := targets, applied := [], cache := none }
          | .ok () =>
              { result := decodeFiles codec targets files
                targets := targets
                applied := readings codec targets files
                -- kept if a file cannot be decoded, or is refused
                cache :=
                  if (decodeFiles codec targets files).isOk &&
                      (readings codec targets files).all Reading.accepted then
                    some ((files.filter (takes codec targets)).map (cacheEntry codec))
                  else none }

namespace Told

def version (self : Told) : Option UInt64 := self.targets.map fun targets => targets.signed.version

def backendState (self : Told) : Option Str := self.targets.bind SignedTargets.opaqueBackendState

/-- The states of the files; a response without files that are read leaves those of an earlier one. -/
def configStates (self : Told) : Option (List ConfigState) :=
  if self.applied.isEmpty then none else some (self.applied.map Reading.state)

/-- The client before and after it was told. -/
structure Leaves (told : Told) (before after : RemoteConfigClient) : Prop where
  rootVersion : after.state.rootVersion = before.state.rootVersion
  targetsVersion : after.state.targetsVersion = told.version.getD before.state.targetsVersion
  backendClientState :
    after.state.backendClientState = told.backendState.or before.state.backendClientState
  configStates : after.state.configStates = told.configStates.getD before.state.configStates
  cachedTargetFiles : after.cachedTargetFiles = told.cache.getD before.cachedTargetFiles
  config : before.config.OverriddenTo after.config
    (overrideAfter before.config.traceSamplingRules.overrideValue told.applied)

end Told

/-! ## A response leaves what it tells -/

namespace FileLoop

variable {codec : Codec} {targets : Option SignedTargets} {p q r : FileLoop}

/-- The loop ends as the files say that can be decoded. -/
theorem processFiles_result (codec : Codec) (targets : Option SignedTargets) (p : FileLoop)
    (files : List TargetFile) :
    (p.processFiles codec targets files).1 = decodeFiles codec targets files := by
  induction files generalizing p with
  | nil => rfl
  | cons file files ih =>
      rcases p.processFile_spec codec targets file with
        ⟨e, hread, hprocess⟩ | ⟨hread, hprocess⟩ | ⟨reading, q, hread, hprocess, -⟩
      · simp [processFiles, decodeFiles, hread, hprocess]
      · simpa [processFiles, decodeFiles, hread, hprocess] using ih p
      · simpa [processFiles, decodeFiles, hread, hprocess] using ih q

/-- The entries of the files that were taken, in order, and whether all were. -/
structure Collects (codec : Codec) (targets : Option SignedTargets) (files : List TargetFile)
    (p q : FileLoop) : Prop where
  newCache : q.newCache = p.newCache ++ (files.filter (takes codec targets)).map (cacheEntry codec)
  anyFailure : q.anyFailure = (p.anyFailure || !(readings codec targets files).all Reading.accepted)

theorem Collects.nil (p : FileLoop) : Collects codec targets [] p p := by
  constructor
  · simp
  · simp [readings]

theorem Collects.cons {file : TargetFile} {files : List TargetFile} {reading : Option Reading}
    (hread : readFile codec targets file = .ok reading) (h : Collects codec targets [file] p q)
    (h' : Collects codec targets files q r) : Collects codec targets (file :: files) p r := by
  have hfirst : readings codec targets [file] = reading.toList := by
    cases reading with
    | none => simp [readings, hread]
    | some reading => simp [readings, hread]
  have hall : readings codec targets (file :: files) =
      reading.toList ++ readings codec targets files := by
    cases reading with
    | none => simp [readings, hread]
    | some reading => simp [readings, hread]
  constructor
  · calc
      r.newCache
          = q.newCache ++ (files.filter (takes codec targets)).map (cacheEntry codec) :=
            h'.newCache
      _ = p.newCache ++ (([file].filter (takes codec targets)).map (cacheEntry codec) ++
            (files.filter (takes codec targets)).map (cacheEntry codec)) := by
            rw [h.newCache, List.append_assoc]
      _ = p.newCache ++ ((file :: files).filter (takes codec targets)).map (cacheEntry codec) := by
            rw [← List.map_append, ← List.filter_append, List.singleton_append]
  · have hq := h.anyFailure
    rw [hfirst] at hq
    rw [h'.anyFailure, hq, hall, List.all_append, Bool.not_and, Bool.or_assoc]

/-- The version that is reported for a file. -/
def configVersion (targets : Option SignedTargets) (path : Str) : UInt64 :=
  (targets.bind fun targets => targets.metaVersion path).getD 1

section Readings

variable {file : TargetFile} {product configId configStr : Str}
variable (hpath : extractProductAndIdFromPath file.path = some (product, configId))
variable (hdecode : decodeFile codec file = .ok configStr) (hhandler : hasHandler product = true)

include hpath hdecode hhandler

theorem readFile_of_refused (targets : Option SignedTargets) {e : Str}
    (h : readConfig codec configStr = .error e) :
    readFile codec targets file =
      .ok (some ⟨⟨configId, configVersion targets file.path, product, 3, some e⟩, .keep⟩) := by
  simp only [readFile, hpath, hhandler, if_true, hdecode, Except.map, h]
  rfl

theorem readFile_of_taken (targets : Option SignedTargets) {change : RuleChange}
    (h : readConfig codec configStr = .ok change) :
    readFile codec targets file =
      .ok (some ⟨⟨configId, configVersion targets file.path, product, 2, none⟩, change⟩) := by
  simp only [readFile, hpath, hhandler, if_true, hdecode, Except.map, h]
  rfl

end Readings

theorem readFile_of_not_handled (codec : Codec) (targets : Option SignedTargets) {file : TargetFile}
    (h : handled file = false) : readFile codec targets file = .ok none := by
  unfold handled at h
  unfold readFile
  cases hpath : extractProductAndIdFromPath file.path with
  | none => rfl
  | some ids =>
      simp only [hpath, Option.any_some] at h
      simp only [h, Bool.false_eq_true, if_false]

/-- One pass: an entry for a file that is taken, a failure for one that is refused. -/
theorem collects_processFile {file : TargetFile} (h : p.processFile codec targets file = .ok q) :
    (∃ reading, readFile codec targets file = .ok reading) ∧ Collects codec targets [file] p q := by
  rcases processFile_cases h with
    ⟨hhandled, rfl⟩ | ⟨product, configId, configStr, hpath, hdecode, hhandled, rfl⟩
  · have hread := readFile_of_not_handled codec targets hhandled
    refine ⟨⟨none, hread⟩, ?_, ?_⟩
    · simp [takes, hread]
    · simp [readings, hread]
  · have hhandler : hasHandler product = true := by
      simpa only [handled, hpath, Option.any_some] using hhandled
    rcases ApmTracingHandler.processConfig_spec codec configStr p.config with
      ⟨e, config, hconfig, hprocess, -⟩ | ⟨change, config, hconfig, hprocess, -⟩
    · have hread := readFile_of_refused hpath hdecode hhandler targets hconfig
      refine ⟨⟨_, hread⟩, ?_, ?_⟩
      · simp [(apply_of_error hprocess).1, takes, hread, Reading.accepted]
      · simp [(apply_of_error hprocess).2, readings, hread, Reading.accepted]
    · have hread := readFile_of_taken hpath hdecode hhandler targets hconfig
      refine ⟨⟨_, hread⟩, ?_, ?_⟩
      · simp [(apply_of_ok hprocess).1, takes, hread, Reading.accepted]
      · simp [(apply_of_ok hprocess).2, readings, hread, Reading.accepted]

theorem collects_processFiles {files : List TargetFile}
    (h : p.processFiles codec targets files = (.ok (), q)) : Collects codec targets files p q := by
  induction files generalizing p with
  | nil =>
      cases h
      exact .nil q
  | cons file files ih =>
      unfold processFiles at h
      cases hfile : p.processFile codec targets file with
      | error e => simp [hfile] at h
      | ok next =>
          simp only [hfile] at h
          rcases collects_processFile hfile with ⟨⟨reading, hread⟩, hfirst⟩
          exact hfirst.cons hread (ih h)

end FileLoop

namespace RemoteConfigClient

variable (codec : Codec) (self : RemoteConfigClient)

/-- The targets are told before anything else. -/
theorem leaves_recordTargets (targets : Option SignedTargets) (result : Except Str Unit) :
    Told.Leaves { result := result, targets := targets, applied := [], cache := none } self
      (self.recordTargets targets) := by
  cases targets with
  | none => exact ⟨rfl, rfl, rfl, rfl, rfl, .refl self.config⟩
  | some targets =>
      refine ⟨rfl, rfl, ?_, rfl, rfl, .refl self.config⟩
      simp only [recordTargets, ClientState.recordTargets, Told.backendState, Option.bind_some]
      cases targets.opaqueBackendState with
      | none => rfl
      | some state => rfl

/-- The files leave what their readings say, and the cache is replaced if all of them were taken. -/
theorem applyFiles_told (targets : Option SignedTargets) (files : List TargetFile) :
    (self.applyFiles codec targets files).1 = decodeFiles codec targets files ∧
      ∃ last, FileLoop.After self.fileLoop (readings codec targets files) last ∧
        (self.applyFiles codec targets files).2 =
          { config := last.config
            state := last.state
            cachedTargetFiles :=
              if (decodeFiles codec targets files).isOk &&
                  (readings codec targets files).all Reading.accepted then
                (files.filter (takes codec targets)).map (cacheEntry codec)
              else self.cachedTargetFiles } := by
  have hresult := FileLoop.processFiles_result codec targets self.fileLoop files
  have hafter := FileLoop.processFiles_spec codec targets self.fileLoop files
  cases hloop : self.fileLoop.processFiles codec targets files with
  | mk result last =>
      rw [hloop] at hresult hafter
      have hstart := hloop
      rw [fileLoop] at hstart
      simp only [← hresult, applyFiles, hstart]
      cases result with
      | error e => exact ⟨rfl, last, hafter, rfl⟩
      | ok done =>
          refine ⟨rfl, last, hafter, ?_⟩
          have hcollects := FileLoop.collects_processFiles hloop
          have hfailure := hcollects.anyFailure
          have hcache := hcollects.newCache
          simp only [fileLoop, Bool.false_or, List.nil_append] at hfailure hcache
          cases hall : (readings codec targets files).all Reading.accepted with
          | true =>
              simp only [hall, Bool.not_true] at hfailure
              simp only [hfailure, Bool.false_eq_true, if_false, hcache]
              rfl
          | false =>
              simp only [hall, Bool.not_false] at hfailure
              simp only [hfailure, if_true, Bool.and_false, Bool.false_eq_true, if_false]

/-- Whether a response fails or not, it leaves what it tells. -/
theorem processResponse_told (response : ConfigResponse) :
    (self.processResponse codec response).1 = (told codec response).result ∧
      (told codec response).Leaves self (self.processResponse codec response).2 := by
  unfold processResponse told
  cases decodeTargets codec response.targets with
  | error e => exact ⟨rfl, self.leaves_recordTargets none _⟩
  | ok targets =>
      cases response.targetFiles with
      | none => exact ⟨rfl, self.leaves_recordTargets targets _⟩
      | some files =>
          dsimp only
          cases validateSignedTargetFiles files targets response.clientConfigs with
          | error e => exact ⟨rfl, self.leaves_recordTargets targets _⟩
          | ok done =>
              have htargets := self.leaves_recordTargets targets (.ok ())
              rcases (self.recordTargets targets).applyFiles_told codec targets files with
                ⟨hresult, last, hafter, hclient⟩
              refine ⟨hresult, ?_⟩
              rw [hclient]
              refine ⟨hafter.rootVersion.trans htargets.rootVersion,
                hafter.targetsVersion.trans htargets.targetsVersion,
                hafter.backendClientState.trans htargets.backendClientState, ?_, ?_, ?_⟩
              · -- the first report replaces the states of the last response
                have hstates := hafter.configStates
                simp only [fileLoop, configStates_recordTargets, Bool.false_eq_true, if_false,
                  List.nil_append] at hstates
                simp only [hstates, Told.configStates, List.isEmpty_iff]
                split_ifs with hempty
                · rfl
                · rfl
              · simp only [cachedTargetFiles_recordTargets]
                split_ifs with htaken
                · rfl
                · rfl
              · simpa only [fileLoop, config_recordTargets] using hafter.config

end RemoteConfigClient

/-! ## What a history tells -/

/-- How a poll ended. -/
def pollResult : WorkerEvent × WorkerOutput → Option (Except Str Unit)
  | (_, .polled result) => some result
  | _ => none

/-- What the response in an answer told, if there was one. -/
def toldBy (codec : AgentCodec) : WorkerEvent × WorkerOutput → Option Told
  | (.answer answer, _) =>
      match readAnswer codec answer with
      | .error _ => none
      | .ok response => some (told codec.toCodec response)
  | _ => none

/-- What was told last, of those responses that told anything about it. -/
def lastTold {α : Type*} (codec : AgentCodec) (field : Told → Option α) (l : PollHistory) : Option α :=
  lastSome (fun x => (toldBy codec x).bind field) l

/-- The state that a history leaves: each field has its own last poll. -/
def reportedState (codec : AgentCodec) (l : PollHistory) : ClientState :=
  { rootVersion := 1
    targetsVersion := (lastTold codec Told.version l).getD 0
    configStates := (lastTold codec Told.configStates l).getD []
    hasError :=
      match lastSome pollResult l with
      | some (.error _) => true
      | _ => false
    error :=
      match lastSome pollResult l with
      | some (.error e) => some e
      | _ => none
    backendClientState := lastTold codec Told.backendState l }

def reportedFiles (codec : AgentCodec) (l : PollHistory) : List CachedTargetFile :=
  (lastTold codec Told.cache l).getD []

/-- All readings that were applied, in order. -/
def appliedReadings (codec : AgentCodec) (l : PollHistory) : List Reading :=
  l.flatMap fun x => ((toldBy codec x).map Told.applied).getD []

/-- The client is as the history says. -/
structure Follows (codec : AgentCodec) (config : SamplingRules) (l : PollHistory)
    (client : RemoteConfigClient) : Prop where
  state : client.state = reportedState codec l
  cachedTargetFiles : client.cachedTargetFiles = reportedFiles codec l
  config : config.OverriddenTo client.config
    (overrideAfter config.traceSamplingRules.overrideValue (appliedReadings codec l))

section History

variable {codec : AgentCodec} {config : SamplingRules} {l : PollHistory}
variable {x : WorkerEvent × WorkerOutput} {client next : RemoteConfigClient}

theorem lastTold_snoc {α : Type*} (field : Told → Option α) :
    lastTold codec field (l ++ [x]) = ((toldBy codec x).bind field).or (lastTold codec field l) :=
  lastSome_snoc _ l x

theorem appliedReadings_snoc : appliedReadings codec (l ++ [x]) =
    appliedReadings codec l ++ ((toldBy codec x).map Told.applied).getD [] := by
  simp [appliedReadings]

/-- A response that tells nothing, in the place of none. -/
def Told.silent : Told :=
  { result := .ok (), targets := none, applied := [], cache := none }

theorem Told.leaves_silent (client : RemoteConfigClient) : Told.silent.Leaves client client :=
  client.leaves_recordTargets none (.ok ())

/-- No response tells as much as a silent one. -/
theorem bind_toldBy {α : Type*} {field : Told → Option α} (h : field .silent = none) :
    (toldBy codec x).bind field = field ((toldBy codec x).getD .silent) := by
  cases toldBy codec x with
  | none => exact h.symm
  | some told => rfl

theorem Follows.start : Follows codec config [] (.new config) :=
  ⟨rfl, rfl, .refl config⟩

/-- A poll that ends, with what it told. -/
theorem Follows.snoc {result : Except Str Unit} (h : Follows codec config l client)
    (hleaves : ((toldBy codec x).getD .silent).Leaves client next)
    (hresult : pollResult x = some result) :
    Follows codec config (l ++ [x]) (next.recordResult result) := by
  have hlast : lastSome pollResult (l ++ [x]) = some result := by
    rw [lastSome_snoc, hresult, Option.some_or]
  have hstate := h.state
  constructor
  · have hroot : next.state.rootVersion = 1 := by
      rw [hleaves.rootVersion, hstate]
      rfl
    have hversion : next.state.targetsVersion =
        (lastTold codec Told.version (l ++ [x])).getD 0 := by
      rw [hleaves.targetsVersion, lastTold_snoc, bind_toldBy rfl, Option.getD_or, hstate]
      rfl
    have hbackend : next.state.backendClientState =
        lastTold codec Told.backendState (l ++ [x]) := by
      rw [hleaves.backendClientState, lastTold_snoc, bind_toldBy rfl, hstate]
      rfl
    have hconfigs : next.state.configStates =
        (lastTold codec Told.configStates (l ++ [x])).getD [] := by
      rw [hleaves.configStates, lastTold_snoc, bind_toldBy rfl, Option.getD_or, hstate]
      rfl
    -- the result replaces the error of the poll before
    cases result with
    | ok done =>
        simp only [RemoteConfigClient.recordResult, reportedState, hlast, ← hroot, ← hversion,
          ← hbackend, ← hconfigs]
    | error e =>
        simp only [RemoteConfigClient.recordResult, reportedState, hlast, ← hroot, ← hversion,
          ← hbackend, ← hconfigs]
  · have hfiles : next.cachedTargetFiles = reportedFiles codec (l ++ [x]) := by
      rw [hleaves.cachedTargetFiles, reportedFiles, lastTold_snoc, bind_toldBy rfl, Option.getD_or,
        h.cachedTargetFiles]
      rfl
    cases result with
    | ok done => exact hfiles
    | error e => exact hfiles
  · have hconfig : config.OverriddenTo next.config
        (overrideAfter config.traceSamplingRules.overrideValue
          (appliedReadings codec (l ++ [x]))) := by
      have happlied : ((toldBy codec x).map Told.applied).getD [] =
          ((toldBy codec x).getD .silent).applied := by
        cases toldBy codec x with
        | none => rfl
        | some told => rfl
      refine ⟨?_, hleaves.config.configItem.trans h.config.configItem⟩
      rw [hleaves.config.overrideValue, h.config.overrideValue, appliedReadings_snoc, happlied]
      simp only [overrideAfter, List.foldl_append]
    cases result with
    | ok done => exact hconfig
    | error e => exact hconfig

/-- A step that ends no poll. -/
theorem Follows.skip (h : Follows codec config l client) (htold : toldBy codec x = none)
    (hresult : pollResult x = none) : Follows codec config (l ++ [x]) client := by
  have hlast : lastSome pollResult (l ++ [x]) = lastSome pollResult l := by
    rw [lastSome_snoc, hresult, Option.none_or]
  have hsame : ∀ {α : Type} (field : Told → Option α),
      lastTold codec field (l ++ [x]) = lastTold codec field l := by
    intro α field
    rw [lastTold_snoc, htold, Option.bind_none, Option.none_or]
  constructor
  · rw [h.state]
    simp only [reportedState, hlast, hsame]
  · rw [h.cachedTargetFiles]
    simp only [reportedFiles, hsame]
  · have hnone : appliedReadings codec (l ++ [x]) = appliedReadings codec l := by
      rw [appliedReadings_snoc, htold]
      exact List.append_nil _
    rw [hnone]
    exact h.config

end History

/-! ## Runs -/

/-- How a poll with this answer ends. -/
def answerResult (codec : AgentCodec) (answer : Except Str HttpResponse) : Except Str Unit :=
  match readAnswer codec answer with
  | .error e => .error e
  | .ok response => (told codec.toCodec response).result

theorem RemoteConfigClient.applyAnswer_told (codec : AgentCodec) (self : RemoteConfigClient)
    (answer : Except Str HttpResponse) (output : WorkerOutput) :
    (self.applyAnswer codec answer).1 = answerResult codec answer ∧
      ((toldBy codec (.answer answer, output)).getD .silent).Leaves self
        (self.applyAnswer codec answer).2 := by
  unfold applyAnswer answerResult toldBy
  cases hread : readAnswer codec answer with
  | error e => exact ⟨rfl, by simpa [hread] using Told.leaves_silent self⟩
  | ok response =>
      have htold := self.processResponse_told codec.toCodec response
      exact ⟨htold.1, by simpa [hread] using htold.2⟩

namespace RemoteConfigClientWorker

variable {codec : AgentCodec} {agentUrl : Str} {worker next : RemoteConfigClientWorker}
variable {event : WorkerEvent} {output : WorkerOutput}

/-- What the worker does: a request is sent, or fails before that; an answer is processed; or it
stops. -/
theorem machine_cases (h : machine codec agentUrl worker event = some (next, output)) :
    (∃ settings req, event = .poll settings ∧
      output = .sent (worker.client.buildRequest codec.encodeBase64 settings) req ∧
      next.client = worker.client) ∨
    (∃ settings e, event = .poll settings ∧ output = .polled (.error e) ∧
      next.client = worker.client.recordResult (.error e)) ∨
    (∃ answer, event = .answer answer ∧
      output = .polled (worker.client.applyAnswer codec answer).1 ∧
      next.client = (worker.client.applyAnswer codec answer).2.recordResult
        (worker.client.applyAnswer codec answer).1) ∨
    (event = .cancel ∧ output = .stopped ∧ next.client = worker.client) := by
  unfold machine at h
  split at h
  · rename_i settings hphase
    cases hreq : worker.client.httpRequest codec agentUrl settings with
    | error e =>
        simp only [hreq, Option.some.injEq, Prod.mk.injEq] at h
        rcases h with ⟨rfl, rfl⟩
        exact .inr (.inl ⟨settings, e, rfl, rfl, rfl⟩)
    | ok req =>
        simp only [hreq, Option.some.injEq, Prod.mk.injEq] at h
        rcases h with ⟨rfl, rfl⟩
        exact .inl ⟨settings, req, rfl, rfl, rfl⟩
  · rename_i answer hphase
    simp only [Option.some.injEq, Prod.mk.injEq] at h
    rcases h with ⟨rfl, rfl⟩
    exact .inr (.inr (.inl ⟨answer, rfl, rfl, rfl⟩))
  · cases h
    exact .inr (.inr (.inr ⟨rfl, rfl, rfl⟩))
  · cases h
    exact .inr (.inr (.inr ⟨rfl, rfl, rfl⟩))
  · cases h

/-- A request is the state and the cache that the history says. -/
def SaysHistory (codec : AgentCodec) (first : PollHistory) : WorkerEvent × WorkerOutput → Prop
  | (_, .sent payload _) =>
      payload.client.state = some (reportedState codec first) ∧
        payload.cachedTargetFiles = reportedFiles codec first
  | (.answer answer, .polled result) => result = answerResult codec answer
  | _ => True

variable {config : SamplingRules} {l : PollHistory}

/-- A step follows the history, and says it. -/
theorem follows_step (hfollows : Follows codec config l worker.client)
    (hstep : machine codec agentUrl worker event = some (next, output)) :
    Follows codec config (l ++ [(event, output)]) next.client ∧
      SaysHistory codec l (event, output) := by
  rcases machine_cases hstep with ⟨settings, req, rfl, rfl, hclient⟩ |
    ⟨settings, e, rfl, rfl, hclient⟩ | ⟨answer, rfl, rfl, hclient⟩ | ⟨rfl, rfl, hclient⟩
  · rw [hclient]
    refine ⟨hfollows.skip rfl rfl, ?_, ?_⟩
    · exact congrArg some hfollows.state
    · exact hfollows.cachedTargetFiles
  · rw [hclient]
    exact ⟨hfollows.snoc (Told.leaves_silent worker.client) rfl, trivial⟩
  · rw [hclient]
    rcases worker.client.applyAnswer_told codec answer
      (.polled (worker.client.applyAnswer codec answer).1) with ⟨hresult, hleaves⟩
    exact ⟨hfollows.snoc hleaves rfl, hresult⟩
  · rw [hclient]
    exact ⟨hfollows.skip rfl rfl, trivial⟩

/-- Every run follows its history. -/
theorem follows_run (h : Machine.Run (machine codec agentUrl) (.start config) l worker) :
    Follows codec config l worker.client ∧ AtEach (SaysHistory codec) l := by
  refine h.invariant
    (I := fun l worker => Follows codec config l worker.client ∧ AtEach (SaysHistory codec) l)
    ⟨.start, atEach_nil⟩ ?_
  rintro l worker next event output - ⟨hfollows, htold⟩ hstep
  rcases follows_step hfollows hstep with ⟨hfollows', htold'⟩
  exact ⟨hfollows', atEach_snoc.2 ⟨htold, htold'⟩⟩

/-- In every run each request reports, field by field, what the last poll before it told that told
anything about it, and how the last poll ended; how a poll ends depends on its answer alone; and the
rules in effect are those that the applied files of all responses leave, in order, else the local
ones. -/
theorem requests_report (h : Machine.Run (machine codec agentUrl) (.start config) l worker) :
    AtEach (SaysHistory codec) l ∧
      worker.client.config.value =
        (overrideAfter config.traceSamplingRules.overrideValue (appliedReadings codec l)).getD
          config.traceSamplingRules.configItem.value := by
  rcases follows_run h with ⟨hfollows, htold⟩
  refine ⟨htold, ?_⟩
  simp only [SamplingRules.value, ConfigItemWithOverride.value, hfollows.config.overrideValue,
    hfollows.config.configItem]

/-- An agent whose answer is a response with a file that nothing announces. -/
def exampleAgent : AgentCodec :=
  { RemoteConfigClient.exampleCodec with
    encodeBase64 := fun _ => "IAAAAA==".toList
    requestToString := fun _ => .ok "\x7b\x7d".toList
    buildHttpRequest := fun req => .ok req
    parseResponse := fun _ => .ok RemoteConfigClient.exampleResponse }

def exampleConfig : SamplingRules :=
  .new { defaultValue := [], envValue := none, codeValue := none }

def exampleAnswer : Except Str HttpResponse :=
  .ok { status := ⟨200, "200 OK".toList⟩, body := .ok [] }

def refusedError : Str :=
  "target file ".toList ++ "datadog/2/APM_TRACING/a/config".toList ++
    " not exists in client_config and signed targets".toList

/-- The worker with targets of a version, and an error. -/
def refusedWorker (targetsVersion : UInt64) (error : Option Str) (phase : WorkerPhase) :
    RemoteConfigClientWorker :=
  { client :=
      { RemoteConfigClient.exampleClient targetsVersion with
        state :=
          { (RemoteConfigClient.exampleClient targetsVersion).state with
            hasError := error.isSome
            error := error } }
    phase := phase }

def exampleRequest : HttpRequest :=
  { method := "POST".toList
    uri := "http://localhost:8126/v0.7/config".toList
    headers :=
      [("content-type".toList, "application/json".toList),
        ("user-agent".toList, "dd-trace-rs".toList)]
    body := "\x7b\x7d".toList }

def examplePoll (worker : RemoteConfigClientWorker) : WorkerEvent × WorkerOutput :=
  (.poll RemoteConfigClient.exampleSettings,
    .sent (worker.client.buildRequest exampleAgent.encodeBase64 RemoteConfigClient.exampleSettings)
      exampleRequest)

theorem poll_example (targetsVersion : UInt64) (error : Option Str) :
    machine exampleAgent exampleRequest.uri (refusedWorker targetsVersion error .sleeping)
        (examplePoll (refusedWorker targetsVersion error .sleeping)).1 =
      some (refusedWorker targetsVersion error .fetching,
        (examplePoll (refusedWorker targetsVersion error .sleeping)).2) :=
  rfl

/-- The response is refused, and its version reported all the same. -/
theorem answer_example (targetsVersion : UInt64) (error : Option Str) :
    machine exampleAgent exampleRequest.uri (refusedWorker targetsVersion error .fetching)
        (.answer exampleAnswer) =
      some (refusedWorker 5 (some refusedError) .sleeping, .polled (.error refusedError)) := by
  have hanswer : readAnswer exampleAgent exampleAnswer = .ok RemoteConfigClient.exampleResponse := rfl
  have hbase64 : exampleAgent.decodeBase64 RemoteConfigClient.exampleTargetsBase64.toList =
      .ok RemoteConfigClient.exampleTargetsJson.toUTF8.data.toList := by
    simp only [exampleAgent, RemoteConfigClient.exampleCodec, if_true]
  have hparse : exampleAgent.parseTargets RemoteConfigClient.exampleTargetsJson.toList =
      .ok RemoteConfigClient.exampleTargets := by
    simp only [exampleAgent, RemoteConfigClient.exampleCodec, if_true]
  have hdecode : decodeTargets exampleAgent.toCodec RemoteConfigClient.exampleResponse.targets =
      .ok (some RemoteConfigClient.exampleTargets) :=
    RemoteConfigClient.decodeTargets_of_text hbase64 hparse
  have hfiles : RemoteConfigClient.exampleResponse.targetFiles =
      some [⟨"datadog/2/APM_TRACING/a/config".toList, []⟩] := rfl
  simp only [machine, refusedWorker, RemoteConfigClient.applyAnswer, hanswer,
    RemoteConfigClient.processResponse, hdecode, hfiles]
  rfl

/-- The history up to the first answer. -/
def refusedHistory : PollHistory :=
  [examplePoll (refusedWorker 0 none .sleeping),
    (.answer exampleAnswer, .polled (.error refusedError))]

theorem run_refused : Machine.Run (machine exampleAgent exampleRequest.uri) (.start exampleConfig)
    refusedHistory (refusedWorker 5 (some refusedError) .sleeping) :=
  (Machine.Run.start.step (poll_example 0 none)).step (answer_example 0 none)

/-- The next request reports the version and the error. -/
theorem requests_report_refused :
    AtEach (SaysHistory exampleAgent)
        (refusedHistory ++ [examplePoll (refusedWorker 5 (some refusedError) .sleeping)]) ∧
      (refusedWorker 5 (some refusedError) .fetching).client.config.value =
        (overrideAfter exampleConfig.traceSamplingRules.overrideValue
          (appliedReadings exampleAgent
            (refusedHistory ++
              [examplePoll (refusedWorker 5 (some refusedError) .sleeping)]))).getD
          exampleConfig.traceSamplingRules.configItem.value :=
  requests_report (run_refused.step (poll_example 5 (some refusedError)))

end RemoteConfigClientWorker

/-! ## The same answer again -/

theorem overrideAfter_cons (override : Option (List SamplingRuleConfig)) (reading : Reading)
    (rest : List Reading) :
    overrideAfter override (reading :: rest) =
      overrideAfter (reading.change.on override) rest :=
  rfl

/-- Readings leave the override alone, or say what it is. -/
theorem overrideAfter_cases (applied : List Reading) :
    (∀ override, overrideAfter override applied = override) ∨
      ∃ rules, ∀ override, overrideAfter override applied = rules := by
  induction applied with
  | nil => exact .inl fun _ => rfl
  | cons reading rest ih =>
      rcases ih with hkeep | ⟨rules, hset⟩
      · -- the rest keeps what the first one leaves
        cases hchange : reading.change with
        | keep =>
            left
            intro override
            rw [overrideAfter_cons, hchange, hkeep]
            rfl
        | clear =>
            refine .inr ⟨none, fun override => ?_⟩
            rw [overrideAfter_cons, hchange, hkeep]
            rfl
        | set rules =>
            refine .inr ⟨some rules, fun override => ?_⟩
            rw [overrideAfter_cons, hchange, hkeep]
            rfl
      · exact .inr ⟨rules, fun override => by rw [overrideAfter_cons, hset]⟩

theorem overrideAfter_again (override : Option (List SamplingRuleConfig)) (applied : List Reading) :
    overrideAfter (overrideAfter override applied) applied = overrideAfter override applied := by
  rcases overrideAfter_cases applied with hkeep | ⟨rules, hset⟩
  · exact hkeep _
  · rw [hset, hset]

section Again

variable {codec : AgentCodec} {x y : WorkerEvent × WorkerOutput} {l gap : PollHistory}

theorem lastTold_append_silent {α : Type*} {field : Told → Option α}
    (hgap : ∀ z ∈ gap, toldBy codec z = none) :
    lastTold codec field (l ++ gap) = lastTold codec field l := by
  have hnone : gap.filterMap (fun z => (toldBy codec z).bind field) = [] := by
    rw [List.filterMap_eq_nil_iff]
    intro z hz
    rw [hgap z hz, Option.bind_none]
  unfold lastTold lastSome
  rw [List.filterMap_append, hnone, List.append_nil]

/-- What is told twice was told once. -/
theorem lastTold_again {α : Type*} (field : Told → Option α)
    (hgap : ∀ z ∈ gap, toldBy codec z = none) (hsame : toldBy codec y = toldBy codec x) :
    lastTold codec field (l ++ [x] ++ gap ++ [y]) = lastTold codec field (l ++ [x]) := by
  rw [lastTold_snoc, lastTold_append_silent hgap, lastTold_snoc, hsame]
  cases (toldBy codec x).bind field with
  | none => rfl
  | some value => rfl

theorem appliedReadings_again (override : Option (List SamplingRuleConfig))
    (hgap : ∀ z ∈ gap, toldBy codec z = none) (hsame : toldBy codec y = toldBy codec x) :
    overrideAfter override (appliedReadings codec (l ++ [x] ++ gap ++ [y])) =
      overrideAfter override (appliedReadings codec (l ++ [x])) := by
  have hnone : gap.flatMap (fun z => ((toldBy codec z).map Told.applied).getD []) = [] := by
    rw [List.flatMap_eq_nil_iff]
    intro z hz
    rw [hgap z hz]
    rfl
  have hmiddle : appliedReadings codec (l ++ [x] ++ gap) = appliedReadings codec (l ++ [x]) := by
    unfold appliedReadings
    rw [List.flatMap_append, hnone, List.append_nil]
  rw [appliedReadings_snoc, hmiddle, hsame, appliedReadings_snoc]
  simp only [overrideAfter, List.foldl_append]
  exact overrideAfter_again _ _

end Again

namespace RemoteConfigClientWorker

variable {codec : AgentCodec} {agentUrl : Str} {config : SamplingRules}

/-- An answer that comes again, with nothing since but requests and answers without a readable response,
leaves the client as it was after the first time: its state, the cache and the rules. -/
theorem answered_again {l gap : PollHistory} {answer : Except Str HttpResponse}
    {output output' : WorkerOutput} {worker worker' : RemoteConfigClientWorker}
    (h : Machine.Run (machine codec agentUrl) (.start config) (l ++ [(.answer answer, output)]) worker)
    (h' : Machine.Run (machine codec agentUrl) worker (gap ++ [(.answer answer, output')]) worker')
    (hgap : ∀ x ∈ gap, toldBy codec x = none) :
    worker'.client.state = worker.client.state ∧
      worker'.client.cachedTargetFiles = worker.client.cachedTargetFiles ∧
      worker'.client.config.value = worker.client.config.value := by
  have hlong := h.append h'
  rw [← List.append_assoc] at hlong
  rcases follows_run h with ⟨hfollows, htold⟩
  rcases follows_run hlong with ⟨hfollows', htold'⟩
  have hsame : toldBy codec (.answer answer, output') = toldBy codec (.answer answer, output) := rfl
  -- both polls ended in the same way
  have hresult : ∀ {first : PollHistory} {o : WorkerOutput} {w : RemoteConfigClientWorker},
      Machine.Run (machine codec agentUrl) (.start config) (first ++ [(.answer answer, o)]) w →
        lastSome pollResult (first ++ [(.answer answer, o)]) = some (answerResult codec answer) := by
    intro first o w hrun
    rcases Machine.Run.snoc_iff.1 hrun with ⟨w', -, hstep⟩
    rw [lastSome_snoc]
    rcases machine_cases hstep with ⟨_, _, hevent, -⟩ | ⟨_, _, hevent, -⟩ |
      ⟨answer', hevent, rfl, -⟩ | ⟨hevent, -⟩
    · cases hevent
    · cases hevent
    · cases hevent
      simp only [pollResult, (w'.client.applyAnswer_told codec answer .stopped).1, Option.some_or]
    · cases hevent
  refine ⟨?_, ?_, ?_⟩
  · rw [hfollows'.state, hfollows.state]
    simp only [reportedState, lastTold_again _ hgap hsame, hresult h, hresult hlong]
  · rw [hfollows'.cachedTargetFiles, hfollows.cachedTargetFiles]
    simp only [reportedFiles, lastTold_again _ hgap hsame]
  · simp only [SamplingRules.value, ConfigItemWithOverride.value, hfollows.config.overrideValue,
      hfollows'.config.overrideValue, hfollows.config.configItem, hfollows'.config.configItem,
      appliedReadings_again _ hgap hsame]

/-- An answer with an error status. -/
def unavailable : Except Str HttpResponse :=
  .ok { status := ⟨503, "503 Service Unavailable".toList⟩, body := .ok [] }

def unavailableError : Str :=
  "Agent returned error status: ".toList ++ "503 Service Unavailable".toList

/-- A poll while the agent is not available, and the next one up to its answer. -/
def unavailableHistory : PollHistory :=
  [examplePoll (refusedWorker 5 (some refusedError) .sleeping),
    (.answer unavailable, .polled (.error unavailableError)),
    examplePoll (refusedWorker 5 (some unavailableError) .sleeping)]

theorem run_unavailable :
    Machine.Run (machine exampleAgent exampleRequest.uri)
      (refusedWorker 5 (some refusedError) .sleeping) unavailableHistory
      (refusedWorker 5 (some unavailableError) .fetching) := by
  have hunavailable : machine exampleAgent exampleRequest.uri
      (refusedWorker 5 (some refusedError) .fetching) (.answer unavailable) =
        some (refusedWorker 5 (some unavailableError) .sleeping,
          .polled (.error unavailableError)) := rfl
  exact ((Machine.Run.start.step (poll_example 5 (some refusedError))).step hunavailable).step
    (poll_example 5 (some unavailableError))

/-- The agent is not available once, and then answers as before. -/
theorem answered_again_refused :
    ∃ worker', Machine.Run (machine exampleAgent exampleRequest.uri)
        (refusedWorker 5 (some refusedError) .sleeping)
        (unavailableHistory ++ [(.answer exampleAnswer, .polled (.error refusedError))]) worker' ∧
      worker'.client.state = (refusedWorker 5 (some refusedError) .sleeping).client.state ∧
      worker'.client.cachedTargetFiles =
        (refusedWorker 5 (some refusedError) .sleeping).client.cachedTargetFiles ∧
      worker'.client.config.value =
        (refusedWorker 5 (some refusedError) .sleeping).client.config.value := by
  have hlast := run_unavailable.step (answer_example 5 (some unavailableError))
  refine ⟨_, hlast, @answered_again exampleAgent exampleRequest.uri exampleConfig
    [examplePoll (refusedWorker 0 none .sleeping)] unavailableHistory exampleAnswer _ _ _ _
    run_refused hlast ?_⟩
  intro x hx
  simp only [unavailableHistory, List.mem_cons, List.not_mem_nil, or_false] at hx
  rcases hx with rfl | rfl | rfl
  · rfl
  · rfl
  · rfl

end RemoteConfigClientWorker

end Core
end DdTrace
