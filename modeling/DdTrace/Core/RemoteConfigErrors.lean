import DdTrace.Core.RemoteConfig

/-!
# RemoteConfigErrors — what a failed response leaves behind

A response that fails should leave the client as it was.  The version of the targets is recorded
before the files are validated, though, and the files before the one that fails are applied.  This
module reads each file without applying it (`readFile`), shows that the loop does to the client what
the readings say (`processFiles_spec`), and derives when a failed response leaves no trace
(`preserved_iff_harmless`).
-/

namespace DdTrace
namespace Core

open Lib

/-! ## Reading a file -/

/-- What the content of a file asks for: nothing, the local rules, or these rules. -/
inductive RuleChange
  | keep
  | clear
  | set (rules : List SamplingRuleConfig)

/-- The override after a change. -/
def RuleChange.on (change : RuleChange) (override : Option (List SamplingRuleConfig)) :
    Option (List SamplingRuleConfig) :=
  match change with
  | .keep => override
  | .clear => none
  | .set rules => some rules

/-- The change that a JSON value of rules asks for; a value that is refused asks for nothing. -/
def readRules (codec : Codec) (rulesJson : Str) : RuleChange :=
  match codec.parseRules rulesJson with
  | .error _ => .keep
  | .ok rules => if rules.isEmpty then .clear else .set rules

/-- The change that a configuration asks for. -/
def readConfig (codec : Codec) (configJson : Str) : Except Str RuleChange :=
  match withContext "Failed to parse APM tracing config: " (codec.parseApmTracing configJson) with
  | .error e => .error e
  | .ok tracingConfig =>
      match tracingConfig.libConfig.tracingSamplingRules with
      | none => .ok .keep
      | some rulesValue =>
          if rulesValue.isNull then .ok .clear
          else
            (withContext "Failed to serialize sampling rules: "
              (codec.rulesToString rulesValue)).map (readRules codec)

/-- What a file reports, and the change that it asks for. -/
structure Reading where
  state : ConfigState
  change : RuleChange

/-- The reading of a file with a handler; no reading for another file. -/
def readFile (codec : Codec) (targets : Option SignedTargets) (file : TargetFile) :
    Except Str (Option Reading) :=
  match extractProductAndIdFromPath file.path with
  | none => .ok none
  | some (product, configId) =>
      if hasHandler product then
        (FileLoop.decodeFile codec file).map fun configStr =>
          let version := (targets.bind fun targets => targets.metaVersion file.path).getD 1
          -- a file that is refused is reported all the same
          match readConfig codec configStr with
          | .ok change =>
              some
                { state := ⟨configId, version, product, 2, none⟩
                  change := change }
          | .error e =>
              some
                { state := ⟨configId, version, product, 3, some e⟩
                  change := .keep }
      else .ok none

/-- The readings of the files before the first one that cannot be decoded. -/
def readings (codec : Codec) (targets : Option SignedTargets) : List TargetFile → List Reading
  | [] => []
  | file :: files =>
      match readFile codec targets file with
      | .error _ => []
      | .ok none => readings codec targets files
      | .ok (some reading) => reading :: readings codec targets files

/-- The override after the changes of some readings, in order. -/
def overrideAfter (override : Option (List SamplingRuleConfig)) (applied : List Reading) :
    Option (List SamplingRuleConfig) :=
  applied.foldl (fun override reading => reading.change.on override) override

/-! ## The loop does what the readings say -/

namespace SamplingRules

/-- Two configurations agree up to the override, which is `override` in the second one. -/
structure OverriddenTo (before after : SamplingRules)
    (override : Option (List SamplingRuleConfig)) : Prop where
  overrideValue : after.traceSamplingRules.overrideValue = override
  configItem : after.traceSamplingRules.configItem = before.traceSamplingRules.configItem

theorem OverriddenTo.refl (rules : SamplingRules) :
    OverriddenTo rules rules rules.traceSamplingRules.overrideValue :=
  ⟨rfl, rfl⟩

theorem overriddenTo_update (codec : Codec) (self : SamplingRules) (rulesJson : Str)
    (configId : Option Str) :
    OverriddenTo self (self.updateSamplingRulesFromRemote codec.parseRules rulesJson configId).2
      ((readRules codec rulesJson).on self.traceSamplingRules.overrideValue) := by
  unfold readRules
  cases hparse : codec.parseRules rulesJson with
  | error e =>
      rw [self.updateSamplingRulesFromRemote_of_error configId hparse]
      exact .refl self
  | ok rules =>
      cases rules with
      | nil =>
          rw [self.updateSamplingRulesFromRemote_of_nil configId hparse]
          exact ⟨rfl, rfl⟩
      | cons rule rest =>
          rcases self.updateSamplingRulesFromRemote_of_ne_nil configId hparse
            (List.cons_ne_nil rule rest) with ⟨-, hitem, -⟩
          constructor
          · rw [hitem]
            rfl
          · rw [hitem]

end SamplingRules

namespace ApmTracingHandler

/-- A configuration is refused exactly if it cannot be read, and else changes the rules as asked. -/
theorem processConfig_spec (codec : Codec) (configJson : Str) (config : SamplingRules) :
    (∃ e config', readConfig codec configJson = .error e ∧
      processConfig codec configJson config = (.error e, config') ∧
      config.OverriddenTo config' config.traceSamplingRules.overrideValue) ∨
    (∃ change config', readConfig codec configJson = .ok change ∧
      processConfig codec configJson config = (.ok (), config') ∧
      config.OverriddenTo config' (change.on config.traceSamplingRules.overrideValue)) := by
  unfold readConfig processConfig
  cases withContext "Failed to parse APM tracing config: " (codec.parseApmTracing configJson) with
  | error e => exact .inl ⟨e, config, rfl, rfl, .refl config⟩
  | ok tracingConfig =>
      -- no rules, rules that are null, rules
      cases hrules : tracingConfig.libConfig.tracingSamplingRules with
      | none => exact .inr ⟨.keep, config, by simp [hrules], by simp [hrules], .refl config⟩
      | some rulesValue =>
          cases hnull : rulesValue.isNull with
          | true =>
              refine .inr ⟨.clear, _, by simp [hrules, hnull], by simp [hrules, hnull]; rfl, ?_⟩
              exact ⟨rfl, rfl⟩
          | false =>
              cases htext : withContext "Failed to serialize sampling rules: "
                  (codec.rulesToString rulesValue) with
              | error e =>
                  exact .inl ⟨e, config, by simp [hrules, hnull, htext, Except.map],
                    by simp [hrules, hnull, htext], .refl config⟩
              | ok rulesJson =>
                  exact .inr ⟨readRules codec rulesJson, _,
                    by simp [hrules, hnull, htext, Except.map],
                    by simp [hrules, hnull, htext]; rfl,
                    SamplingRules.overriddenTo_update codec config rulesJson _⟩

end ApmTracingHandler

namespace FileLoop

/-- The loop after some readings: the states are replaced by the first report, and the changes are
made in order. -/
structure After (before : FileLoop) (applied : List Reading) (after : FileLoop) : Prop where
  rootVersion : after.state.rootVersion = before.state.rootVersion
  targetsVersion : after.state.targetsVersion = before.state.targetsVersion
  backendClientState : after.state.backendClientState = before.state.backendClientState
  configStates : after.state.configStates =
    if applied = [] then before.state.configStates
    else (if before.configStatesCleared then before.state.configStates else []) ++
      applied.map Reading.state
  configStatesCleared : after.configStatesCleared =
    (before.configStatesCleared || !applied.isEmpty)
  config : before.config.OverriddenTo after.config
    (overrideAfter before.config.traceSamplingRules.overrideValue applied)

theorem After.refl (p : FileLoop) : After p [] p := by
  refine ⟨rfl, rfl, rfl, by simp, by simp, .refl p.config⟩

theorem After.cons {p q r : FileLoop} {reading : Reading} {rest : List Reading}
    (h : After p [reading] q) (h' : After q rest r) : After p (reading :: rest) r := by
  refine ⟨h'.rootVersion.trans h.rootVersion, h'.targetsVersion.trans h.targetsVersion,
    h'.backendClientState.trans h.backendClientState, ?_, ?_, ?_, ?_⟩
  · -- the old states are cleared by the first report, so the rest only appends
    have hcleared := h.configStatesCleared
    have hstates := h.configStates
    simp only [List.isEmpty_cons, Bool.not_false, Bool.or_true] at hcleared
    rw [h'.configStates, hcleared, hstates]
    by_cases hrest : rest = []
    · simp [hrest]
    · simp [hrest]
  · have hcleared := h.configStatesCleared
    simpa [hcleared] using h'.configStatesCleared
  · rw [h'.config.overrideValue, h.config.overrideValue]
    rfl
  · exact h'.config.configItem.trans h.config.configItem

/-- One pass: the file cannot be decoded, is skipped, or is applied as read. -/
theorem processFile_spec (codec : Codec) (targets : Option SignedTargets) (p : FileLoop)
    (file : TargetFile) :
    (∃ e, readFile codec targets file = .error e ∧ p.processFile codec targets file = .error e) ∨
    (readFile codec targets file = .ok none ∧ p.processFile codec targets file = .ok p) ∨
    (∃ reading q, readFile codec targets file = .ok (some reading) ∧
      p.processFile codec targets file = .ok q ∧ After p [reading] q) := by
  unfold readFile processFile
  cases extractProductAndIdFromPath file.path with
  | none => exact .inr (.inl ⟨rfl, rfl⟩)
  | some ids =>
      rcases ids with ⟨product, configId⟩
      cases hhandler : hasHandler product with
      | false => exact .inr (.inl ⟨by simp [hhandler], by simp [hhandler]⟩)
      | true =>
          cases hdecode : decodeFile codec file with
          | error e =>
              exact .inl ⟨e, by simp [hhandler, Except.map], by simp [hhandler, Except.map]⟩
          | ok configStr =>
              -- the outcome of the handler is reported either way
              right
              right
              rcases ApmTracingHandler.processConfig_spec codec configStr p.config with
                ⟨e, config, hread, hprocess, hconfig⟩ | ⟨change, config, hread, hprocess, hconfig⟩
              · refine ⟨_, _, by simp [hhandler, Except.map, hread]; rfl,
                  by simp [hhandler, Except.map, apply, hprocess]; rfl, ?_⟩
                exact ⟨rfl, rfl, rfl, by simp [report], by simp [report], hconfig⟩
              · refine ⟨_, _, by simp [hhandler, Except.map, hread]; rfl,
                  by simp [hhandler, Except.map, apply, hprocess]; rfl, ?_⟩
                exact ⟨rfl, rfl, rfl, by simp [report], by simp [report], hconfig⟩

/-- The loop leaves what the readings before its end say, whether it fails or not. -/
theorem processFiles_spec (codec : Codec) (targets : Option SignedTargets) (p : FileLoop)
    (files : List TargetFile) :
    After p (readings codec targets files) (p.processFiles codec targets files).2 := by
  -- each pass hands its state to the next one
  induction files generalizing p with
  | nil => exact .refl p
  | cons file files ih =>
      rcases p.processFile_spec codec targets file with
        ⟨e, hread, hprocess⟩ | ⟨hread, hprocess⟩ | ⟨reading, q, hread, hprocess, hafter⟩
      · simpa [processFiles, readings, hread, hprocess] using After.refl p
      · simpa [processFiles, readings, hread, hprocess] using ih p
      · simpa [processFiles, readings, hread, hprocess] using hafter.cons (ih q)

end FileLoop

/-! ## A failed response -/

namespace RemoteConfigClient

/-- The parts of the client that the next request is made of, and the rules in effect. -/
structure Preserved (before after : RemoteConfigClient) : Prop where
  targetsVersion : after.state.targetsVersion = before.state.targetsVersion
  backendClientState : after.state.backendClientState = before.state.backendClientState
  configStates : after.state.configStates = before.state.configStates
  cachedTargetFiles : after.cachedTargetFiles = before.cachedTargetFiles
  rules : after.config.value = before.config.value

/-- The targets tell the client nothing new. -/
def KnownTargets (self : RemoteConfigClient) (targets : Option SignedTargets) : Prop :=
  ∀ t, targets = some t → t.signed.version = self.state.targetsVersion ∧
    ∀ state, t.opaqueBackendState = some state → self.state.backendClientState = some state

/-- No file is applied, or the applied ones report the states that were reported before and end in
the rules that are in effect. -/
def KnownFiles (self : RemoteConfigClient) (applied : List Reading) : Prop :=
  applied = [] ∨
    (applied.map Reading.state = self.state.configStates ∧
      (overrideAfter self.config.traceSamplingRules.overrideValue applied).getD
        self.config.traceSamplingRules.configItem.value = self.config.value)

/-- The targets are absent, cannot be decoded, or tell nothing new; and so do the files that are
applied, if the validation is passed. -/
def Harmless (codec : Codec) (self : RemoteConfigClient) (response : ConfigResponse) : Prop :=
  ∀ targets, decodeTargets codec response.targets = .ok targets →
    self.KnownTargets targets ∧
    ∀ files, response.targetFiles = some files →
      validateSignedTargetFiles files targets response.clientConfigs = .ok () →
        self.KnownFiles (readings codec targets files)

@[simp] theorem config_recordTargets (self : RemoteConfigClient) (targets : Option SignedTargets) :
    (self.recordTargets targets).config = self.config := by
  cases targets with
  | none => rfl
  | some targets => rfl

@[simp] theorem cachedTargetFiles_recordTargets (self : RemoteConfigClient)
    (targets : Option SignedTargets) :
    (self.recordTargets targets).cachedTargetFiles = self.cachedTargetFiles := by
  cases targets with
  | none => rfl
  | some targets => rfl

@[simp] theorem configStates_recordTargets (self : RemoteConfigClient)
    (targets : Option SignedTargets) :
    (self.recordTargets targets).state.configStates = self.state.configStates := by
  cases targets with
  | none => rfl
  | some targets => rfl

theorem knownTargets_iff (self : RemoteConfigClient) (targets : Option SignedTargets) :
    self.KnownTargets targets ↔
      (self.recordTargets targets).state.targetsVersion = self.state.targetsVersion ∧
        (self.recordTargets targets).state.backendClientState = self.state.backendClientState := by
  cases targets with
  | none => simp [KnownTargets, recordTargets]
  | some targets =>
      cases hstate : targets.opaqueBackendState with
      | none => simp [KnownTargets, recordTargets, ClientState.recordTargets, hstate]
      | some state =>
          simp [KnownTargets, recordTargets, ClientState.recordTargets, hstate, eq_comm]

/-- The loop fails with the states and the rules that the readings before the failure say. -/
theorem applyFiles_error {codec : Codec} {self after : RemoteConfigClient}
    {targets : Option SignedTargets} {files : List TargetFile} {e : Str}
    (h : self.applyFiles codec targets files = (.error e, after)) :
    ∃ last : FileLoop, FileLoop.After ⟨self.config, self.state, [], false, false⟩
        (readings codec targets files) last ∧
      after = { self with config := last.config, state := last.state } := by
  refine ⟨_, FileLoop.processFiles_spec codec targets
    ⟨self.config, self.state, [], false, false⟩ files, ?_⟩
  simp only [applyFiles] at h
  split at h
  · cases h
    rfl
  · cases h

/-- What the files leave is what was there exactly if they say nothing new. -/
theorem knownFiles_iff (self : RemoteConfigClient) {applied : List Reading} {state : ClientState}
    {last : FileLoop} (hstates : state.configStates = self.state.configStates)
    (h : FileLoop.After ⟨self.config, state, [], false, false⟩ applied last) :
    self.KnownFiles applied ↔
      last.state.configStates = self.state.configStates ∧
        last.config.value = self.config.value := by
  have hvalue : last.config.value =
      (overrideAfter self.config.traceSamplingRules.overrideValue applied).getD
        self.config.traceSamplingRules.configItem.value := by
    simp [SamplingRules.value, ConfigItemWithOverride.value, h.config.overrideValue,
      h.config.configItem]
  -- without a reading nothing is reported, with one the states are replaced
  have hreports := h.configStates
  by_cases hempty : applied = []
  · subst hempty
    have hsame : last.config.value = self.config.value := hvalue
    simp [KnownFiles, hreports, hstates, hsame]
  · simp [KnownFiles, hempty, hreports, hvalue]

/-- A response that fails leaves the client as it was exactly if it tells the client nothing new up
to the point of failure. -/
theorem preserved_iff_harmless (codec : Codec) {self after : RemoteConfigClient}
    {response : ConfigResponse} {e : Str}
    (h : self.processResponse codec response = (.error e, after)) :
    self.Preserved after ↔ self.Harmless codec response := by
  cases htargets : decodeTargets codec response.targets with
  | error e' =>
      -- the first exit, before any change
      simp only [processResponse, htargets, Prod.mk.injEq] at h
      rcases h with ⟨-, rfl⟩
      refine ⟨fun _ targets hdecode => ?_, fun _ => ⟨rfl, rfl, rfl, rfl, rfl⟩⟩
      rw [htargets] at hdecode
      cases hdecode
  | ok targets =>
      have hknown := self.knownTargets_iff targets
      have hharmless : self.Harmless codec response ↔ self.KnownTargets targets ∧
          ∀ files, response.targetFiles = some files →
            validateSignedTargetFiles files targets response.clientConfigs = .ok () →
              self.KnownFiles (readings codec targets files) := by
        simp [Harmless, htargets]
      cases hfiles : response.targetFiles with
      | none => simp [processResponse, htargets, hfiles] at h
      | some files =>
          cases hvalid : validateSignedTargetFiles files targets response.clientConfigs with
          | error e' =>
              -- the targets are recorded, no file is applied
              simp only [processResponse, htargets, hfiles, hvalid, Prod.mk.injEq] at h
              rcases h with ⟨-, rfl⟩
              rw [hharmless, hknown]
              constructor
              · intro hp
                exact ⟨⟨hp.targetsVersion, hp.backendClientState⟩, by simp [hfiles, hvalid]⟩
              · intro hk
                exact ⟨hk.1.1, hk.1.2, by simp, by simp, by simp⟩
          | ok _ =>
              -- the targets are recorded, and the files before the failure are applied
              simp only [processResponse, htargets, hfiles, hvalid] at h
              rcases applyFiles_error h with ⟨last, hafter, rfl⟩
              rw [config_recordTargets] at hafter
              have hlast := knownFiles_iff self (by simp) hafter
              rw [hharmless, hknown]
              simp only [hfiles, Option.some.injEq, forall_eq', hvalid, true_imp_iff, hlast]
              constructor
              · intro hp
                refine ⟨⟨?_, ?_⟩, hp.configStates, hp.rules⟩
                · exact hafter.targetsVersion.symm.trans hp.targetsVersion
                · exact hafter.backendClientState.symm.trans hp.backendClientState
              · intro hk
                refine ⟨?_, ?_, hk.2.1, by simp, hk.2.2⟩
                · exact hafter.targetsVersion.trans hk.1.1
                · exact hafter.backendClientState.trans hk.1.2

/-- Signed targets of version 5 without any target, as the JSON parser gives them. -/
def exampleTargets : SignedTargets :=
  { signed :=
      { custom := none
        targets := ∅
        version := 5 } }

def exampleTargetsJson : String :=
  "\x7b\"signed\":\x7b\"_type\":\"targets\",\"expires\":\"\",\"spec_version\":\"1.0\"," ++
    "\"targets\":\x7b\x7d,\"version\":5\x7d\x7d"

def exampleTargetsBase64 : String :=
  "eyJzaWduZWQiOnsiX3R5cGUiOiJ0YXJnZXRzIiwiZXhwaXJlcyI6IiIsInNwZWNfdmVyc2lvbiI6IjEuMCIs" ++
    "InRhcmdldHMiOnt9LCJ2ZXJzaW9uIjo1fX0="

/-- What the packages do with these targets. -/
def exampleCodec : Codec :=
  { decodeBase64 := fun s =>
      if s = exampleTargetsBase64.toList then .ok exampleTargetsJson.toUTF8.data.toList
      else .error "Invalid padding".toList
    utf8Error := fun _ => "invalid utf-8 sequence".toList
    parseTargets := fun s =>
      if s = exampleTargetsJson.toList then .ok exampleTargets
      else .error "expected value at line 1 column 1".toList
    parseApmTracing := fun _ => .error "expected value at line 1 column 1".toList
    parseRules := fun _ => .error "expected value at line 1 column 1".toList
    rulesToString := fun _ => .ok "null".toList
    sha256Hex := fun _ => [] }

def exampleClient (targetsVersion : UInt64) : RemoteConfigClient :=
  { config := .new { defaultValue := [], envValue := none, codeValue := none }
    state :=
      { rootVersion := 1
        targetsVersion := targetsVersion
        configStates := []
        hasError := false
        error := none
        backendClientState := none }
    cachedTargetFiles := [] }

/-- A file that neither the targets nor the client configs announce. -/
def exampleResponse : ConfigResponse :=
  { targets := some exampleTargetsBase64.toList
    targetFiles := some [⟨"datadog/2/APM_TRACING/a/config".toList, []⟩]
    clientConfigs := none }

/-- Targets that are the base64 form of a text. -/
theorem decodeTargets_of_text {codec : Codec} {targetsStr : Str} {text : String}
    {targets : SignedTargets}
    (hbase64 : codec.decodeBase64 targetsStr = .ok text.toUTF8.data.toList)
    (hparse : codec.parseTargets text.toList = .ok targets) :
    decodeTargets codec (some targetsStr) = .ok (some targets) := by
  have hutf8 := codec.fromUtf8_toUTF8 text
  simp only [decodeTargets, withContext, Except.mapError, bind, Except.bind, hbase64, hutf8, hparse]

/-- The version is recorded, and then the file is refused. -/
theorem processResponse_example (targetsVersion : UInt64) :
    (exampleClient targetsVersion).processResponse exampleCodec exampleResponse =
      (.error ("target file ".toList ++ "datadog/2/APM_TRACING/a/config".toList ++
        " not exists in client_config and signed targets".toList), exampleClient 5) := by
  have hbase64 : exampleCodec.decodeBase64 exampleTargetsBase64.toList =
      .ok exampleTargetsJson.toUTF8.data.toList := by simp only [exampleCodec, if_true]
  have hparse : exampleCodec.parseTargets exampleTargetsJson.toList = .ok exampleTargets := by
    simp only [exampleCodec, if_true]
  have hdecode : decodeTargets exampleCodec exampleResponse.targets = .ok (some exampleTargets) :=
    decodeTargets_of_text hbase64 hparse
  have hfiles : exampleResponse.targetFiles =
      some [⟨"datadog/2/APM_TRACING/a/config".toList, []⟩] := rfl
  simp only [processResponse, hdecode, hfiles]
  rfl

/-- If the version is the one the client had, nothing changes. -/
theorem preserved_example :
    (exampleClient 5).Preserved (exampleClient 5) ↔
      (exampleClient 5).Harmless exampleCodec exampleResponse :=
  preserved_iff_harmless exampleCodec (processResponse_example 5)

/-- The response is refused, but the client has its version. -/
theorem version_advanced_on_error :
    ∃ e after, (exampleClient 0).processResponse exampleCodec exampleResponse = (.error e, after) ∧
      ¬ (exampleClient 0).Preserved after := by
  refine ⟨_, _, processResponse_example 0, ?_⟩
  intro hpreserved
  exact absurd hpreserved.targetsVersion (by decide)

end RemoteConfigClient

end Core
end DdTrace
