import DdTrace.Core.RemoteConfigErrors

/-!
# ApplyStates — what a file reports, and what it did

A file that is reported with the state 2 should have been applied, one with the state 3 should have
left the rules and the cache alone.  The handler drops one kind of error: rules that are JSON but no
list of rules are refused, and the file is reported as applied (`truthful_iff`).
-/

namespace DdTrace
namespace Core

open Lib

/-! ## What a file asks for -/

/-- The rules of a document were applied: they are the override now, with the id of the document, or
the override was taken back, or the document has no rules and nothing was done. -/
inductive Applied (codec : Codec) (configJson : Str) (before after : SamplingRules) : Prop
  | set (tracingConfig : ApmTracingConfig) (rulesValue : JsonValue) (rulesJson : Str)
      (rules : List SamplingRuleConfig)
      (document : codec.parseApmTracing configJson = .ok tracingConfig)
      (field : tracingConfig.libConfig.tracingSamplingRules = some rulesValue)
      (text : codec.rulesToString rulesValue = .ok rulesJson)
      (parsed : codec.parseRules rulesJson = .ok rules) (nonempty : rules ≠ [])
      (item : after.traceSamplingRules =
        { before.traceSamplingRules with
          overrideValue := some rules, configId := some tracingConfig.id })
  | clear (tracingConfig : ApmTracingConfig) (rulesValue : JsonValue)
      (document : codec.parseApmTracing configJson = .ok tracingConfig)
      (field : tracingConfig.libConfig.tracingSamplingRules = some rulesValue)
      (empty : rulesValue.isNull = true ∨
        ∃ rulesJson, codec.rulesToString rulesValue = .ok rulesJson ∧
          codec.parseRules rulesJson = .ok [])
      (item : after.traceSamplingRules =
        { before.traceSamplingRules with
          overrideValue := none, configId := some tracingConfig.id })
  | keep (tracingConfig : ApmTracingConfig)
      (document : codec.parseApmTracing configJson = .ok tracingConfig)
      (field : tracingConfig.libConfig.tracingSamplingRules = none)
      (item : after.traceSamplingRules = before.traceSamplingRules)

/-- The document is read, and it has rules that are none: not `null`, and no list of rules. -/
def RulesRefused (codec : Codec) (configJson : Str) : Prop :=
  ∃ tracingConfig rulesValue rulesJson e,
    codec.parseApmTracing configJson = .ok tracingConfig ∧
    tracingConfig.libConfig.tracingSamplingRules = some rulesValue ∧
    rulesValue.isNull = false ∧
    codec.rulesToString rulesValue = .ok rulesJson ∧
    codec.parseRules rulesJson = .error e

namespace Applied

variable {codec : Codec} {configJson : Str} {before after : SamplingRules}

/-- What is applied was read. -/
theorem exists_document (h : Applied codec configJson before after) :
    ∃ tracingConfig, codec.parseApmTracing configJson = .ok tracingConfig := by
  cases h with
  | set tracingConfig _ _ _ document _ _ _ _ _ => exact ⟨tracingConfig, document⟩
  | clear tracingConfig _ document _ _ _ => exact ⟨tracingConfig, document⟩
  | keep tracingConfig document _ _ => exact ⟨tracingConfig, document⟩

/-- Rules that are applied and not `null` are a list of rules. -/
theorem exists_rules (h : Applied codec configJson before after) {tracingConfig : ApmTracingConfig}
    {rulesValue : JsonValue} (hdocument : codec.parseApmTracing configJson = .ok tracingConfig)
    (hfield : tracingConfig.libConfig.tracingSamplingRules = some rulesValue)
    (hnull : rulesValue.isNull = false) :
    ∃ rulesJson rules, codec.rulesToString rulesValue = .ok rulesJson ∧
      codec.parseRules rulesJson = .ok rules := by
  cases h with
  | set _ _ rulesJson rules document field text parsed _ _ =>
      cases hdocument.symm.trans document
      cases hfield.symm.trans field
      exact ⟨rulesJson, rules, text, parsed⟩
  | clear _ _ document field empty _ =>
      cases hdocument.symm.trans document
      cases hfield.symm.trans field
      rcases empty with hnull' | ⟨rulesJson, text, parsed⟩
      · cases hnull.symm.trans hnull'
      · exact ⟨rulesJson, [], text, parsed⟩
  | keep _ document field _ =>
      cases hdocument.symm.trans document
      cases hfield.symm.trans field

end Applied

theorem not_applied_of_rulesRefused {codec : Codec} {configJson : Str} {before after : SamplingRules}
    (h : RulesRefused codec configJson) : ¬ Applied codec configJson before after := by
  rcases h with ⟨tracingConfig, rulesValue, rulesJson, e, hdocument, hfield, hnull, htext, hparse⟩
  intro happlied
  rcases happlied.exists_rules hdocument hfield hnull with ⟨rulesJson', rules, text, parsed⟩
  cases htext.symm.trans text
  cases hparse.symm.trans parsed

/-! ## What the handler does -/

namespace ApmTracingHandler

section Outcomes

variable {codec : Codec} {configJson : Str} {tracingConfig : ApmTracingConfig}
variable {rulesValue : JsonValue} (config : SamplingRules)

theorem processConfig_of_document_error {e : Str} (h : codec.parseApmTracing configJson = .error e) :
    processConfig codec configJson config =
      (.error ("Failed to parse APM tracing config: ".toList ++ e), config) := by
  simp only [processConfig, h, withContext, Except.mapError]

variable (hdocument : codec.parseApmTracing configJson = .ok tracingConfig)

include hdocument

theorem processConfig_of_absent (h : tracingConfig.libConfig.tracingSamplingRules = none) :
    processConfig codec configJson config = (.ok (), config) := by
  simp only [processConfig, hdocument, withContext, Except.mapError, h]

variable (hfield : tracingConfig.libConfig.tracingSamplingRules = some rulesValue)

include hfield

theorem processConfig_of_null (h : rulesValue.isNull = true) :
    processConfig codec configJson config =
      (.ok (), config.clearRemoteSamplingRules (some tracingConfig.id)) := by
  simp only [processConfig, hdocument, withContext, Except.mapError, hfield, h, if_true]

variable (hnull : rulesValue.isNull = false)

include hnull

theorem processConfig_of_text_error {e : Str} (h : codec.rulesToString rulesValue = .error e) :
    processConfig codec configJson config =
      (.error ("Failed to serialize sampling rules: ".toList ++ e), config) := by
  simp only [processConfig, hdocument, withContext, Except.mapError, hfield, hnull,
    Bool.false_eq_true, if_false, h]

/-- Whether the update is refused or not, the handler succeeds. -/
theorem processConfig_of_text {rulesJson : Str} (h : codec.rulesToString rulesValue = .ok rulesJson) :
    processConfig codec configJson config =
      (.ok (), (config.updateSamplingRulesFromRemote codec.parseRules rulesJson
        (some tracingConfig.id)).2) := by
  simp only [processConfig, hdocument, withContext, Except.mapError, hfield, hnull,
    Bool.false_eq_true, if_false, h]

end Outcomes

/-- The handler succeeds and applies the rules, fails and leaves them, or succeeds on rules that it
refused. -/
theorem processConfig_cases (codec : Codec) (configJson : Str) (config : SamplingRules) :
    (∃ after, processConfig codec configJson config = (.ok (), after) ∧
      Applied codec configJson config after) ∨
    (∃ e, processConfig codec configJson config = (.error e, config) ∧
      (∀ after, ¬ Applied codec configJson config after) ∧ ¬ RulesRefused codec configJson) ∨
    (∃ after, processConfig codec configJson config = (.ok (), after) ∧
      RulesRefused codec configJson) := by
  cases hdocument : codec.parseApmTracing configJson with
  | error e =>
      refine .inr (.inl ⟨_, processConfig_of_document_error config hdocument, ?_, ?_⟩)
      · intro after happlied
        rcases happlied.exists_document with ⟨tracingConfig, document⟩
        cases hdocument.symm.trans document
      · rintro ⟨tracingConfig, _, _, _, document, -⟩
        cases hdocument.symm.trans document
  | ok tracingConfig =>
      cases hfield : tracingConfig.libConfig.tracingSamplingRules with
      | none =>
          exact .inl ⟨config, processConfig_of_absent config hdocument hfield,
            .keep tracingConfig hdocument hfield rfl⟩
      | some rulesValue =>
          cases hnull : rulesValue.isNull with
          | true =>
              exact .inl ⟨_, processConfig_of_null config hdocument hfield hnull,
                .clear tracingConfig rulesValue hdocument hfield (.inl hnull) rfl⟩
          | false =>
              cases htext : codec.rulesToString rulesValue with
              | error e =>
                  refine .inr (.inl
                    ⟨_, processConfig_of_text_error config hdocument hfield hnull htext, ?_, ?_⟩)
                  · intro after happlied
                    rcases happlied.exists_rules hdocument hfield hnull with ⟨_, _, text, -⟩
                    cases htext.symm.trans text
                  · rintro ⟨_, _, _, _, document, field, -, text, -⟩
                    cases hdocument.symm.trans document
                    cases hfield.symm.trans field
                    cases htext.symm.trans text
              | ok rulesJson =>
                  have hprocess := processConfig_of_text config hdocument hfield hnull htext
                  cases hparse : codec.parseRules rulesJson with
                  | error e =>
                      exact .inr (.inr ⟨_, hprocess, tracingConfig, rulesValue, rulesJson, e,
                        hdocument, hfield, hnull, htext, hparse⟩)
                  | ok rules =>
                      refine .inl ⟨_, hprocess, ?_⟩
                      by_cases hempty : rules = []
                      · subst hempty
                        rw [config.updateSamplingRulesFromRemote_of_nil _ hparse]
                        exact .clear tracingConfig rulesValue hdocument hfield
                          (.inr ⟨rulesJson, htext, hparse⟩) rfl
                      · exact .set tracingConfig rulesValue rulesJson rules hdocument hfield htext
                          hparse hempty
                          (config.updateSamplingRulesFromRemote_of_ne_nil _ hparse hempty).2.1

end ApmTracingHandler

/-! ## What the loop reports -/

/-- A file of a product that has a handler. -/
def handled (file : TargetFile) : Bool :=
  (extractProductAndIdFromPath file.path).any fun ids => hasHandler ids.1

namespace FileLoop

/-- The states that the loop reported so far. -/
def reported (self : FileLoop) : List ConfigState :=
  if self.configStatesCleared then self.state.configStates else []

theorem reported_report (self : FileLoop) (configState : ConfigState) :
    (self.report configState).reported = self.reported ++ [configState] := rfl

/-- The states at the end are those that were reported, if any was. -/
theorem configStates_of_reported {self : FileLoop} (h : self.reported ≠ []) :
    self.state.configStates = self.reported := by
  cases hflag : self.configStatesCleared with
  | true => rw [reported, if_pos hflag]
  | false =>
      have hnil : self.reported = [] := by rw [reported, hflag, if_neg Bool.false_ne_true]
      exact absurd hnil h

variable {codec : Codec} {targets : Option SignedTargets} {p q : FileLoop} {file : TargetFile}

/-- One report, which says how the handler ended. -/
theorem apply_spec (codec : Codec) (targets : Option SignedTargets) (p : FileLoop)
    (file : TargetFile) (product configId configStr : Str) :
    ∃ report, (p.apply codec targets file product configId configStr).reported =
        p.reported ++ [report] ∧
      report.id = configId ∧ report.product = product ∧
      (p.apply codec targets file product configId configStr).config =
        (ApmTracingHandler.processConfig codec configStr p.config).2 ∧
      (p.anyFailure = true →
        (p.apply codec targets file product configId configStr).anyFailure = true) ∧
      ((ApmTracingHandler.processConfig codec configStr p.config).1 = .ok () →
        report.applyState = 2) ∧
      ∀ e, (ApmTracingHandler.processConfig codec configStr p.config).1 = .error e →
        report.applyState = 3 ∧
          (p.apply codec targets file product configId configStr).anyFailure = true := by
  unfold apply
  rcases ApmTracingHandler.processConfig codec configStr p.config with ⟨result, config⟩
  cases result with
  | ok done =>
      exact ⟨_, reported_report _ _, rfl, rfl, rfl, id, fun _ => rfl, fun e h => nomatch h⟩
  | error e =>
      exact ⟨_, reported_report _ _, rfl, rfl, rfl, fun _ => rfl, fun h => (nomatch h),
        fun _ _ => ⟨rfl, rfl⟩⟩

/-- A file is skipped, or decoded and applied. -/
theorem processFile_cases (h : p.processFile codec targets file = .ok q) :
    (handled file = false ∧ q = p) ∨
    (∃ product configId configStr,
      extractProductAndIdFromPath file.path = some (product, configId) ∧
      decodeFile codec file = .ok configStr ∧ handled file = true ∧
      q = p.apply codec targets file product configId configStr) := by
  unfold processFile at h
  unfold handled
  cases hpath : extractProductAndIdFromPath file.path with
  | none =>
      simp only [hpath, Except.ok.injEq] at h
      exact .inl ⟨rfl, h.symm⟩
  | some ids =>
      rcases ids with ⟨product, configId⟩
      simp only [hpath] at h
      cases hhandler : hasHandler product with
      | false =>
          simp only [hhandler, Bool.false_eq_true, if_false, Except.ok.injEq] at h
          exact .inl ⟨by simp [hhandler], h.symm⟩
      | true =>
          simp only [hhandler, if_true] at h
          cases hdecode : decodeFile codec file with
          | error e => simp [hdecode, Except.map] at h
          | ok configStr =>
              simp only [hdecode, Except.map, Except.ok.injEq] at h
              exact .inr ⟨product, configId, configStr, rfl, rfl, by simp [hhandler], h.symm⟩

/-- A pass adds a report for a file with a handler, and forgets no failure. -/
theorem reported_processFile (h : p.processFile codec targets file = .ok q) :
    ∃ reports, q.reported = p.reported ++ reports ∧
      reports.length = ([file].filter handled).length ∧
      (p.anyFailure = true → q.anyFailure = true) := by
  rcases processFile_cases h with
    ⟨hhandled, rfl⟩ | ⟨product, configId, configStr, -, -, hhandled, rfl⟩
  · exact ⟨[], by simp, by simp [hhandled], id⟩
  · rcases apply_spec codec targets p file product configId configStr with
      ⟨report, hreported, -, -, -, hfailure, -⟩
    exact ⟨[report], hreported, by simp [hhandled], hfailure⟩

/-- So does a whole run of the loop. -/
theorem reported_processFiles {files : List TargetFile}
    (h : p.processFiles codec targets files = (.ok (), q)) :
    ∃ reports, q.reported = p.reported ++ reports ∧
      reports.length = (files.filter handled).length ∧
      (p.anyFailure = true → q.anyFailure = true) := by
  induction files generalizing p with
  | nil =>
      cases h
      exact ⟨[], by simp, rfl, id⟩
  | cons file files ih =>
      unfold processFiles at h
      cases hfile : p.processFile codec targets file with
      | error e => simp [hfile] at h
      | ok next =>
          simp only [hfile] at h
          rcases reported_processFile hfile with ⟨first, hfirst, hfirstLen, hfailure⟩
          rcases ih h with ⟨rest, hrest, hrestLen, hrestFailure⟩
          refine ⟨first ++ rest, ?_, ?_, fun hp => hrestFailure (hfailure hp)⟩
          · rw [hrest, hfirst, List.append_assoc]
          · rw [List.length_append, hfirstLen, hrestLen, ← List.length_append,
              ← List.filter_append, List.singleton_append]

/-- A run over a list of files comes by each of them. -/
theorem processFiles_split {pre post : List TargetFile} {last : FileLoop}
    (h : p.processFiles codec targets (pre ++ file :: post) = (.ok (), last)) :
    ∃ before after, p.processFiles codec targets pre = (.ok (), before) ∧
      before.processFile codec targets file = .ok after ∧
      after.processFiles codec targets post = (.ok (), last) := by
  induction pre generalizing p with
  | nil =>
      rw [List.nil_append, processFiles] at h
      cases hfile : p.processFile codec targets file with
      | error e => simp [hfile] at h
      | ok after =>
          simp only [hfile] at h
          exact ⟨p, after, rfl, hfile, h⟩
  | cons first pre ih =>
      rw [List.cons_append, processFiles] at h
      cases hfirst : p.processFile codec targets first with
      | error e => simp [hfirst] at h
      | ok next =>
          simp only [hfirst] at h
          rcases ih h with ⟨before, after, hpre, hrest⟩
          exact ⟨before, after, by simp only [processFiles, hfirst, hpre], hrest⟩

end FileLoop

/-! ## Truthful reports -/

/-- A file that was not applied left no trace, but for the state that it reports. -/
structure Refused (client client' : RemoteConfigClient) (before after : SamplingRules)
    (report : ConfigState) : Prop where
  applyState : report.applyState = 3
  rules : after.traceSamplingRules = before.traceSamplingRules
  cachedTargetFiles : client'.cachedTargetFiles = client.cachedTargetFiles

/-- The state 2 is reported exactly if the rules were applied; else the file was refused. -/
def Truthful (codec : Codec) (configJson : Str) (client client' : RemoteConfigClient)
    (before after : SamplingRules) (report : ConfigState) : Prop :=
  (report.applyState = 2 ↔ Applied codec configJson before after) ∧
    (¬ Applied codec configJson before after → Refused client client' before after report)

/-- The report of a file that the handler was asked to apply. -/
theorem truthful_handler_iff {codec : Codec} {configStr : Str} {client client' : RemoteConfigClient}
    {config : SamplingRules} {report : ConfigState}
    (hsuccess : (ApmTracingHandler.processConfig codec configStr config).1 = .ok () →
      report.applyState = 2)
    (hfailure : ∀ e, (ApmTracingHandler.processConfig codec configStr config).1 = .error e →
      report.applyState = 3 ∧ client'.cachedTargetFiles = client.cachedTargetFiles) :
    Truthful codec configStr client client' config
        (ApmTracingHandler.processConfig codec configStr config).2 report ↔
      ¬ RulesRefused codec configStr := by
  rcases ApmTracingHandler.processConfig_cases codec configStr config with
    ⟨rules, hprocess, happlied⟩ | ⟨e, hprocess, hnot, hread⟩ | ⟨rules, hprocess, hrefused⟩
  · -- applied, and reported as applied
    rw [hprocess] at hsuccess ⊢
    have hread : ¬ RulesRefused codec configStr :=
      fun hrefused => not_applied_of_rulesRefused hrefused happlied
    exact iff_of_true
      ⟨iff_of_true (hsuccess rfl) happlied, fun hnot => absurd happlied hnot⟩ hread
  · -- refused, and reported as refused
    rw [hprocess] at hfailure ⊢
    rcases hfailure e rfl with ⟨hthree, hcache⟩
    have htwo : ¬ report.applyState = 2 := by
      rw [hthree]
      decide
    exact iff_of_true ⟨iff_of_false htwo (hnot _), fun _ => ⟨hthree, rfl, hcache⟩⟩ hread
  · -- refused, and reported as applied
    rw [hprocess] at hsuccess ⊢
    refine iff_of_false ?_ (not_not_intro hrefused)
    rintro ⟨hreports, -⟩
    exact not_applied_of_rulesRefused hrefused (hreports.1 (hsuccess rfl))

namespace RemoteConfigClient

/-- The loop before the first file. -/
def fileLoop (self : RemoteConfigClient) : FileLoop :=
  { config := self.config
    state := self.state
    newCache := []
    anyFailure := false
    configStatesCleared := false }

/-- The turn of a file: the loop before and after it. -/
structure Turn (codec : Codec) (self : RemoteConfigClient) (targets : Option SignedTargets)
    (pre : List TargetFile) (file : TargetFile) (before after : FileLoop) : Prop where
  pre : (self.recordTargets targets).fileLoop.processFiles codec targets pre = (.ok (), before)
  turn : before.processFile codec targets file = .ok after

/-- Without an error the loop ran to its end, and the cache is replaced if nothing failed. -/
theorem applyFiles_ok {codec : Codec} {self after : RemoteConfigClient}
    {targets : Option SignedTargets} {files : List TargetFile}
    (h : self.applyFiles codec targets files = (.ok (), after)) :
    ∃ last, self.fileLoop.processFiles codec targets files = (.ok (), last) ∧
      after.state = last.state ∧
      after.cachedTargetFiles =
        if last.anyFailure then self.cachedTargetFiles else last.newCache := by
  obtain ⟨result, last, hloop⟩ : ∃ result last,
      self.fileLoop.processFiles codec targets files = (result, last) := ⟨_, _, rfl⟩
  have hstart := hloop
  simp only [fileLoop] at hstart
  simp only [applyFiles, hstart] at h
  cases result with
  | error e => cases h
  | ok done =>
      refine ⟨last, hloop, ?_⟩
      simp only [Prod.mk.injEq, true_and] at h
      subst h
      cases last.anyFailure with
      | false => exact ⟨rfl, rfl⟩
      | true => exact ⟨rfl, rfl⟩

theorem processResponse_ok {codec : Codec} {self after : RemoteConfigClient}
    {response : ConfigResponse} {files : List TargetFile}
    (h : self.processResponse codec response = (.ok (), after))
    (hfiles : response.targetFiles = some files) :
    ∃ targets, decodeTargets codec response.targets = .ok targets ∧
      (self.recordTargets targets).applyFiles codec targets files = (.ok (), after) := by
  unfold processResponse at h
  cases htargets : decodeTargets codec response.targets with
  | error e => simp [htargets] at h
  | ok targets =>
      simp only [htargets, hfiles] at h
      cases hvalid : validateSignedTargetFiles files targets response.clientConfigs with
      | error e => simp [hvalid] at h
      | ok done =>
          simp only [hvalid] at h
          exact ⟨targets, rfl, h⟩

/-- In a response that is processed without an error, the report of a file is truthful exactly if its
rules were not refused behind the back of the handler: the document is read, but its rules are not. -/
theorem truthful_iff {codec : Codec} {self after : RemoteConfigClient} {response : ConfigResponse}
    (h : self.processResponse codec response = (.ok (), after))
    {pre post : List TargetFile} {file : TargetFile}
    (hfiles : response.targetFiles = some (pre ++ file :: post))
    {product configId : Str} (hpath : extractProductAndIdFromPath file.path = some (product, configId))
    (hhandler : hasHandler product = true) :
    ∃ targets configStr before next earlier report later,
      decodeTargets codec response.targets = .ok targets ∧
      FileLoop.decodeFile codec file = .ok configStr ∧
      Turn codec self targets pre file before next ∧
      after.state.configStates = earlier ++ report :: later ∧
      earlier.length = (pre.filter handled).length ∧
      report.id = configId ∧ report.product = product ∧
      (Truthful codec configStr self after before.config next.config report ↔
        ¬ RulesRefused codec configStr) := by
  rcases processResponse_ok h hfiles with ⟨targets, htargets, happly⟩
  rcases applyFiles_ok happly with ⟨last, hloop, hstate, hcache⟩
  rcases FileLoop.processFiles_split hloop with ⟨before, next, hpre, hturn, hpost⟩
  have hhandled : handled file = true := by simp [handled, hpath, hhandler]
  rcases FileLoop.processFile_cases hturn with
    ⟨hskipped, -⟩ | ⟨product', configId', configStr, hpath', hdecode, -, rfl⟩
  · rw [hhandled] at hskipped
    cases hskipped
  cases hpath.symm.trans hpath'
  rcases FileLoop.apply_spec codec targets before file product configId configStr with
    ⟨report, hreport, hid, hproduct, hconfig, -, hsuccess, hfailure⟩
  rcases FileLoop.reported_processFiles hpre with ⟨earlier, hearlier, hlen, -⟩
  rcases FileLoop.reported_processFiles hpost with ⟨later, hlater, -, hforgets⟩
  have hstates : after.state.configStates = earlier ++ report :: later := by
    have hreported : last.reported = earlier ++ report :: later := by
      rw [hlater, hreport, hearlier]
      simp [FileLoop.reported, fileLoop]
    rw [hstate, ← hreported]
    refine FileLoop.configStates_of_reported ?_
    rw [hreported]
    simp
  refine ⟨targets, configStr, before, _, earlier, report, later, htargets, hdecode, ⟨hpre, hturn⟩,
    hstates, hlen, hid, hproduct, ?_⟩
  rw [hconfig]
  apply truthful_handler_iff hsuccess
  intro e he
  rcases hfailure e he with ⟨hthree, hfailed⟩
  refine ⟨hthree, ?_⟩
  rw [hcache, if_pos (hforgets hfailed), cachedTargetFiles_recordTargets]

/-- A document with one rule that has no rate. -/
def refusedDocument : String :=
  "\x7b\"id\":\"42\",\"lib_config\":\x7b\"tracing_sampling_rules\":[\x7b\"service\":\"a\"\x7d]\x7d\x7d"

def refusedRaw : String :=
  "eyJpZCI6IjQyIiwibGliX2NvbmZpZyI6eyJ0cmFjaW5nX3NhbXBsaW5nX3J1" ++
    "bGVzIjpbeyJzZXJ2aWNlIjoiYSJ9XX19"

/-- What the packages do with this document. -/
def refusedCodec : Codec :=
  { decodeBase64 := fun s =>
      if s = refusedRaw.toList then .ok refusedDocument.toUTF8.data.toList
      else .error "Invalid padding".toList
    utf8Error := fun _ => "invalid utf-8 sequence".toList
    parseTargets := fun _ => .error "expected value at line 1 column 1".toList
    parseApmTracing := fun s =>
      if s = refusedDocument.toList then
        .ok
          { id := "42".toList
            libConfig :=
              { tracingSamplingRules :=
                  some (.array [.object [("service".toList, .string "a".toList)]]) } }
      else .error "expected value at line 1 column 1".toList
    parseRules := fun _ => .error "missing field `sample_rate` at line 1 column 16".toList
    rulesToString := fun _ => .ok "[\x7b\"service\":\"a\"\x7d]".toList
    sha256Hex := fun _ =>
      "f61611a7c135ee137b14cbb70ff7d2d0a86ab4e28a1df70e57ed4e5ae898e10e".toList }

def refusedFile : TargetFile := ⟨"datadog/2/APM_TRACING/a/config".toList, refusedRaw.toList⟩

/-- A response with this file only. -/
def refusedResponse : ConfigResponse :=
  { targets := none
    targetFiles := some [refusedFile]
    clientConfigs := some [refusedFile.path] }

/-- A file that is the base64 form of a text. -/
theorem decodeFile_of_text {codec : Codec} {file : TargetFile} {text : String}
    (hbase64 : codec.decodeBase64 file.raw = .ok text.toUTF8.data.toList) :
    FileLoop.decodeFile codec file = .ok text.toList := by
  have hutf8 := codec.fromUtf8_toUTF8 text
  simp only [FileLoop.decodeFile, withContext, Except.mapError, bind, Except.bind, hbase64, hutf8]

theorem decodeFile_refused :
    FileLoop.decodeFile refusedCodec refusedFile = .ok refusedDocument.toList := by
  have hbase64 : refusedCodec.decodeBase64 refusedFile.raw =
      .ok refusedDocument.toUTF8.data.toList := by
    have hraw : refusedFile.raw = refusedRaw.toList := rfl
    simp only [hraw, refusedCodec, if_true]
  exact @decodeFile_of_text refusedCodec refusedFile refusedDocument hbase64

theorem rulesRefused_refused : RulesRefused refusedCodec refusedDocument.toList := by
  have hdocument : refusedCodec.parseApmTracing refusedDocument.toList =
      .ok
        { id := "42".toList
          libConfig :=
            { tracingSamplingRules :=
                some (.array [.object [("service".toList, .string "a".toList)]]) } } := by
    simp only [refusedCodec, if_true]
  exact ⟨_, _, _, _, hdocument, rfl, rfl, rfl, rfl⟩

/-- The file is reported as applied, and cached. -/
theorem processResponse_refused :
    ∃ after, (exampleClient 0).processResponse refusedCodec refusedResponse = (.ok (), after) ∧
      after.state.configStates = [⟨"a".toList, 1, "APM_TRACING".toList, 2, none⟩] ∧
      after.cachedTargetFiles.map CachedTargetFile.path = [refusedFile.path] := by
  have hpath : extractProductAndIdFromPath refusedFile.path =
      some ("APM_TRACING".toList, "a".toList) := by decide
  have hdecode := decodeFile_refused
  have hvalid : validateSignedTargetFiles [refusedFile] none (some [refusedFile.path]) = .ok () := by
    decide
  have hhandler : hasHandler "APM_TRACING".toList = true := by decide
  obtain ⟨rules, hprocess⟩ : ∃ rules, ApmTracingHandler.processConfig refusedCodec
      refusedDocument.toList (exampleClient 0).config = (.ok (), rules) := by
    rcases ApmTracingHandler.processConfig_cases refusedCodec refusedDocument.toList
        (exampleClient 0).config with ⟨rules, h, -⟩ | ⟨e, -, -, hread⟩ | ⟨rules, h, -⟩
    · exact ⟨rules, h⟩
    · exact absurd rulesRefused_refused hread
    · exact ⟨rules, h⟩
  have htargets : decodeTargets refusedCodec refusedResponse.targets = .ok none := rfl
  have hfiles : refusedResponse.targetFiles = some [refusedFile] := rfl
  have hconfigs : refusedResponse.clientConfigs = some [refusedFile.path] := rfl
  have hstep : processResponse refusedCodec (exampleClient 0) refusedResponse =
      (exampleClient 0).applyFiles refusedCodec none [refusedFile] := by
    simp only [processResponse, htargets, hfiles, hconfigs, hvalid]
    rfl
  rw [hstep]
  simp only [applyFiles, FileLoop.processFiles, FileLoop.processFile, hpath, hhandler, if_true,
    hdecode, Except.map, FileLoop.apply, hprocess]
  exact ⟨_, rfl, rfl, rfl⟩

theorem truthful_iff_refused :
    ∃ after, (exampleClient 0).processResponse refusedCodec refusedResponse = (.ok (), after) ∧
      ∃ targets configStr before next earlier report later,
        decodeTargets refusedCodec refusedResponse.targets = .ok targets ∧
        FileLoop.decodeFile refusedCodec refusedFile = .ok configStr ∧
        Turn refusedCodec (exampleClient 0) targets [] refusedFile before next ∧
        after.state.configStates = earlier ++ report :: later ∧
        earlier.length = (([] : List TargetFile).filter handled).length ∧
        report.id = "a".toList ∧ report.product = "APM_TRACING".toList ∧
        (Truthful refusedCodec configStr (exampleClient 0) after before.config next.config report ↔
          ¬ RulesRefused refusedCodec configStr) := by
  rcases processResponse_refused with ⟨after, hprocess, -, -⟩
  have hfiles : refusedResponse.targetFiles = some ([] ++ refusedFile :: []) := rfl
  exact ⟨after, hprocess, truthful_iff hprocess hfiles (by decide) (by decide)⟩

/-- The file is reported as applied, though no rules were. -/
theorem refused_rules_reported_applied :
    ∃ after report, (exampleClient 0).processResponse refusedCodec refusedResponse = (.ok (), after) ∧
      FileLoop.decodeFile refusedCodec refusedFile = .ok refusedDocument.toList ∧
      after.state.configStates = [report] ∧ report.applyState = 2 ∧
      (∀ before next, ¬ Applied refusedCodec refusedDocument.toList before next) ∧
      after.cachedTargetFiles.map CachedTargetFile.path = [refusedFile.path] := by
  rcases processResponse_refused with ⟨after, hprocess, hstates, hcache⟩
  exact ⟨after, _, hprocess, decodeFile_refused, hstates, rfl,
    fun _ _ => not_applied_of_rulesRefused rulesRefused_refused, hcache⟩

end RemoteConfigClient

end Core
end DdTrace
