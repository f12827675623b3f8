import DdTrace.Core.PollRuns
import DdTrace.TraceSampling.RulesPrecedence

/-!
# PolledRules — the sampler of a tracer that polls

The files of a response reach the sampler through two calls of the configuration and a callback.  The
polls of a tracer refine those calls (`polls_refine_calls`): which calls a poll makes is read off its
answer, and a run of polls is a run of the configuration, its callback and the sampler.  So the sampler is
in step with the configuration after every poll, also after one that fails half-way.
-/

namespace DdTrace
namespace TraceSampling

open DdTrace.Lib DdTrace.Core

/-! ## The calls of a poll -/

/-- The call that a configuration file makes, if it can be read and has rules. -/
def configCalls (codec : Codec) (configJson : Str) : List RulesCall :=
  match codec.parseApmTracing configJson with
  | .error _ => []
  | .ok tracingConfig =>
      match tracingConfig.libConfig.tracingSamplingRules with
      | none => []
      | some rulesValue =>
          if rulesValue.isNull then [.clear (some tracingConfig.id)]
          else
            match codec.rulesToString rulesValue with
            | .error _ => []
            | .ok rulesJson => [.update rulesJson (some tracingConfig.id)]

/-- The calls of the files up to the first one that cannot be decoded. -/
def fileCalls (codec : Codec) : List TargetFile → List RulesCall
  | [] => []
  | file :: files =>
      if handled file then
        match FileLoop.decodeFile codec file with
        | .error _ => []
        | .ok configStr => configCalls codec configStr ++ fileCalls codec files
      else fileCalls codec files

def responseCalls (codec : Codec) (response : ConfigResponse) : List RulesCall :=
  match decodeTargets codec response.targets, response.targetFiles with
  | .ok targets, some files =>
      match validateSignedTargetFiles files targets response.clientConfigs with
      | .error _ => []
      | .ok () => fileCalls codec files
  | _, _ => []

def pollCalls (codec : AgentCodec) : WorkerEvent × WorkerOutput → List RulesCall
  | (.answer answer, _) =>
      match readAnswer codec answer with
      | .error _ => []
      | .ok response => responseCalls codec.toCodec response
  | _ => []

/-- The configuration after some calls. -/
def configAfter (parseRules : Str → Except Str (List SamplingRuleConfig)) (config : SamplingRules)
    (calls : List RulesCall) : SamplingRules :=
  calls.foldl (fun config call => (call.run parseRules config).2) config

theorem configAfter_append (parseRules : Str → Except Str (List SamplingRuleConfig))
    (config : SamplingRules) (calls calls' : List RulesCall) :
    configAfter parseRules config (calls ++ calls') =
      configAfter parseRules (configAfter parseRules config calls) calls' :=
  List.foldl_append

/-! ## A poll makes its calls -/

theorem processConfig_calls (codec : Codec) (configJson : Str) (config : SamplingRules) :
    (ApmTracingHandler.processConfig codec configJson config).2 =
      configAfter codec.parseRules config (configCalls codec configJson) := by
  unfold configCalls
  cases hdocument : codec.parseApmTracing configJson with
  | error e =>
      rw [ApmTracingHandler.processConfig_of_document_error config hdocument]
      rfl
  | ok tracingConfig =>
      cases hfield : tracingConfig.libConfig.tracingSamplingRules with
      | none =>
          rw [ApmTracingHandler.processConfig_of_absent config hdocument hfield]
          simp [hfield, configAfter]
      | some rulesValue =>
          cases hnull : rulesValue.isNull with
          | true =>
              rw [ApmTracingHandler.processConfig_of_null config hdocument hfield hnull]
              simp [hfield, hnull, configAfter, RulesCall.run]
          | false =>
              cases htext : codec.rulesToString rulesValue with
              | error e =>
                  rw [ApmTracingHandler.processConfig_of_text_error config hdocument hfield hnull
                    htext]
                  simp [hfield, hnull, htext, configAfter]
              | ok rulesJson =>
                  rw [ApmTracingHandler.processConfig_of_text config hdocument hfield hnull htext]
                  simp [hfield, hnull, htext, configAfter, RulesCall.run]

/-- The loop ends with an error at a file that cannot be decoded. -/
theorem decodeFile_of_processFile_error {codec : Codec} {targets : Option SignedTargets}
    {p : FileLoop} {file : TargetFile} {e : Str}
    (h : p.processFile codec targets file = .error e) :
    handled file = true ∧ FileLoop.decodeFile codec file = .error e := by
  unfold FileLoop.processFile at h
  unfold handled
  cases hpath : extractProductAndIdFromPath file.path with
  | none => simp [hpath] at h
  | some ids =>
      simp only [hpath] at h
      cases hhandler : hasHandler ids.1 with
      | false => simp [hhandler] at h
      | true =>
          simp only [hhandler, if_true] at h
          cases hdecode : FileLoop.decodeFile codec file with
          | error e' =>
              simp only [hdecode, Except.map, Except.error.injEq] at h
              exact ⟨by simp [hhandler], congrArg Except.error h⟩
          | ok configStr => simp [hdecode, Except.map] at h

/-- The loop makes the calls of the files, whether it ends with an error or not. -/
theorem processFiles_calls (codec : Codec) (targets : Option SignedTargets) (p : FileLoop)
    (files : List TargetFile) :
    (p.processFiles codec targets files).2.config =
      configAfter codec.parseRules p.config (fileCalls codec files) := by
  induction files generalizing p with
  | nil => rfl
  | cons file files ih =>
      unfold FileLoop.processFiles fileCalls
      cases hfile : p.processFile codec targets file with
      | error e =>
          rcases decodeFile_of_processFile_error hfile with ⟨hhandled, hdecode⟩
          simp only [hhandled, if_true, hdecode]
          rfl
      | ok next =>
          rcases FileLoop.processFile_cases hfile with
            ⟨hhandled, rfl⟩ | ⟨product, configId, configStr, -, hdecode, hhandled, rfl⟩
          · simpa only [hhandled, Bool.false_eq_true, if_false] using ih next
          · rcases FileLoop.apply_spec codec targets p file product configId configStr with
              ⟨-, -, -, -, hconfig, -⟩
            simp only [hhandled, if_true, hdecode, configAfter_append, ih, hconfig,
              processConfig_calls]

/-- The changes that the loop made stay, however it ends. -/
theorem config_applyFiles (codec : Codec) (self : RemoteConfigClient)
    (targets : Option SignedTargets) (files : List TargetFile) :
    (self.applyFiles codec targets files).2.config =
      (self.fileLoop.processFiles codec targets files).2.config := by
  unfold RemoteConfigClient.applyFiles RemoteConfigClient.fileLoop
  dsimp only
  split
  · rfl
  · split
    · rfl
    · rfl

theorem processResponse_calls (codec : Codec) (self : RemoteConfigClient)
    (response : ConfigResponse) :
    (self.processResponse codec response).2.config =
      configAfter codec.parseRules self.config (responseCalls codec response) := by
  unfold RemoteConfigClient.processResponse responseCalls
  cases decodeTargets codec response.targets with
  | error e => rfl
  | ok targets =>
      cases response.targetFiles with
      | none => exact self.config_recordTargets targets
      | some files =>
          dsimp only
          cases validateSignedTargetFiles files targets response.clientConfigs with
          | error e => exact self.config_recordTargets targets
          | ok done =>
              calc
                ((self.recordTargets targets).applyFiles codec targets files).2.config
                    = configAfter codec.parseRules (self.recordTargets targets).config
                        (fileCalls codec files) := by
                      rw [config_applyFiles, processFiles_calls]
                      rfl
                _ = configAfter codec.parseRules self.config (fileCalls codec files) := by
                      rw [self.config_recordTargets]

/-- The configuration after a step of the worker. -/
theorem machine_calls {codec : AgentCodec} {agentUrl : Str} {worker next : RemoteConfigClientWorker}
    {event : WorkerEvent} {output : WorkerOutput}
    (h : RemoteConfigClientWorker.machine codec agentUrl worker event = some (next, output)) :
    next.client.config =
      configAfter codec.parseRules worker.client.config (pollCalls codec (event, output)) := by
  have hrecord : ∀ (client : RemoteConfigClient) (result : Except Str Unit),
      (client.recordResult result).config = client.config := by
    intro client result
    cases result with
    | ok done => rfl
    | error e => rfl
  rcases RemoteConfigClientWorker.machine_cases h with ⟨settings, req, rfl, rfl, hclient⟩ |
    ⟨settings, e, rfl, rfl, hclient⟩ | ⟨answer, rfl, rfl, hclient⟩ | ⟨rfl, rfl, hclient⟩
  · rw [hclient]
    rfl
  · rw [hclient, hrecord]
    rfl
  · rw [hclient, hrecord]
    cases hread : readAnswer codec answer with
    | error e =>
        simp only [RemoteConfigClient.applyAnswer, pollCalls, hread]
        rfl
    | ok response =>
        simp only [RemoteConfigClient.applyAnswer, pollCalls, hread]
        exact processResponse_calls codec.toCodec worker.client response
  · rw [hclient]
    rfl

/-! ## The tracer that polls -/

/-- A tracer with the worker of remote configuration, which has its configuration. -/
structure RemoteTracer where
  worker : RemoteConfigClientWorker
  samplingRulesUpdate : Option (List SamplingRuleConfig → DatadogSampler → DatadogSampler)
  sampler : DatadogSampler

namespace RemoteTracer

/-- What `make_tracer` connected. -/
def wiring (self : RemoteTracer) : RulesWiring :=
  { config := self.worker.client.config
    samplingRulesUpdate := self.samplingRulesUpdate
    sampler := self.sampler }

/-- The worker starts with the configuration of the tracer. -/
def start (wiring : RulesWiring) : RemoteTracer :=
  { worker := .start wiring.config
    samplingRulesUpdate := wiring.samplingRulesUpdate
    sampler := wiring.sampler }

/-- A step of the worker, with the notifications that it makes. -/
def machine (codec : AgentCodec) (agentUrl : Str) :
    Machine RemoteTracer WorkerEvent WorkerOutput :=
  fun self event =>
    (RemoteConfigClientWorker.machine codec agentUrl self.worker event).map
      fun (worker, output) =>
        let config := worker.client.config
        let notified := config.updates.drop self.worker.client.config.updates.length
        ({ self with
            worker := worker
            sampler := (self.wiring.notify notified).sampler }, output)

end RemoteTracer

/-! ## Refinement -/

namespace RulesWiring

/-- The wiring with another configuration, after the notifications that this one has more. -/
def withConfig (self : RulesWiring) (config : SamplingRules) : RulesWiring :=
  notify { self with config := config } (config.updates.drop self.config.updates.length)

variable (parseRules : Str → Except Str (List SamplingRuleConfig))

theorem config_notify (self : RulesWiring) (notified : List (List SamplingRuleConfig)) :
    (self.notify notified).config = self.config := by
  unfold notify
  split
  · rfl
  · rfl

/-- A call adds to the notifications. -/
theorem updates_prefix_run (config : SamplingRules) (call : RulesCall) :
    config.updates <+: (call.run parseRules config).2.updates := by
  cases heffect : call.effect parseRules with
  | none =>
      rcases call.run_of_effect_none parseRules heffect config with ⟨e, hrun⟩
      rw [hrun]
  | some set =>
      rw [(call.run_of_effect_some parseRules heffect config).2.2]
      exact List.prefix_append _ _

theorem updates_prefix_configAfter (config : SamplingRules) (calls : List RulesCall) :
    config.updates <+: (configAfter parseRules config calls).updates := by
  induction calls generalizing config with
  | nil => exact List.prefix_refl _
  | cons call calls ih =>
      exact (updates_prefix_run parseRules config call).trans (ih (call.run parseRules config).2)

theorem withConfig_trans (self : RulesWiring) {config config' : SamplingRules}
    (h : self.config.updates <+: config.updates) (h' : config.updates <+: config'.updates) :
    (self.withConfig config).withConfig config' = self.withConfig config' := by
  rcases self with ⟨start, callback, sampler⟩
  rcases h with ⟨first, hfirst⟩
  rcases h' with ⟨rest, hrest⟩
  have hdrop : config'.updates.drop start.updates.length = first ++ rest := by
    rw [← hrest, ← hfirst, List.append_assoc, List.drop_left]
  have hdrop' : config.updates.drop start.updates.length = first := by
    rw [← hfirst, List.drop_left]
  have hdrop'' : config'.updates.drop config.updates.length = rest := by
    rw [← hrest, List.drop_left]
  cases callback with
  | none => rfl
  | some callback => simp [withConfig, notify, hdrop, hdrop', hdrop'']

/-- Some calls, one after the other. -/
theorem run_calls (self : RulesWiring) (calls : List RulesCall) :
    ∃ l, Machine.Run (machine parseRules) self l
        (self.withConfig (configAfter parseRules self.config calls)) ∧ l.map Prod.fst = calls := by
  induction calls generalizing self with
  | nil =>
      refine ⟨[], ?_, rfl⟩
      have hsame : self.withConfig (configAfter parseRules self.config []) = self := by
        simp only [configAfter, List.foldl_nil, withConfig, List.drop_length]
        exact notify_nil self
      rw [hsame]
      exact .start
  | cons call calls ih =>
      have hstep : machine parseRules self call =
          some (self.withConfig (call.run parseRules self.config).2,
            ((call.run parseRules self.config).1,
              (call.run parseRules self.config).2.updates.drop self.config.updates.length)) := rfl
      have hconfig : (self.withConfig (call.run parseRules self.config).2).config =
          (call.run parseRules self.config).2 := config_notify _ _
      rcases ih (self.withConfig (call.run parseRules self.config).2) with ⟨l, hrun, hcalls⟩
      rw [hconfig, withConfig_trans self (updates_prefix_run parseRules self.config call)
        (updates_prefix_configAfter parseRules _ calls)] at hrun
      exact ⟨_, (Machine.Run.single hstep).append hrun, by simp [hcalls]⟩

end RulesWiring

namespace RemoteTracer

variable {codec : AgentCodec} {agentUrl : Str}

/-- A step of the tracer is the calls that it makes. -/
theorem step_calls {tracer next : RemoteTracer} {event : WorkerEvent} {output : WorkerOutput}
    (h : machine codec agentUrl tracer event = some (next, output)) :
    ∃ l, Machine.Run (RulesWiring.machine codec.parseRules) tracer.wiring l next.wiring ∧
      l.map Prod.fst = pollCalls codec (event, output) := by
  simp only [machine, Option.map_eq_some_iff, Prod.exists, Prod.mk.injEq] at h
  rcases h with ⟨worker, output, hworker, rfl, rfl⟩
  have hconfig := machine_calls hworker
  rcases tracer.wiring.run_calls codec.parseRules (pollCalls codec (event, output)) with
    ⟨l, hrun, hcalls⟩
  refine ⟨l, ?_, hcalls⟩
  have hnext : tracer.wiring.withConfig
      (configAfter codec.parseRules tracer.wiring.config (pollCalls codec (event, output))) =
        wiring
          { tracer with
            worker := worker
            sampler :=
              (tracer.wiring.notify
                (worker.client.config.updates.drop
                  tracer.worker.client.config.updates.length)).sampler } := by
    have hsame : tracer.wiring.config = tracer.worker.client.config := rfl
    rw [hsame, ← hconfig]
    rcases tracer with ⟨_, callback, sampler⟩
    cases callback with
    | none => rfl
    | some callback => rfl
  rwa [hnext] at hrun

variable (ops : F64Ops) (lower : Str → Str)

/-- Every run of the tracer with its polls is a run of the calls that the polls make, of the
configuration, its callback and the sampler. -/
theorem calls_of_run {wiring : RulesWiring} {l : PollHistory} {tracer : RemoteTracer}
    (h : Machine.Run (machine codec agentUrl) (start wiring) l tracer) :
    ∃ l', Machine.Run (RulesWiring.machine codec.parseRules) wiring l' tracer.wiring ∧
      l'.map Prod.fst = l.flatMap (pollCalls codec) := by
  refine h.invariant
    (I := fun l tracer => ∃ l', Machine.Run (RulesWiring.machine codec.parseRules) wiring l'
      tracer.wiring ∧ l'.map Prod.fst = l.flatMap (pollCalls codec)) ⟨[], .start, rfl⟩ ?_
  rintro l tracer next event output - ⟨l', hrun, hcalls⟩ hstep
  rcases step_calls hstep with ⟨calls, hstep', hcalls'⟩
  exact ⟨l' ++ calls, hrun.append hstep', by simp [hcalls, hcalls']⟩

/-- After any run of polls of a tracer with remote configuration, whatever the agent answered and however
the polls ended: of the calls that the applied files made, the configuration has the rules and the id of
the last one that set or cleared any (rules that are refused leave both), and the sampler has the image of
the rules in effect. -/
theorem polls_refine_calls {item : ConfigItem (List SamplingRuleConfig)} {l : PollHistory}
    {tracer : RemoteTracer}
    (h : Machine.Run (machine codec agentUrl) (start (makeTracer ops lower (.new item) true)) l
      tracer) :
    (∃ l', Machine.Run (RulesWiring.machine codec.parseRules)
        (makeTracer ops lower (.new item) true) l' tracer.wiring ∧
      l'.map Prod.fst = l.flatMap (pollCalls codec)) ∧
      tracer.worker.client.config.value =
        (remoteRules codec.parseRules (l.flatMap (pollCalls codec))).getD item.value ∧
      tracer.worker.client.config.traceSamplingRules.configId =
        lastConfigId codec.parseRules (l.flatMap (pollCalls codec)) ∧
      tracer.sampler.rules.inner =
        SamplingRule.fromConfigs ops lower tracer.worker.client.config.value := by
  rcases calls_of_run h with ⟨l', hrun, hcalls⟩
  have hinstep : InStep ops lower codec.parseRules item (l'.map Prod.fst) tracer.wiring :=
    hrun.invariant (I := fun l w => InStep ops lower codec.parseRules item (l.map Prod.fst) w)
      (.makeTracer ops lower codec.parseRules item)
      (fun _ hI hstep => by simpa using hI.step hstep)
  have hrules : tracer.worker.client.config.traceSamplingRules = _ := hinstep.rules
  rw [hcalls] at hrules
  refine ⟨⟨l', hrun, hcalls⟩, ?_, ?_, hinstep.sampler⟩
  · simp only [SamplingRules.value, hrules, ConfigItemWithOverride.value]
  · rw [hrules]

/-- A document with the rule for a service. -/
def webDocument : String :=
  "\x7b\"id\":\"7\",\"lib_config\":\x7b\"tracing_sampling_rules\":" ++
    "[\x7b\"sample_rate\":0.5,\"service\":\"web\"\x7d]\x7d\x7d"

def webRaw : String :=
  "eyJpZCI6IjciLCJsaWJfY29uZmlnIjp7InRyYWNpbmdfc2FtcGxpbmdfcnVsZXMiOlt7InNhbXBsZV9yYXRl" ++
    "IjowLjUsInNlcnZpY2UiOiJ3ZWIifV19fQ=="

def webRulesJson : Str := "[\x7b\"sample_rate\":0.5,\"service\":\"web\"\x7d]".toList

def webConfig : ApmTracingConfig :=
  { id := "7".toList
    libConfig :=
      { tracingSamplingRules :=
          some
            (.array
              [.object
                [("sample_rate".toList, .number (.float 0x3FE0000000000000)),
                  ("service".toList, .string "web".toList)]]) } }

def webFile : TargetFile := ⟨"datadog/2/APM_TRACING/a/config".toList, webRaw.toList⟩

/-- The second file is no base64. -/
def webResponse : ConfigResponse :=
  { targets := none
    targetFiles := some [webFile, ⟨"datadog/2/APM_TRACING/b/config".toList, "AAA".toList⟩]
    clientConfigs := some [webFile.path, "datadog/2/APM_TRACING/b/config".toList] }

/-- An agent that answers with this response. -/
def webAgent : AgentCodec :=
  { decodeBase64 := fun s =>
      if s = webRaw.toList then .ok webDocument.toUTF8.data.toList
      else .error "Invalid padding".toList
    utf8Error := fun _ => "invalid utf-8 sequence".toList
    parseTargets := fun _ => .error "expected value at line 1 column 1".toList
    parseApmTracing := fun s =>
      if s = webDocument.toList then .ok webConfig
      else .error "expected value at line 1 column 1".toList
    parseRules := exampleParse
    rulesToString := fun _ => .ok webRulesJson
    sha256Hex := fun _ =>
      "2fff5f4d4940a110e6e843ac535ce2e065f47132e138eb4b64eed61aea6e9975".toList
    encodeBase64 := fun _ => "IAAAAA==".toList
    requestToString := fun _ => .ok "\x7b\x7d".toList
    buildHttpRequest := fun req => .ok req
    parseResponse := fun _ => .ok webResponse }

/-- The first file makes its call, and the second one ends the poll. -/
theorem responseCalls_web :
    responseCalls webAgent.toCodec webResponse = [.update webRulesJson (some "7".toList)] := by
  have hraw : webFile.raw = webRaw.toList := by dsimp only [webFile]
  have hbase64 : webAgent.decodeBase64 webFile.raw = .ok webDocument.toUTF8.data.toList := by
    simp only [webAgent, if_pos hraw]
  have hdecode : FileLoop.decodeFile webAgent.toCodec webFile = .ok webDocument.toList :=
    @RemoteConfigClient.decodeFile_of_text webAgent.toCodec webFile webDocument hbase64
  have hdocument : webAgent.parseApmTracing webDocument.toList = .ok webConfig := by
    simp only [webAgent, if_true]
  have hconfig : configCalls webAgent.toCodec webDocument.toList =
      [.update webRulesJson (some "7".toList)] := by
    simp only [configCalls, hdocument]
    rfl
  have hvalid : validateSignedTargetFiles
      [webFile, ⟨"datadog/2/APM_TRACING/b/config".toList, "AAA".toList⟩] none
      webResponse.clientConfigs = .ok () := by decide
  have hhandled : handled webFile = true := by decide
  have hrest : fileCalls webAgent.toCodec
      [⟨"datadog/2/APM_TRACING/b/config".toList, "AAA".toList⟩] = [] := by
    have hne : ¬ "AAA".toList = webRaw.toList := by
      intro heq
      have hlen := congrArg Text.utf8Len heq
      rw [Text.utf8Len_toList, Text.utf8Len_toList] at hlen
      exact absurd hlen (by decide +kernel)
    have hbad : webAgent.decodeBase64 "AAA".toList = .error "Invalid padding".toList := by
      simp only [webAgent, if_neg hne]
    simp only [fileCalls, FileLoop.decodeFile, bind, Except.bind, withContext, hbad,
      Except.mapError, ite_self]
  have htargets : decodeTargets webAgent.toCodec webResponse.targets = .ok none := rfl
  have hfiles : webResponse.targetFiles =
      some [webFile, ⟨"datadog/2/APM_TRACING/b/config".toList, "AAA".toList⟩] := rfl
  simp only [responseCalls, htargets, hfiles, hvalid]
  rw [fileCalls, hrest]
  simp only [hhandled, if_true, hdecode, hconfig, List.append_nil]

/-- A poll that fails at its second file: the sampler has the rule of the first one. -/
theorem polls_refine_calls_web :
    ∃ l tracer,
      Machine.Run (machine webAgent "http://localhost:8126/v0.7/config".toList)
        (start (makeTracer exampleOps (List.map Char.toLower)
          (.new { defaultValue := [], envValue := none, codeValue := none }) true)) l tracer ∧
      l.flatMap (pollCalls webAgent) = [.update webRulesJson (some "7".toList)] ∧
      tracer.worker.client.config.value = [webRule] ∧
      tracer.worker.client.config.traceSamplingRules.configId = some "7".toList ∧
      tracer.sampler.rules.inner =
        SamplingRule.fromConfigs exampleOps (List.map Char.toLower)
          tracer.worker.client.config.value := by
  obtain ⟨l, tracer, hrun, hcalls⟩ : ∃ l tracer,
      Machine.Run (machine webAgent "http://localhost:8126/v0.7/config".toList)
        (start (makeTracer exampleOps (List.map Char.toLower)
          (.new { defaultValue := [], envValue := none, codeValue := none }) true)) l tracer ∧
      l.flatMap (pollCalls webAgent) = [.update webRulesJson (some "7".toList)] := by
    have hpoll : ∃ output tracer,
        machine webAgent "http://localhost:8126/v0.7/config".toList
          (start (makeTracer exampleOps (List.map Char.toLower)
            (.new { defaultValue := [], envValue := none, codeValue := none }) true))
          (.poll RemoteConfigClient.exampleSettings) = some (tracer, output) ∧
        tracer.worker.phase = .fetching := ⟨_, _, rfl, rfl⟩
    rcases hpoll with ⟨output, fetching, hpoll, hphase⟩
    have hanswer : ∃ output tracer,
        machine webAgent "http://localhost:8126/v0.7/config".toList fetching
          (.answer RemoteConfigClientWorker.exampleAnswer) = some (tracer, output) := by
      rcases fetching with ⟨⟨client, phase⟩, callback, sampler⟩
      cases hphase
      exact ⟨_, _, rfl⟩
    rcases hanswer with ⟨output', tracer, hanswer⟩
    refine ⟨_, tracer, (Machine.Run.start.step hpoll).step hanswer, ?_⟩
    have hread : readAnswer webAgent RemoteConfigClientWorker.exampleAnswer = .ok webResponse := rfl
    simp only [List.nil_append, List.cons_append, List.flatMap_cons, List.flatMap_nil, pollCalls,
      hread, responseCalls_web, List.append_nil]
  have hparse : webAgent.parseRules webRulesJson = .ok [webRule] := rfl
  have heffect : lastEffect webAgent.parseRules [.update webRulesJson (some "7".toList)] =
      some (some [webRule], some "7".toList) := by
    simp [lastEffect, RulesCall.effect, hparse]
  rcases polls_refine_calls exampleOps (List.map Char.toLower) hrun with
    ⟨-, hvalue, hconfigId, hsampler⟩
  rw [hcalls, remoteRules, heffect] at hvalue
  rw [hcalls, lastConfigId, heffect] at hconfigId
  exact ⟨l, tracer, hrun, hcalls, hvalue, hconfigId, hsampler⟩

end RemoteTracer

end TraceSampling
end DdTrace
