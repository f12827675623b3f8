import DdTrace.Lib.Machine
import DdTrace.TraceSampling.SamplingRule

/-!
# RulesPrecedence — the rules in effect, in the configuration and in the sampler

A tracer has the rules twice: in the configuration, layer by layer, and in the sampler, where a callback
replaces them.  After any calls to the configuration the last one that was not refused decides
(`rules_in_step`): its rules are in effect, or the local ones, and the sampler has their image.
-/

namespace DdTrace
namespace TraceSampling

open DdTrace.Lib DdTrace.Core

/-! ## The tracer -/

/-- What `make_tracer` connects: a configuration, its callback, and a sampler. -/
structure RulesWiring where
  config : SamplingRules
  samplingRulesUpdate : Option (List SamplingRuleConfig → DatadogSampler → DatadogSampler)
  sampler : DatadogSampler

section Machine

variable (ops : F64Ops) (lower : Str → Str)

/-- The callback is registered if remote configuration is enabled. -/
def makeTracer (config : SamplingRules) (remoteConfigEnabled : Bool) : RulesWiring :=
  { config := config
    samplingRulesUpdate :=
      if remoteConfigEnabled then some (DatadogSampler.onRulesUpdate ops lower) else none
    sampler := .new (SamplingRule.fromConfigs ops lower config.value) }

/-- The two entry points of remote configuration. -/
inductive RulesCall
  | update (rulesJson : Str) (configId : Option Str)
  | clear (configId : Option Str)

variable (parseRules : Str → Except Str (List SamplingRuleConfig))

def RulesCall.run (config : SamplingRules) : RulesCall → Except Str Unit × SamplingRules
  | .update rulesJson configId =>
      config.updateSamplingRulesFromRemote parseRules rulesJson configId
  | .clear configId => (.ok (), config.clearRemoteSamplingRules configId)

namespace RulesWiring

/-- The callback runs for each notification that the configuration made. -/
def notify (self : RulesWiring) (notified : List (List SamplingRuleConfig)) : RulesWiring :=
  match self.samplingRulesUpdate with
  | none => self
  | some callback =>
      { self with sampler := notified.foldl (fun sampler rules => callback rules sampler) self.sampler }

/-- A call, with its result and the rules that the callback was notified of. -/
def machine : Machine RulesWiring RulesCall (Except Str Unit × List (List SamplingRuleConfig)) :=
  fun self call =>
    let (result, config) := call.run parseRules self.config
    let notified := config.updates.drop self.config.updates.length
    some (notify { self with config := config } notified, (result, notified))

end RulesWiring

/-! ## What a history of calls says -/

/-- What a call sets: the remote rules, if there are any, and the config id.  Rules that cannot be read
set nothing, an empty list of rules takes the remote rules back. -/
def RulesCall.effect : RulesCall → Option (Option (List SamplingRuleConfig) × Option Str)
  | .update rulesJson configId =>
      match parseRules rulesJson with
      | .error _ => none
      | .ok [] => some (none, configId)
      | .ok (rule :: rules) => some (some (rule :: rules), configId)
  | .clear configId => some (none, configId)

/-- What the last call set that set anything. -/
def lastEffect (calls : List RulesCall) : Option (Option (List SamplingRuleConfig) × Option Str) :=
  (calls.filterMap (RulesCall.effect parseRules)).getLast?

/-- The rules of the last nonempty update that no clear and no empty update follows. -/
def remoteRules (calls : List RulesCall) : Option (List SamplingRuleConfig) :=
  (lastEffect parseRules calls).bind Prod.fst

/-- The config id of the last call that succeeded. -/
def lastConfigId (calls : List RulesCall) : Option Str :=
  (lastEffect parseRules calls).bind Prod.snd

theorem lastEffect_concat (calls : List RulesCall) (call : RulesCall) :
    lastEffect parseRules (calls ++ [call]) =
      (call.effect parseRules).or (lastEffect parseRules calls) := by
  unfold lastEffect
  rw [List.filterMap_append]
  cases heffect : call.effect parseRules with
  | none => simp [heffect]
  | some set => simp [heffect]

/-! ## A call -/

/-- A call that sets nothing fails and leaves the configuration alone. -/
theorem RulesCall.run_of_effect_none {call : RulesCall} (h : call.effect parseRules = none)
    (config : SamplingRules) : ∃ e, call.run parseRules config = (.error e, config) := by
  cases call with
  | update rulesJson configId =>
      cases hparse : parseRules rulesJson with
      | error e => exact ⟨_, config.updateSamplingRulesFromRemote_of_error configId hparse⟩
      | ok rules =>
          cases rules with
          | nil => simp [effect, hparse] at h
          | cons rule rules => simp [effect, hparse] at h
  | clear configId => cases h

/-- Any other call sets the override and the config id, and the callback is notified once, of the rules
that are in effect then. -/
theorem RulesCall.run_of_effect_some {call : RulesCall} {rules : Option (List SamplingRuleConfig)}
    {configId : Option Str} (h : call.effect parseRules = some (rules, configId))
    (config : SamplingRules) :
    (call.run parseRules config).1 = .ok () ∧
      (call.run parseRules config).2.traceSamplingRules =
        { config.traceSamplingRules with overrideValue := rules, configId := configId } ∧
      (call.run parseRules config).2.updates =
        config.updates ++ [(call.run parseRules config).2.value] := by
  cases call with
  | update rulesJson id =>
      cases hparse : parseRules rulesJson with
      | error e => simp [effect, hparse] at h
      | ok parsed =>
          cases parsed with
          | nil =>
              simp only [effect, hparse, Option.some.injEq, Prod.mk.injEq] at h
              rcases h with ⟨rfl, rfl⟩
              simp only [run, config.updateSamplingRulesFromRemote_of_nil id hparse]
              exact ⟨trivial, rfl, rfl⟩
          | cons rule rest =>
              simp only [effect, hparse, Option.some.injEq, Prod.mk.injEq] at h
              rcases h with ⟨rfl, rfl⟩
              rcases config.updateSamplingRulesFromRemote_of_ne_nil id hparse
                (List.cons_ne_nil rule rest) with ⟨hresult, hitem, hupdates⟩
              refine ⟨hresult, hitem, ?_⟩
              simp only [run, hupdates, SamplingRules.value, hitem, ConfigItemWithOverride.value,
                Option.getD_some]
  | clear id =>
      simp only [effect, Option.some.injEq, Prod.mk.injEq] at h
      rcases h with ⟨rfl, rfl⟩
      exact ⟨rfl, rfl, rfl⟩

namespace RulesWiring

theorem notify_nil (self : RulesWiring) : notify self [] = self := by
  rcases self with ⟨config, callback, sampler⟩
  cases callback with
  | none => rfl
  | some callback => rfl

/-- A call that sets nothing changes nothing, and the callback is not called. -/
theorem machine_of_effect_none {call : RulesCall} (h : call.effect parseRules = none)
    (self : RulesWiring) :
    ∃ e, machine parseRules self call = some (self, (.error e, [])) := by
  rcases call.run_of_effect_none parseRules h self.config with ⟨e, hrun⟩
  exact ⟨e, by simp only [machine, hrun, List.drop_length, notify_nil]⟩

/-- Any other call changes the configuration, and hands the rules in effect to the sampler. -/
theorem machine_of_effect_some {call : RulesCall} {rules : Option (List SamplingRuleConfig)}
    {configId : Option Str} (h : call.effect parseRules = some (rules, configId))
    {self : RulesWiring}
    (hcallback : self.samplingRulesUpdate = some (DatadogSampler.onRulesUpdate ops lower)) :
    ∃ config, machine parseRules self call =
        some
          ({ self with
              config := config
              sampler := DatadogSampler.onRulesUpdate ops lower config.value self.sampler },
            (.ok (), [config.value])) ∧
      config.traceSamplingRules =
        { self.config.traceSamplingRules with overrideValue := rules, configId := configId } := by
  rcases call.run_of_effect_some parseRules h self.config with ⟨hresult, hitem, hupdates⟩
  refine ⟨_, ?_, hitem⟩
  simp only [machine, hresult, hupdates, List.drop_left, notify, hcallback, List.foldl_cons,
    List.foldl_nil]

end RulesWiring

/-! ## Every history -/

/-- The configuration has the rules and the id that the calls left, and the sampler has the image of the
rules in effect. -/
structure InStep (item : ConfigItem (List SamplingRuleConfig)) (calls : List RulesCall)
    (wiring : RulesWiring) : Prop where
  rules : wiring.config.traceSamplingRules =
    { configItem := item
      overrideValue := remoteRules parseRules calls
      overrideOrigin := .remoteConfig
      configId := lastConfigId parseRules calls }
  callback : wiring.samplingRulesUpdate = some (DatadogSampler.onRulesUpdate ops lower)
  sampler : wiring.sampler.rules.inner = SamplingRule.fromConfigs ops lower wiring.config.value

/-- The tracer starts in step. -/
theorem InStep.makeTracer (item : ConfigItem (List SamplingRuleConfig)) :
    InStep ops lower parseRules item [] (makeTracer ops lower (.new item) true) :=
  ⟨rfl, rfl, rfl⟩

variable {ops lower parseRules}

/-- Each call keeps it in step. -/
theorem InStep.step {item : ConfigItem (List SamplingRuleConfig)} {calls : List RulesCall}
    {wiring next : RulesWiring} {call : RulesCall}
    {output : Except Str Unit × List (List SamplingRuleConfig)}
    (h : InStep ops lower parseRules item calls wiring)
    (hstep : RulesWiring.machine parseRules wiring call = some (next, output)) :
    InStep ops lower parseRules item (calls ++ [call]) next := by
  cases heffect : call.effect parseRules with
  | none =>
      -- refused: the last effect is that of an earlier call
      rcases RulesWiring.machine_of_effect_none parseRules heffect wiring with ⟨e, hmachine⟩
      cases hmachine.symm.trans hstep
      refine ⟨?_, h.callback, h.sampler⟩
      simp only [remoteRules, lastConfigId, lastEffect_concat, heffect, Option.none_or]
      exact h.rules
  | some set =>
      rcases set with ⟨rules, configId⟩
      rcases RulesWiring.machine_of_effect_some ops lower parseRules heffect h.callback with
        ⟨config, hmachine, hitem⟩
      cases hmachine.symm.trans hstep
      refine ⟨?_, h.callback, rfl⟩
      simp only [remoteRules, lastConfigId, lastEffect_concat, heffect, Option.some_or,
        Option.bind_some]
      rw [hitem, h.rules]

/-- After any calls to the configuration of a tracer with remote configuration: the rules in effect are
those of the last remote update, unless they were taken back; else those set in code, else those of the
environment, else the default.  The config id is that of the last call that succeeded, the sampler has
the image of the rules in effect, and an update that cannot be read changes none of this and notifies
nobody. -/
theorem rules_in_step {item : ConfigItem (List SamplingRuleConfig)}
    {l : List (RulesCall × (Except Str Unit × List (List SamplingRuleConfig)))}
    {wiring : RulesWiring}
    (h : Machine.Run (RulesWiring.machine parseRules) (makeTracer ops lower (.new item) true) l
      wiring) :
    wiring.config.value =
        (remoteRules parseRules (l.map Prod.fst)).getD
          ((item.codeValue.or item.envValue).getD item.defaultValue) ∧
      wiring.config.traceSamplingRules.configId = lastConfigId parseRules (l.map Prod.fst) ∧
      wiring.sampler.rules.inner = SamplingRule.fromConfigs ops lower wiring.config.value ∧
      ∀ rulesJson configId e, parseRules rulesJson = .error e →
        ∃ message, RulesWiring.machine parseRules wiring (.update rulesJson configId) =
          some (wiring, (.error message, [])) := by
  have hinstep : InStep ops lower parseRules item (l.map Prod.fst) wiring :=
    h.invariant (I := fun l wiring => InStep ops lower parseRules item (l.map Prod.fst) wiring)
      (.makeTracer ops lower parseRules item)
      (fun _ hI hstep => by simpa using hI.step hstep)
  refine ⟨?_, ?_, hinstep.sampler, ?_⟩
  · simp only [SamplingRules.value, hinstep.rules, ConfigItemWithOverride.value, ConfigItem.value]
  · rw [hinstep.rules]
  · intro rulesJson configId e hparse
    exact RulesWiring.machine_of_effect_none parseRules
      (by simp only [RulesCall.effect, hparse]) wiring

/-- One rule, which keeps half of the traces of a service. -/
def webRule : SamplingRuleConfig :=
  { sampleRate := 0x3FE0000000000000
    service := some "web".toList
    name := none
    resource := none
    tags := ∅
    provenance := "default".toList }

/-- What the JSON parser makes of this rule, of no rules, and of anything else. -/
def exampleParse (rulesJson : Str) : Except Str (List SamplingRuleConfig) :=
  if rulesJson = "[\x7b\"sample_rate\":0.5,\"service\":\"web\"\x7d]".toList then .ok [webRule]
  else if rulesJson = "[]".toList then .ok []
  else .error "expected value at line 1 column 1".toList

/-- What the operations on doubles make of the rate of this rule. -/
def exampleOps : F64Ops :=
  { clamp := fun rate _ _ => rate
    ge := fun _ _ => false
    mul := fun _ _ => 0x43E0000000000000
    ofU64 := fun _ => 0x43F0000000000000
    toU64 := fun _ => 0x8000000000000000 }

/-- An update, a clear, the update again, and one that cannot be read. -/
def exampleCalls : List RulesCall :=
  [.update "[\x7b\"sample_rate\":0.5,\"service\":\"web\"\x7d]".toList (some "1".toList),
    .clear (some "2".toList),
    .update "[\x7b\"sample_rate\":0.5,\"service\":\"web\"\x7d]".toList (some "3".toList),
    .update "rules".toList (some "4".toList)]

theorem rules_in_step_example :
    ∃ l wiring,
      Machine.Run (RulesWiring.machine exampleParse)
        (makeTracer exampleOps (List.map Char.toLower)
          (.new { defaultValue := [], envValue := none, codeValue := none }) true) l wiring ∧
      l.map Prod.fst = exampleCalls ∧
      wiring.config.value = [webRule] ∧
      wiring.config.traceSamplingRules.configId = some "3".toList ∧
      wiring.sampler.rules.inner =
        SamplingRule.fromConfigs exampleOps (List.map Char.toLower) wiring.config.value := by
  obtain ⟨l, wiring, hexec, hcalls⟩ : ∃ l wiring,
      Machine.exec (RulesWiring.machine exampleParse)
        (makeTracer exampleOps (List.map Char.toLower)
          (.new { defaultValue := [], envValue := none, codeValue := none }) true) exampleCalls =
        some (wiring, l) ∧ l.map Prod.fst = exampleCalls := ⟨_, _, rfl, rfl⟩
  have hrun := Machine.run_of_exec exampleCalls hexec
  rcases rules_in_step hrun with ⟨hvalue, hconfigId, hsampler, -⟩
  rw [hcalls] at hvalue hconfigId
  exact ⟨l, wiring, hrun, hcalls, hvalue, hconfigId, hsampler⟩

end Machine

end TraceSampling
end DdTrace
