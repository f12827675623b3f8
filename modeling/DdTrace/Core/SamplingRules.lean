import DdTrace.Core.Config
import DdTrace.Lib.HashMap

/-!
# SamplingRules — the sampling rules of a configuration

The sampling rules have a default, may be set by the environment or in code, and are overridden by
remote configuration while the tracer runs.  The value in effect is the override if there is one.
-/

namespace DdTrace
namespace Core

open Lib

/-- The rate is read as a double. -/
structure SamplingRuleConfig where
  sampleRate : F64
  service : Option Str
  name : Option Str
  resource : Option Str
  tags : HashMap Str Str
  provenance : Str

inductive ConfigSourceOrigin
  | default
  | envVar
  | code
  | remoteConfig
  deriving DecidableEq, Repr

/-! ## Items -/

structure ConfigItem (α : Type*) where
  defaultValue : α
  envValue : Option α
  codeValue : Option α

/-- The code value, else the environment value, else the default. -/
def ConfigItem.value {α : Type*} (self : ConfigItem α) : α :=
  (self.codeValue.or self.envValue).getD self.defaultValue

structure ConfigItemWithOverride (α : Type*) where
  configItem : ConfigItem α
  overrideValue : Option α
  overrideOrigin : ConfigSourceOrigin
  configId : Option Str

namespace ConfigItemWithOverride

variable {α : Type*}

/-- An item that remote configuration overrides. -/
def newRc (configItem : ConfigItem α) : ConfigItemWithOverride α :=
  { configItem := configItem
    overrideValue := none
    overrideOrigin := .remoteConfig
    configId := none }

/-- The override is replaced only by its own origin. -/
def setOverrideValue (self : ConfigItemWithOverride α) (value : α) (source : ConfigSourceOrigin) :
    ConfigItemWithOverride α :=
  if source = self.overrideOrigin then { self with overrideValue := some value } else self

def setConfigId (self : ConfigItemWithOverride α) (configId : Option Str) :
    ConfigItemWithOverride α :=
  { self with configId := configId }

def unsetOverrideValue (self : ConfigItemWithOverride α) : ConfigItemWithOverride α :=
  { self with overrideValue := none }

def value (self : ConfigItemWithOverride α) : α := self.overrideValue.getD self.configItem.value

@[simp] theorem overrideOrigin_setOverrideValue (self : ConfigItemWithOverride α) (value : α)
    (source : ConfigSourceOrigin) :
    (self.setOverrideValue value source).overrideOrigin = self.overrideOrigin := by
  unfold setOverrideValue
  split <;> rfl

end ConfigItemWithOverride

/-! ## Updates from remote configuration -/

/-- The sampling rules of a configuration, and the rules that its callback was notified of so far.
Their item is one that remote configuration overrides. -/
structure SamplingRules where
  traceSamplingRules : ConfigItemWithOverride (List SamplingRuleConfig)
  updates : List (List SamplingRuleConfig)
  isRemote : traceSamplingRules.overrideOrigin = .remoteConfig

namespace SamplingRules

/-- The rules in effect. -/
def value (self : SamplingRules) : List SamplingRuleConfig := self.traceSamplingRules.value

/-- The rules before any remote update. -/
def new (configItem : ConfigItem (List SamplingRuleConfig)) : SamplingRules :=
  { traceSamplingRules := .newRc configItem
    updates := []
    isRemote := rfl }

/-- The callback is notified of the rules in effect. -/
def notifyUpdate (self : SamplingRules) : SamplingRules :=
  { self with updates := self.updates ++ [self.value] }

def clearRemoteSamplingRules (self : SamplingRules) (configId : Option Str) : SamplingRules :=
  notifyUpdate
    { self with
      traceSamplingRules :=
        self.traceSamplingRules.unsetOverrideValue.setConfigId configId }

/-- `parseRules` reads a JSON array of rules. -/
def updateSamplingRulesFromRemote (parseRules : Str → Except Str (List SamplingRuleConfig))
    (self : SamplingRules) (rulesJson : Str) (configId : Option Str) :
    Except Str Unit × SamplingRules :=
  match parseRules rulesJson with
  | .error e => (.error ("Failed to parse sampling rules JSON: ".toList ++ e), self)
  | .ok rules =>
      -- Empty rules fall back to the local ones.
      if rules.isEmpty then (.ok (), self.clearRemoteSamplingRules configId)
      else
        (.ok (),
          notifyUpdate
            { self with
              traceSamplingRules :=
                (self.traceSamplingRules.setOverrideValue rules .remoteConfig).setConfigId configId
              isRemote := by simpa [ConfigItemWithOverride.setConfigId] using self.isRemote })

@[simp] theorem configItem_clearRemoteSamplingRules (self : SamplingRules)
    (configId : Option Str) :
    (self.clearRemoteSamplingRules configId).traceSamplingRules.configItem =
      self.traceSamplingRules.configItem :=
  rfl

@[simp] theorem overrideValue_clearRemoteSamplingRules (self : SamplingRules)
    (configId : Option Str) :
    (self.clearRemoteSamplingRules configId).traceSamplingRules.overrideValue = none :=
  rfl

section Update

variable {parseRules : Str → Except Str (List SamplingRuleConfig)} {rulesJson : Str}
variable (self : SamplingRules) (configId : Option Str)

/-- Rules that cannot be read change nothing. -/
theorem updateSamplingRulesFromRemote_of_error {e : Str} (h : parseRules rulesJson = .error e) :
    self.updateSamplingRulesFromRemote parseRules rulesJson configId =
      (.error ("Failed to parse sampling rules JSON: ".toList ++ e), self) := by
  simp only [updateSamplingRulesFromRemote, h]

theorem updateSamplingRulesFromRemote_of_nil (h : parseRules rulesJson = .ok []) :
    self.updateSamplingRulesFromRemote parseRules rulesJson configId =
      (.ok (), self.clearRemoteSamplingRules configId) := by
  simp only [updateSamplingRulesFromRemote, h, List.isEmpty_nil, if_true]

/-- Other rules become the override, and the callback is notified of them. -/
theorem updateSamplingRulesFromRemote_of_ne_nil {rules : List SamplingRuleConfig}
    (h : parseRules rulesJson = .ok rules) (hne : rules ≠ []) :
    (self.updateSamplingRulesFromRemote parseRules rulesJson configId).1 = .ok () ∧
      (self.updateSamplingRulesFromRemote parseRules rulesJson configId).2.traceSamplingRules =
        { self.traceSamplingRules with overrideValue := some rules, configId := configId } ∧
      (self.updateSamplingRulesFromRemote parseRules rulesJson configId).2.updates =
        self.updates ++ [rules] := by
  have hempty : rules.isEmpty = false := List.isEmpty_eq_false_iff.2 hne
  have hremote := self.isRemote
  have hset : (self.traceSamplingRules.setOverrideValue rules .remoteConfig).setConfigId configId =
      { self.traceSamplingRules with overrideValue := some rules, configId := configId } := by
    simp only [ConfigItemWithOverride.setOverrideValue, ConfigItemWithOverride.setConfigId, hremote,
      if_true]
  simp only [updateSamplingRulesFromRemote, h, hempty, Bool.false_eq_true, if_false]
  refine ⟨trivial, hset, ?_⟩
  simp only [notifyUpdate, value, hset, ConfigItemWithOverride.value, Option.getD_some]

end Update

end SamplingRules

end Core
end DdTrace
