import DdTrace.Otel.Registry
import Mathlib.Logic.Function.Basic

/-!
# TraceRegistry — the registry in shards

The traces are spread over 64 registries by the hash of their ids, so that threads do not wait for
each other.  Each operation works on one shard; the entries behave as if there was only one
(`trace_call`).
-/

namespace DdTrace
namespace Otel

open DdTrace.Lib DdTrace.Core

def TRACE_REGISTRY_SHARDS : Nat := 64

/-- The shards, and the hash that chooses among them. -/
structure TraceRegistry where
  inner : Fin TRACE_REGISTRY_SHARDS → InnerTraceRegistry
  hasher : TraceId → Nat

namespace TraceRegistry

def new (config : Config) (hasher : TraceId → Nat) : TraceRegistry :=
  { inner := fun _ => .new config, hasher := hasher }

def getShard (self : TraceRegistry) (traceId : TraceId) : Fin TRACE_REGISTRY_SHARDS :=
  ⟨self.hasher traceId % TRACE_REGISTRY_SHARDS, Nat.mod_lt _ (by decide)⟩

/-- The registry with another state of the shard of a trace. -/
def setShard (self : TraceRegistry) (traceId : TraceId) (shard : InnerTraceRegistry) :
    TraceRegistry :=
  { self with inner := Function.update self.inner (self.getShard traceId) shard }

def registerLocalRootTracePropagationData (self : TraceRegistry) (traceId : TraceId)
    (propagationData : TracePropagationData) : RegisterTracePropagationResult × TraceRegistry :=
  let (result, shard) :=
    (self.inner (self.getShard traceId)).registerLocalRootTracePropagationData traceId
      propagationData
  (result, self.setShard traceId shard)

def registerLocalRootSpan (self : TraceRegistry) (traceId : TraceId) (rootSpanId : SpanId) :
    TraceRegistry :=
  self.setShard traceId
    ((self.inner (self.getShard traceId)).registerLocalRootSpan traceId rootSpanId)

def registerSpan (self : TraceRegistry) (traceId : TraceId) (spanId : SpanId)
    (propagationData : TracePropagationData) : TraceRegistry :=
  self.setShard traceId
    ((self.inner (self.getShard traceId)).registerSpan traceId spanId propagationData)

def finishSpan (self : TraceRegistry) (traceId : TraceId) (spanData : SpanData) :
    Option Trace × TraceRegistry :=
  let (chunk, shard) := (self.inner (self.getShard traceId)).finishSpan traceId spanData
  (chunk, self.setShard traceId shard)

def getTracePropagationData (self : TraceRegistry) (traceId : TraceId) : TracePropagationData :=
  (self.inner (self.getShard traceId)).getTracePropagationData traceId

/-! ## Entries -/

/-- The entry of a trace. -/
def trace (self : TraceRegistry) (traceId : TraceId) : Option Trace :=
  (self.inner (self.getShard traceId)).registry.lookup traceId

/-- A call on the shard of its trace. -/
def call (self : TraceRegistry) (c : RegistryCall) : Option Trace × TraceRegistry :=
  let (chunk, shard) := (self.inner (self.getShard c.traceId)).call c
  (chunk, self.setShard c.traceId shard)

/-- A call moves the entry of its trace as `Entry.step` says, and no other entry. -/
theorem trace_call (self : TraceRegistry) (c : RegistryCall) (t : TraceId) :
    (self.call c).2.trace t =
      if t = c.traceId then
        (Entry.step (self.inner (self.getShard c.traceId)).config (self.trace t) c.op).2
      else self.trace t := by
  have hshard : (self.call c).2.getShard t = self.getShard t := rfl
  have hinner : (self.call c).2.inner = Function.update self.inner (self.getShard c.traceId)
      ((self.inner (self.getShard c.traceId)).call c).2 := rfl
  simp only [trace, hshard, hinner]
  by_cases hsame : self.getShard t = self.getShard c.traceId
  · rw [hsame, Function.update_self, InnerTraceRegistry.lookup_call]
  · -- another shard holds another trace
    have hne : t ≠ c.traceId := fun heq => hsame (by rw [heq])
    rw [Function.update_of_ne hsame, if_neg hne]

theorem chunk_call (self : TraceRegistry) (c : RegistryCall) :
    (self.call c).1 =
      (Entry.step (self.inner (self.getShard c.traceId)).config (self.trace c.traceId) c.op).1 :=
  (self.inner (self.getShard c.traceId)).chunk_call c

/-! ## The operations as calls -/

theorem registerLocalRootTracePropagationData_eq (self : TraceRegistry) (traceId : TraceId)
    (propagationData : TracePropagationData) :
    (self.registerLocalRootTracePropagationData traceId propagationData).2 =
      (self.call ⟨traceId, .registerLocalRootTracePropagationData propagationData⟩).2 := rfl

theorem registerLocalRootSpan_eq (self : TraceRegistry) (traceId : TraceId)
    (rootSpanId : SpanId) :
    self.registerLocalRootSpan traceId rootSpanId =
      (self.call ⟨traceId, .registerLocalRootSpan rootSpanId⟩).2 := rfl

theorem registerSpan_eq (self : TraceRegistry) (traceId : TraceId) (spanId : SpanId)
    (propagationData : TracePropagationData) :
    self.registerSpan traceId spanId propagationData =
      (self.call ⟨traceId, .registerSpan spanId propagationData⟩).2 := rfl

theorem finishSpan_eq (self : TraceRegistry) (traceId : TraceId) (spanData : SpanData) :
    self.finishSpan traceId spanData = self.call ⟨traceId, .finishSpan spanData⟩ := rfl

/-- What is propagated with a trace is read off its entry. -/
theorem getTracePropagationData_eq (self : TraceRegistry) (traceId : TraceId) :
    self.getTracePropagationData traceId =
      (self.trace traceId).elim emptyPropagationData (·.propagationData) := by
  unfold getTracePropagationData trace InnerTraceRegistry.getTracePropagationData
  cases (self.inner (self.getShard traceId)).registry.lookup traceId with
  | none => rfl
  | some entry => rfl

/-- The answer to a reservation: the decision that is stored already, if it has a priority. -/
theorem registerLocalRootTracePropagationData_result (self : TraceRegistry) (traceId : TraceId)
    (propagationData : TracePropagationData) :
    (self.registerLocalRootTracePropagationData traceId propagationData).1 =
      match self.trace traceId with
      | some entry =>
          if entry.propagationData.samplingDecision.priority.isSome then
            .existing entry.propagationData.samplingDecision
          else .new
      | none => .new := by
  unfold registerLocalRootTracePropagationData trace
    InnerTraceRegistry.registerLocalRootTracePropagationData
  cases (self.inner (self.getShard traceId)).registry.lookup traceId with
  | none => rfl
  | some entry =>
      -- the data of the entry is replaced, or its decision returned
      simp only
      split <;> rfl

end TraceRegistry

end Otel
end DdTrace
