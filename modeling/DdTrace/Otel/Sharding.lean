import DdTrace.Otel.RegistryMetrics

/-!
# Sharding — the shards behave as one registry

The registry in shards is compared with one registry that gets the same requests.  A shard and the
one registry agree on the entries of the traces that hash to the shard, and an answer depends on the
entry of its trace alone; the metrics agree once what was drained is added.
-/

namespace DdTrace
namespace Otel

open DdTrace.Lib DdTrace.Core

/-! ## A request depends on one entry -/

namespace InnerTraceRegistry

theorem handle_call (self : InnerTraceRegistry) (c : RegistryCall) :
    (self.handle (.call c)).2 = (self.call c).2 := by
  rcases c with ⟨traceId, op⟩
  cases op with
  | registerLocalRootTracePropagationData propagationData => rfl
  | registerLocalRootSpan rootSpanId => rfl
  | registerSpan spanId propagationData => rfl
  | finishSpan spanData => rfl

theorem config_handle (self : InnerTraceRegistry) (r : RegistryRequest) :
    (self.handle r).2.config = self.config := by
  cases r with
  | call c => rw [handle_call, config_call]
  | getTracePropagationData traceId => rfl
  | getLocalRootSpanId traceId => rfl

/-- A request leaves the entries of the other traces as they are. -/
theorem lookup_handle_of_ne (self : InnerTraceRegistry) (r : RegistryRequest) {t : TraceId}
    (ht : t ≠ r.traceId) : (self.handle r).2.registry.lookup t = self.registry.lookup t := by
  cases r with
  | call c =>
      rw [handle_call, lookup_call]
      exact if_neg ht
  | getTracePropagationData traceId => rfl
  | getLocalRootSpanId traceId => rfl

variable {a b : InnerTraceRegistry} {r : RegistryRequest}

/-- Two registries that agree on the entry of a trace give the same answer to a request for it. -/
theorem result_congr (hconfig : a.config = b.config)
    (hentry : a.registry.lookup r.traceId = b.registry.lookup r.traceId) :
    (a.handle r).1 = (b.handle r).1 := by
  cases r with
  | call c =>
      rcases c with ⟨traceId, op⟩
      have hlookup : a.registry.lookup traceId = b.registry.lookup traceId := hentry
      cases op with
      | registerLocalRootTracePropagationData propagationData =>
          simp only [handle, registerLocalRootTracePropagationData, hlookup]
          cases b.registry.lookup traceId with
          | none => rfl
          | some trace =>
              simp only
              split_ifs <;> rfl
      | registerLocalRootSpan rootSpanId => rfl
      | registerSpan spanId propagationData => rfl
      | finishSpan spanData =>
          have hchunk : (a.call ⟨traceId, .finishSpan spanData⟩).1 =
              (b.call ⟨traceId, .finishSpan spanData⟩).1 := by
            simp only [chunk_call, hconfig, hlookup]
          exact congrArg RegistryResult.finished hchunk
  | getTracePropagationData traceId =>
      have hlookup : a.registry.lookup traceId = b.registry.lookup traceId := hentry
      simp only [handle, getTracePropagationData, hlookup]
  | getLocalRootSpanId traceId =>
      have hlookup : a.registry.lookup traceId = b.registry.lookup traceId := hentry
      simp only [handle, getLocalRootSpanId, hlookup]

/-- They agree on the entry after the request. -/
theorem lookup_congr (hconfig : a.config = b.config)
    (hentry : a.registry.lookup r.traceId = b.registry.lookup r.traceId) :
    (a.handle r).2.registry.lookup r.traceId = (b.handle r).2.registry.lookup r.traceId := by
  cases r with
  | call c =>
      have hlookup : a.registry.lookup c.traceId = b.registry.lookup c.traceId := hentry
      simp only [RegistryRequest.traceId, handle_call, lookup_call, hconfig, hlookup]
  | getTracePropagationData traceId => exact hentry
  | getLocalRootSpanId traceId => exact hentry

/-- They count the same. -/
theorem metrics_congr (hconfig : a.config = b.config)
    (hentry : a.registry.lookup r.traceId = b.registry.lookup r.traceId) :
    ∃ counted, (a.handle r).2.metrics = a.metrics + counted ∧
      (b.handle r).2.metrics = b.metrics + counted := by
  cases r with
  | call c =>
      have hlookup : a.registry.lookup c.traceId = b.registry.lookup c.traceId := hentry
      refine ⟨Entry.counts b.config (b.registry.lookup c.traceId) c.op, ?_, ?_⟩
      · rw [handle_call, metrics_call, hconfig, hlookup]
      · rw [handle_call, metrics_call]
  | getTracePropagationData traceId => exact ⟨0, rfl, rfl⟩
  | getLocalRootSpanId traceId => exact ⟨0, rfl, rfl⟩

end InnerTraceRegistry

/-! ## The shards and the one registry -/

namespace TraceRegistry

/-- A request is handled by the shard of its trace. -/
theorem handle_eq (self : TraceRegistry) (r : RegistryRequest) :
    self.handle r =
      (((self.inner (self.getShard r.traceId)).handle r).1,
        self.setShard r.traceId ((self.inner (self.getShard r.traceId)).handle r).2) := by
  cases r with
  | call c =>
      rcases c with ⟨traceId, op⟩
      cases op with
      | registerLocalRootTracePropagationData propagationData => rfl
      | registerLocalRootSpan rootSpanId => rfl
      | registerSpan spanId propagationData => rfl
      | finishSpan spanData => rfl
  | getTracePropagationData traceId =>
      -- a shard that is only read is written back as it was
      have hsame : self.setShard traceId (self.inner (self.getShard traceId)) = self := by
        simp [setShard]
      exact Prod.ext rfl hsame.symm
  | getLocalRootSpanId traceId =>
      have hsame : self.setShard traceId (self.inner (self.getShard traceId)) = self := by
        simp [setShard]
      exact Prod.ext rfl hsame.symm

/-- After the history `l`, the registry in shards is the registry `single` spread over its shards. -/
structure Spreads (l : List (Event × Output)) (sharded : TraceRegistry)
    (single : InnerTraceRegistry) : Prop where
  entries : ∀ t, sharded.trace t = single.registry.lookup t
  configs : ∀ shardIdx, (sharded.inner shardIdx).config = single.config
  metrics : drainedMetrics l + sharded.shardMetrics = single.metrics

theorem Spreads.start (config : Config) (hasher : TraceId → Nat) :
    Spreads [] (new config hasher) (.new config) := by
  refine ⟨?_, ?_, ?_⟩
  · intro t
    rfl
  · intro shardIdx
    rfl
  · have hzero : (new config hasher).shardMetrics = 0 := Finset.sum_const_zero
    rw [drainedMetrics_nil, hzero]
    rfl

variable {l : List (Event × Output)} {sharded : TraceRegistry} {single : InnerTraceRegistry}

/-- The entry of a trace after another state was put into the shard of a trace. -/
theorem trace_setShard (traceId : TraceId) (shard : InnerTraceRegistry) (t : TraceId) :
    (sharded.setShard traceId shard).trace t =
      if sharded.getShard t = sharded.getShard traceId then shard.registry.lookup t
      else sharded.trace t := by
  have htrace : (sharded.setShard traceId shard).trace t =
      (Function.update sharded.inner (sharded.getShard traceId) shard
        (sharded.getShard t)).registry.lookup t := rfl
  rw [htrace]
  by_cases hshard : sharded.getShard t = sharded.getShard traceId
  · rw [if_pos hshard, hshard, Function.update_self]
  · rw [if_neg hshard, Function.update_of_ne hshard]
    rfl

/-- A request of the shards is answered as the same request of the one registry. -/
theorem Spreads.request (h : Spreads l sharded single) (r : RegistryRequest) :
    (sharded.handle r).1 = (single.handle r).1 ∧
      Spreads (l ++ [(.request r, .result (sharded.handle r).1)]) (sharded.handle r).2
        (single.handle r).2 := by
  -- the shard of the trace and the one registry agree on its entry
  have hconfig := h.configs (sharded.getShard r.traceId)
  have hentry : (sharded.inner (sharded.getShard r.traceId)).registry.lookup r.traceId =
      single.registry.lookup r.traceId := h.entries r.traceId
  simp only [sharded.handle_eq r]
  refine ⟨InnerTraceRegistry.result_congr hconfig hentry, ?_, ?_, ?_⟩
  · intro t
    rw [trace_setShard]
    by_cases ht : t = r.traceId
    · subst ht
      rw [if_pos rfl]
      exact InnerTraceRegistry.lookup_congr hconfig hentry
    · -- neither the one registry nor the shard touches another trace
      rw [single.lookup_handle_of_ne r ht, ← h.entries t]
      split
      · rename_i hshard
        rw [InnerTraceRegistry.lookup_handle_of_ne _ r ht, ← hshard]
        rfl
      · rfl
  · intro shardIdx
    rw [single.config_handle]
    by_cases hshard : shardIdx = sharded.getShard r.traceId
    · subst hshard
      simpa [setShard, InnerTraceRegistry.config_handle] using hconfig
    · simpa [setShard, hshard] using h.configs shardIdx
  · rcases InnerTraceRegistry.metrics_congr hconfig hentry with ⟨counted, hshard, hsingle⟩
    have hsum : sharded.shardMetrics + counted = 0 + (sharded.setShard r.traceId
        ((sharded.inner (sharded.getShard r.traceId)).handle r).2).shardMetrics :=
      sum_update_balance InnerTraceRegistry.metrics sharded.inner (sharded.getShard r.traceId) _
        (by rw [zero_add, hshard])
    calc
      drainedMetrics (l ++ [(.request r, .result _)]) + (sharded.setShard r.traceId _).shardMetrics
          = drainedMetrics l + (sharded.shardMetrics + counted) := by
            rw [drainedMetrics_append, hsum, zero_add]
            rfl
      _ = (single.handle r).2.metrics := by
            rw [← add_assoc, h.metrics, hsingle]

/-- A drain moves metrics from a shard to the ones that were drained. -/
theorem Spreads.drain (h : Spreads l sharded single) (shardIdx : Fin TRACE_REGISTRY_SHARDS) :
    Spreads (l ++ [(.drain shardIdx, .drained (sharded.drain shardIdx).1)])
      (sharded.drain shardIdx).2 single := by
  refine ⟨?_, ?_, ?_⟩
  · intro t
    rw [trace_drain, h.entries]
  · intro i
    rw [← h.configs i]
    change (Function.update sharded.inner shardIdx _ i).config = _
    by_cases hshard : i = shardIdx
    · rw [hshard, Function.update_self]
    · rw [Function.update_of_ne hshard]
  · calc
      drainedMetrics (l ++ [(.drain shardIdx, .drained (sharded.drain shardIdx).1)]) +
            (sharded.drain shardIdx).2.shardMetrics
          = drainedMetrics l +
              ((sharded.drain shardIdx).1 + (sharded.drain shardIdx).2.shardMetrics) := by
            rw [drainedMetrics_append, add_assoc]
            rfl
      _ = single.metrics := by
            rw [← shardMetrics_drain, h.metrics]

/-! ## Sharding is transparent -/

/-- The request of a step, with its result. -/
def requestOf : Event × Output → List (RegistryRequest × RegistryResult)
  | (.request r, .result result) => [(r, result)]
  | _ => []

/-- The requests among the events of a history. -/
def requests (l : List (Event × Output)) : List RegistryRequest :=
  l.filterMap fun x =>
    match x.1 with
    | .request r => some r
    | .drain _ => none

/-- Over any run of requests and drains, for any hash, one registry that gets the same requests
gives the same results, and its metrics are those that were drained together with those that are
still in the shards. -/
theorem sharding_transparent (config : Config) (hasher : TraceId → Nat)
    (l : List (Event × Output)) (sharded : TraceRegistry)
    (h : Machine.Run machine (new config hasher) l sharded) :
    ∃ single, Machine.Run InnerTraceRegistry.requests (.new config) (l.flatMap requestOf) single ∧
      (l.flatMap requestOf).map Prod.fst = requests l ∧
      drainedMetrics l + sharded.shardMetrics = single.metrics := by
  have hsim := h.simulation (n := InnerTraceRegistry.requests) (r := .new config)
    (R := fun l sharded single => Spreads l sharded single ∧
      (l.flatMap requestOf).map Prod.fst = requests l)
    requestOf ⟨.start config hasher, rfl⟩ ?_
  · rcases hsim with ⟨single, hrun, hspreads, hrequests⟩
    exact ⟨single, hrun, hrequests, hspreads.metrics⟩
  · intro l sharded single sharded' event output hR hstep
    rcases hR with ⟨hspreads, hrequests⟩
    cases event with
    | request r =>
        cases hstep
        rcases hspreads.request r with ⟨hresult, hnext⟩
        have hsingle : InnerTraceRegistry.requests single r =
            some ((single.handle r).2, (sharded.handle r).1) := by
          rw [hresult]
          rfl
        exact ⟨_, .single hsingle, hnext, by simp [requests, requestOf, hrequests]⟩
    | drain shardIdx =>
        cases hstep
        refine ⟨single, .start, hspreads.drain shardIdx, ?_⟩
        simpa [requests, requestOf] using hrequests

/-- Two traces in different shards, one of which is drained in between. -/
theorem sharding_transparent_twoShards :
    ∃ l sharded single,
      Machine.Run InnerTraceRegistry.requests (.new defaultConfig) (l.flatMap requestOf) single ∧
        drainedMetrics l = { (0 : TraceRegistryMetrics) with
          spansCreated := 1
          traceSegmentsCreated := 1 } ∧
        drainedMetrics l + shardMetrics sharded = single.metrics := by
  have hrun := Machine.run_of_exec (m := machine) (s := new defaultConfig BitVec.toNat)
    [.request (.call ⟨7, .registerSpan 1 emptyPropagationData⟩),
      .request (.call ⟨8, .registerLocalRootTracePropagationData emptyPropagationData⟩),
      .drain ⟨7, by decide⟩,
      .request (.call ⟨7, .finishSpan (.ofIds 7 1)⟩),
      .request (.getLocalRootSpanId 8)] rfl
  rcases sharding_transparent defaultConfig BitVec.toNat _ _ hrun with ⟨single, hsingle, -, hmetrics⟩
  exact ⟨_, _, single, hsingle, rfl, hmetrics⟩

end TraceRegistry

end Otel
end DdTrace
