import Mathlib.Algebra.BigOperators.Group.Finset.Piecewise
import Mathlib.Algebra.Ring.Nat
import Mathlib.Data.Fintype.Basic
import Mathlib.Data.Fintype.Fin
import DdTrace.Otel.TraceRegistry

/-!
# RegistryMetrics — the counters of the registry

Each shard counts what its operations do.  `TraceRegistry::get_metrics` takes the counters of one
shard after the other, so that other threads change the shards it has passed, or not reached, in
between.

This module contains:

* the metrics as an additive monoid, and `Entry.counts` — what an operation adds to them;
* the requests that the registry answers, in shards and not in shards;
* `TraceRegistry.machine` — the registry in shards, with each drain of a shard as a step.
-/

namespace DdTrace
namespace Otel

open DdTrace.Lib DdTrace.Core

namespace TraceRegistryMetrics

/-! ## The metrics as a monoid -/

instance : Zero TraceRegistryMetrics := ⟨.default⟩

instance : Add TraceRegistryMetrics :=
  ⟨fun a b =>
    { spansCreated := a.spansCreated + b.spansCreated
      spansFinished := a.spansFinished + b.spansFinished
      traceSegmentsCreated := a.traceSegmentsCreated + b.traceSegmentsCreated
      traceSegmentsClosed := a.traceSegmentsClosed + b.traceSegmentsClosed
      tracePartialFlushCount := a.tracePartialFlushCount + b.tracePartialFlushCount }⟩

variable (a b : TraceRegistryMetrics)

@[simp] theorem spansCreated_zero : (0 : TraceRegistryMetrics).spansCreated = 0 := rfl

@[simp] theorem traceSegmentsCreated_zero : (0 : TraceRegistryMetrics).traceSegmentsCreated = 0 :=
  rfl

@[simp] theorem traceSegmentsClosed_zero : (0 : TraceRegistryMetrics).traceSegmentsClosed = 0 := rfl

@[simp] theorem spansCreated_add : (a + b).spansCreated = a.spansCreated + b.spansCreated := rfl

@[simp] theorem traceSegmentsCreated_add :
    (a + b).traceSegmentsCreated = a.traceSegmentsCreated + b.traceSegmentsCreated := rfl

@[simp] theorem traceSegmentsClosed_add :
    (a + b).traceSegmentsClosed = a.traceSegmentsClosed + b.traceSegmentsClosed := rfl

instance : AddCommMonoid TraceRegistryMetrics where
  add_assoc a b c := by
    apply TraceRegistryMetrics.ext <;> exact Nat.add_assoc _ _ _
  zero_add a := by
    apply TraceRegistryMetrics.ext <;> exact Nat.zero_add _
  add_zero a := rfl
  add_comm a b := by
    apply TraceRegistryMetrics.ext <;> exact Nat.add_comm _ _
  nsmul := nsmulRec

end TraceRegistryMetrics

/-! ## What an operation counts -/

/-- What an operation adds to the metrics; it depends on the entry of its trace. -/
def Entry.counts (config : Config) (entry : Option Trace) : EntryOp → TraceRegistryMetrics
  | .registerLocalRootTracePropagationData _ =>
      match entry with
      | some _ => 0
      | none => { (0 : TraceRegistryMetrics) with traceSegmentsCreated := 1, spansCreated := 1 }
  -- also where the local root makes the entry
  | .registerLocalRootSpan _ => 0
  | .registerSpan _ _ =>
      match entry with
      | some _ => { (0 : TraceRegistryMetrics) with spansCreated := 1 }
      | none => { (0 : TraceRegistryMetrics) with traceSegmentsCreated := 1, spansCreated := 1 }
  | .finishSpan spanData =>
      match entry with
      | some trace =>
          if InnerTraceRegistry.partialFlush config (trace.recordFinished spanData) then
            { (0 : TraceRegistryMetrics) with spansFinished := 1, tracePartialFlushCount := 1 }
          else if (trace.recordFinished spanData).openSpanCount = 0 then
            { (0 : TraceRegistryMetrics) with spansFinished := 1, traceSegmentsClosed := 1 }
          else { (0 : TraceRegistryMetrics) with spansFinished := 1 }
      | none =>
          { (0 : TraceRegistryMetrics) with
            spansFinished := 1
            traceSegmentsCreated := 1
            traceSegmentsClosed := 1 }

/-- The metrics after a call. -/
theorem InnerTraceRegistry.metrics_call (self : InnerTraceRegistry) (c : RegistryCall) :
    (self.call c).2.metrics =
      self.metrics + Entry.counts self.config (self.registry.lookup c.traceId) c.op := by
  rcases c with ⟨traceId, op⟩
  cases op with
  | registerLocalRootTracePropagationData propagationData =>
      simp only [call, registerLocalRootTracePropagationData, Entry.counts]
      cases self.registry.lookup traceId with
      | none => rfl
      | some trace =>
          simp only
          split_ifs <;> rfl
  | registerLocalRootSpan rootSpanId => rfl
  | registerSpan spanId propagationData =>
      simp only [call, registerSpan, Entry.counts]
      cases self.registry.lookup traceId with
      | none => rfl
      | some trace => rfl
  | finishSpan spanData =>
      simp only [call, finishSpan, Entry.counts]
      cases self.registry.lookup traceId with
      | none => rfl
      | some trace =>
          simp only
          split_ifs <;> rfl

/-! ## Requests -/

/-- A request to the registry. -/
inductive RegistryRequest
  | call (c : RegistryCall)
  | getTracePropagationData (traceId : TraceId)
  | getLocalRootSpanId (traceId : TraceId)

/-- What a request returns. -/
inductive RegistryResult
  | registered (result : RegisterTracePropagationResult)
  | done
  | finished (chunk : Option Trace)
  | propagationData (propagationData : TracePropagationData)
  | localRootSpanId (spanId : Option SpanId)

namespace RegistryRequest

def traceId : RegistryRequest → TraceId
  | .call c => c.traceId
  | .getTracePropagationData traceId => traceId
  | .getLocalRootSpanId traceId => traceId

end RegistryRequest

namespace InnerTraceRegistry

def getLocalRootSpanId (self : InnerTraceRegistry) (traceId : TraceId) : Option SpanId :=
  (self.registry.lookup traceId).bind fun trace =>
    if trace.localRootSpanId = 0 then none else some trace.localRootSpanId

/-- The answer to a request, and the registry after it. -/
def handle (self : InnerTraceRegistry) : RegistryRequest → RegistryResult × InnerTraceRegistry
  | .call ⟨traceId, .registerLocalRootTracePropagationData propagationData⟩ =>
      let (result, self) := self.registerLocalRootTracePropagationData traceId propagationData
      (.registered result, self)
  | .call ⟨traceId, .registerLocalRootSpan rootSpanId⟩ =>
      (.done, self.registerLocalRootSpan traceId rootSpanId)
  | .call ⟨traceId, .registerSpan spanId propagationData⟩ =>
      (.done, self.registerSpan traceId spanId propagationData)
  | .call ⟨traceId, .finishSpan spanData⟩ =>
      let (chunk, self) := self.finishSpan traceId spanData
      (.finished chunk, self)
  | .getTracePropagationData traceId =>
      (.propagationData (self.getTracePropagationData traceId), self)
  | .getLocalRootSpanId traceId => (.localRootSpanId (self.getLocalRootSpanId traceId), self)

/-- The registry that answers requests. -/
def requests : Machine InnerTraceRegistry RegistryRequest RegistryResult := fun self r =>
  some ((self.handle r).2, (self.handle r).1)

end InnerTraceRegistry

namespace TraceRegistry

def getLocalRootSpanId (self : TraceRegistry) (traceId : TraceId) : Option SpanId :=
  (self.inner (self.getShard traceId)).getLocalRootSpanId traceId

/-- The answer to a request, and the registry after it. -/
def handle (self : TraceRegistry) : RegistryRequest → RegistryResult × TraceRegistry
  | .call ⟨traceId, .registerLocalRootTracePropagationData propagationData⟩ =>
      let (result, self) := self.registerLocalRootTracePropagationData traceId propagationData
      (.registered result, self)
  | .call ⟨traceId, .registerLocalRootSpan rootSpanId⟩ =>
      (.done, self.registerLocalRootSpan traceId rootSpanId)
  | .call ⟨traceId, .registerSpan spanId propagationData⟩ =>
      (.done, self.registerSpan traceId spanId propagationData)
  | .call ⟨traceId, .finishSpan spanData⟩ =>
      let (chunk, self) := self.finishSpan traceId spanData
      (.finished chunk, self)
  | .getTracePropagationData traceId =>
      (.propagationData (self.getTracePropagationData traceId), self)
  | .getLocalRootSpanId traceId => (.localRootSpanId (self.getLocalRootSpanId traceId), self)

/-! ## Drains -/

/-- The metrics of one shard, which starts again at zero. -/
def drain (self : TraceRegistry) (shardIdx : Fin TRACE_REGISTRY_SHARDS) :
    TraceRegistryMetrics × TraceRegistry :=
  let (shardStats, shard) := (self.inner shardIdx).getMetrics
  (shardStats, { self with inner := Function.update self.inner shardIdx shard })

/-- The drains of the shards of a list, one after the other, added to what was drained before. -/
def drainAll (stats : TraceRegistryMetrics) (self : TraceRegistry) :
    List (Fin TRACE_REGISTRY_SHARDS) → TraceRegistryMetrics × TraceRegistry
  | [] => (stats, self)
  | shardIdx :: rest =>
      let (shardStats, self) := self.drain shardIdx
      drainAll (stats + shardStats) self rest

def getMetrics (self : TraceRegistry) : TraceRegistryMetrics × TraceRegistry :=
  drainAll .default self (List.finRange TRACE_REGISTRY_SHARDS)

/-- A step of the registry in shards: a request, or the drain of a shard by a `getMetrics` that is
under way. -/
inductive Event
  | request (r : RegistryRequest)
  | drain (shardIdx : Fin TRACE_REGISTRY_SHARDS)

inductive Output
  | result (result : RegistryResult)
  | drained (shardStats : TraceRegistryMetrics)

/-- The registry in shards.  A lock guards each shard, so that the steps of threads interleave. -/
def machine : Machine TraceRegistry Event Output := fun self event =>
  match event with
  | .request r => some ((self.handle r).2, .result (self.handle r).1)
  | .drain shardIdx => some ((self.drain shardIdx).2, .drained (self.drain shardIdx).1)

/-- The metrics that a step took away. -/
def Output.metrics : Output → TraceRegistryMetrics
  | .result _ => 0
  | .drained shardStats => shardStats

/-- The sum of the metrics that were drained. -/
def drainedMetrics (l : List (Event × Output)) : TraceRegistryMetrics :=
  (l.map fun x => x.2.metrics).sum

/-- The sum of the metrics that are still in the shards. -/
def shardMetrics (self : TraceRegistry) : TraceRegistryMetrics :=
  ∑ shardIdx, (self.inner shardIdx).metrics

@[simp] theorem drainedMetrics_nil : drainedMetrics [] = 0 := rfl

@[simp] theorem drainedMetrics_cons (x : Event × Output) (l : List (Event × Output)) :
    drainedMetrics (x :: l) = x.2.metrics + drainedMetrics l := rfl

@[simp] theorem drainedMetrics_append (l₁ l₂ : List (Event × Output)) :
    drainedMetrics (l₁ ++ l₂) = drainedMetrics l₁ + drainedMetrics l₂ := by
  simp [drainedMetrics]

/-- The loop of `getMetrics`, as drains of the machine: what they take away is what it returns. -/
theorem run_drainAll (stats : TraceRegistryMetrics) (self : TraceRegistry)
    (shards : List (Fin TRACE_REGISTRY_SHARDS)) :
    ∃ l, Machine.Run machine self l (drainAll stats self shards).2 ∧
      l.map Prod.fst = shards.map Event.drain ∧
      stats + drainedMetrics l = (drainAll stats self shards).1 := by
  induction shards generalizing stats self with
  | nil => exact ⟨[], .start, rfl, rfl⟩
  | cons shardIdx rest ih =>
      rcases ih (stats + (self.drain shardIdx).1) (self.drain shardIdx).2 with
        ⟨l, hrun, hevents, hstats⟩
      have hfirst : machine self (.drain shardIdx) =
          some ((self.drain shardIdx).2, .drained (self.drain shardIdx).1) := rfl
      refine ⟨_, (Machine.Run.single hfirst).append hrun, ?_, ?_⟩
      · simp [hevents]
      · simpa [drainAll, Output.metrics, add_assoc] using hstats

theorem run_getMetrics (self : TraceRegistry) :
    ∃ l, Machine.Run machine self l self.getMetrics.2 ∧
      l.map Prod.fst = (List.finRange TRACE_REGISTRY_SHARDS).map Event.drain ∧
      drainedMetrics l = self.getMetrics.1 := by
  rcases run_drainAll .default self (List.finRange TRACE_REGISTRY_SHARDS) with
    ⟨l, hrun, hevents, hstats⟩
  exact ⟨l, hrun, hevents, (zero_add (drainedMetrics l)).symm.trans hstats⟩

/-! ## Sums over the shards -/

/-- A balance that holds for the one shard that changes holds for the sum over the shards. -/
theorem sum_update_balance {M : Type*} [AddCommMonoid M] (f : InnerTraceRegistry → M)
    (inner : Fin TRACE_REGISTRY_SHARDS → InnerTraceRegistry) (i : Fin TRACE_REGISTRY_SHARDS)
    (shard : InnerTraceRegistry) {inn out : M} (h : f (inner i) + inn = out + f shard) :
    ∑ j, f (inner j) + inn = out + ∑ j, f (Function.update inner i shard j) := by
  have hupdate : ∀ j, f (Function.update inner i shard j) =
      Function.update (fun j => f (inner j)) i (f shard) j := by
    intro j
    by_cases hj : j = i
    · subst hj
      simp
    · simp [hj]
  have hbefore : ∑ j, f (inner j) = f (inner i) + ∑ j ∈ Finset.univ.erase i, f (inner j) :=
    (Finset.add_sum_erase Finset.univ (fun j => f (inner j)) (Finset.mem_univ i)).symm
  have hafter : ∑ j, f (Function.update inner i shard j) =
      f shard + ∑ j ∈ Finset.univ.erase i, f (inner j) := by
    simp only [hupdate]
    rw [Finset.sum_update_of_mem (Finset.mem_univ i), Finset.sdiff_singleton_eq_erase]
  calc
    ∑ j, f (inner j) + inn
        = (f (inner i) + inn) + ∑ j ∈ Finset.univ.erase i, f (inner j) := by
          rw [hbefore, add_right_comm]
    _ = out + ∑ j, f (Function.update inner i shard j) := by
          rw [h, hafter, add_assoc]

/-! ## What a step does to entries and metrics -/

variable (self : TraceRegistry) (c : RegistryCall) (shardIdx : Fin TRACE_REGISTRY_SHARDS)

theorem handle_call : (self.handle (.call c)).2 = (self.call c).2 := by
  rcases c with ⟨traceId, op⟩
  cases op with
  | registerLocalRootTracePropagationData propagationData => rfl
  | registerLocalRootSpan rootSpanId => rfl
  | registerSpan spanId propagationData => rfl
  | finishSpan spanData => rfl

/-- The configuration of the shard of a trace. -/
def configOf (self : TraceRegistry) (traceId : TraceId) : Config :=
  (self.inner (self.getShard traceId)).config

theorem shardMetrics_call :
    (self.call c).2.shardMetrics = self.shardMetrics +
      Entry.counts (self.configOf c.traceId) (self.trace c.traceId) c.op := by
  have hshard := (self.inner (self.getShard c.traceId)).metrics_call c
  have hsum : self.shardMetrics + _ = 0 + (self.call c).2.shardMetrics :=
    sum_update_balance InnerTraceRegistry.metrics self.inner (self.getShard c.traceId) _
      (hshard.symm.trans (zero_add _).symm)
  exact (zero_add _).symm.trans hsum.symm

theorem shardMetrics_drain :
    self.shardMetrics = (self.drain shardIdx).1 + (self.drain shardIdx).2.shardMetrics := by
  have htaken : (self.inner shardIdx).metrics + 0 =
      (self.drain shardIdx).1 + (self.inner shardIdx).getMetrics.2.metrics := rfl
  have hsum : self.shardMetrics + 0 =
      (self.drain shardIdx).1 + (self.drain shardIdx).2.shardMetrics :=
    sum_update_balance InnerTraceRegistry.metrics self.inner shardIdx _ htaken
  exact (add_zero _).symm.trans hsum

/-- A drain does not touch the entries. -/
theorem trace_drain (t : TraceId) :
    (self.drain shardIdx).2.trace t = self.trace t := by
  have htrace : (self.drain shardIdx).2.trace t =
      (Function.update self.inner shardIdx (self.inner shardIdx).getMetrics.2
        (self.getShard t)).registry.lookup t := rfl
  rw [htrace]
  by_cases hshard : self.getShard t = shardIdx
  · rw [hshard, Function.update_self, ← hshard]
    rfl
  · rw [Function.update_of_ne hshard]
    rfl

end TraceRegistry

end Otel
end DdTrace
