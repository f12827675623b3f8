import DdTrace.Core.Config
import DdTrace.Core.Sampling
import DdTrace.Lib.HashMap
import DdTrace.Lib.Machine
import DdTrace.Otel.Api

/-!
# Registry — the traces that are currently running

The registry holds an entry for each running trace: the span id of its local root, the spans that
finished but were not flushed, the number of open spans and the propagation data.  Four operations
change it:

* `registerLocalRootTracePropagationData` reserves a slot for the local root before the span exists;
* `registerLocalRootSpan` names the local root;
* `registerSpan` counts a child span;
* `finishSpan` records a finished span, and returns a chunk when the trace is complete or, with
  partial flushing, when enough spans are waiting.

The lemmas at the end say what each operation does to the entry of each trace.
-/

namespace DdTrace
namespace Otel

open DdTrace.Lib DdTrace.Core

/-- What is propagated with a trace. -/
structure TracePropagationData where
  samplingDecision : SamplingDecision
  origin : Option Str
  tags : Option (HashMap Str Str)

def emptyPropagationData : TracePropagationData :=
  { samplingDecision := { priority := none, mechanism := none }
    origin := none
    tags := none }

structure Trace where
  localRootSpanId : SpanId
  /-- The root span is the first span of this list if it is present. -/
  finishedSpans : List SpanData
  openSpanCount : Nat
  propagationData : TracePropagationData

@[ext] structure TraceRegistryMetrics where
  spansCreated : Nat
  spansFinished : Nat
  traceSegmentsCreated : Nat
  traceSegmentsClosed : Nat
  tracePartialFlushCount : Nat
  deriving DecidableEq, Repr

def TraceRegistryMetrics.default : TraceRegistryMetrics :=
  { spansCreated := 0
    spansFinished := 0
    traceSegmentsCreated := 0
    traceSegmentsClosed := 0
    tracePartialFlushCount := 0 }

structure InnerTraceRegistry where
  registry : HashMap TraceId Trace
  metrics : TraceRegistryMetrics
  config : Config

inductive RegisterTracePropagationResult
  | existing (samplingDecision : SamplingDecision)
  | new

namespace Trace

/-- The entry after a span of it finished: the span goes to the end of the finished spans, except
that a local root takes the first place and the span that stood there goes to the end. -/
def recordFinished (self : Trace) (spanData : SpanData) : Trace :=
  let spanId := spanData.spanContext.spanId
  let finishedSpans :=
    match self.finishedSpans with
    | [] => [spanData]
    | first :: rest =>
        if spanId = self.localRootSpanId then (spanData :: rest) ++ [first]
        else (first :: rest) ++ [spanData]
  { self with
    finishedSpans := finishedSpans
    openSpanCount := self.openSpanCount - 1 }

end Trace

namespace InnerTraceRegistry

/-- The registry without any trace. -/
def new (config : Config) : InnerTraceRegistry :=
  { registry := ∅, metrics := .default, config := config }

def registerLocalRootTracePropagationData (self : InnerTraceRegistry) (traceId : TraceId)
    (propagationData : TracePropagationData) :
    RegisterTracePropagationResult × InnerTraceRegistry :=
  match self.registry.lookup traceId with
  | some trace =>
      if trace.propagationData.samplingDecision.priority.isSome then
        (.existing trace.propagationData.samplingDecision, self)
      else
        let trace := { trace with propagationData := propagationData }
        (.new, { self with registry := AList.insert traceId trace self.registry })
  | none =>
      -- The count is 1 for the local root span, which is not counted again when it is registered.
      let trace : Trace :=
        { localRootSpanId := 0
          finishedSpans := []
          openSpanCount := 1
          propagationData := propagationData }
      (.new,
        { self with
          registry := AList.insert traceId trace self.registry
          metrics :=
            { self.metrics with
              traceSegmentsCreated := self.metrics.traceSegmentsCreated + 1
              spansCreated := self.metrics.spansCreated + 1 } })

def registerLocalRootSpan (self : InnerTraceRegistry) (traceId : TraceId) (rootSpanId : SpanId) :
    InnerTraceRegistry :=
  let trace : Trace := (self.registry.lookup traceId).getD
    { localRootSpanId := 0
      finishedSpans := []
      openSpanCount := 1
      propagationData := emptyPropagationData }
  -- A second root span of the trace is ignored: neither its id nor its opening is recorded.
  let trace :=
    if trace.localRootSpanId = 0 then { trace with localRootSpanId := rootSpanId } else trace
  { self with registry := AList.insert traceId trace self.registry }

def registerSpan (self : InnerTraceRegistry) (traceId : TraceId) (spanId : SpanId)
    (propagationData : TracePropagationData) : InnerTraceRegistry :=
  let (trace, metrics) :=
    match self.registry.lookup traceId with
    | some trace => (trace, self.metrics)
    | none =>
        let trace : Trace :=
          { localRootSpanId := spanId
            finishedSpans := []
            openSpanCount := 0
            propagationData := propagationData }
        (trace,
          { self.metrics with traceSegmentsCreated := self.metrics.traceSegmentsCreated + 1 })
  let trace := { trace with openSpanCount := trace.openSpanCount + 1 }
  { self with
    registry := AList.insert traceId trace self.registry
    metrics := { metrics with spansCreated := metrics.spansCreated + 1 } }

/-- Whether the finished spans of an entry are flushed without waiting for the open ones. -/
def partialFlush (config : Config) (trace : Trace) : Bool :=
  config.tracePartialFlushEnabled &&
    config.tracePartialFlushMinSpans ≤ trace.finishedSpans.length

def finishSpan (self : InnerTraceRegistry) (traceId : TraceId) (spanData : SpanData) :
    Option Trace × InnerTraceRegistry :=
  let self :=
    { self with
      metrics := { self.metrics with spansFinished := self.metrics.spansFinished + 1 } }
  match self.registry.lookup traceId with
  | some trace =>
      let trace := trace.recordFinished spanData
      if partialFlush self.config trace then
        (some trace,
          { self with
            registry := AList.insert traceId { trace with finishedSpans := [] } self.registry
            metrics :=
              { self.metrics with
                tracePartialFlushCount := self.metrics.tracePartialFlushCount + 1 } })
      else if trace.openSpanCount = 0 then
        (some trace,
          { self with
            registry := AList.erase traceId self.registry
            metrics :=
              { self.metrics with
                traceSegmentsClosed := self.metrics.traceSegmentsClosed + 1 } })
      else
        (none, { self with registry := AList.insert traceId trace self.registry })
  | none =>
      -- The trace is not registered: the span is flushed by itself.
      (some
          { localRootSpanId := spanData.spanContext.spanId
            finishedSpans := [spanData]
            openSpanCount := 0
            propagationData := emptyPropagationData },
        { self with
          metrics :=
            { self.metrics with
              traceSegmentsCreated := self.metrics.traceSegmentsCreated + 1
              traceSegmentsClosed := self.metrics.traceSegmentsClosed + 1 } })

def getTracePropagationData (self : InnerTraceRegistry) (traceId : TraceId) :
    TracePropagationData :=
  match self.registry.lookup traceId with
  | some trace => trace.propagationData
  | none => emptyPropagationData

/-- The metrics since the last time they were asked for; the counting starts again at zero. -/
def getMetrics (self : InnerTraceRegistry) : TraceRegistryMetrics × InnerTraceRegistry :=
  (self.metrics, { self with metrics := .default })

end InnerTraceRegistry

/-! ## Calls -/

/-- An operation on the entry of one trace. -/
inductive EntryOp
  | registerLocalRootTracePropagationData (propagationData : TracePropagationData)
  | registerLocalRootSpan (rootSpanId : SpanId)
  | registerSpan (spanId : SpanId) (propagationData : TracePropagationData)
  | finishSpan (spanData : SpanData)

/-- A call of the registry: a trace, and the operation on its entry. -/
structure RegistryCall where
  traceId : TraceId
  op : EntryOp

namespace InnerTraceRegistry

/-- A call, with the chunk that `finishSpan` returns. -/
def call (self : InnerTraceRegistry) (c : RegistryCall) : Option Trace × InnerTraceRegistry :=
  match c.op with
  | .registerLocalRootTracePropagationData propagationData =>
      (none, (self.registerLocalRootTracePropagationData c.traceId propagationData).2)
  | .registerLocalRootSpan rootSpanId => (none, self.registerLocalRootSpan c.traceId rootSpanId)
  | .registerSpan spanId propagationData =>
      (none, self.registerSpan c.traceId spanId propagationData)
  | .finishSpan spanData => self.finishSpan c.traceId spanData

/-- The registry as a machine: every call can happen at any time. -/
def machine : Machine InnerTraceRegistry RegistryCall (Option Trace) := fun self c =>
  some ((self.call c).2, (self.call c).1)

end InnerTraceRegistry

/-! ## The life of one entry -/

namespace Entry

open InnerTraceRegistry

/-- The chunk that an operation returns, and the entry of the trace after it. -/
def step (config : Config) (entry : Option Trace) : EntryOp → Option Trace × Option Trace
  | .registerLocalRootTracePropagationData propagationData =>
      match entry with
      | some trace =>
          if trace.propagationData.samplingDecision.priority.isSome then (none, some trace)
          else (none, some { trace with propagationData := propagationData })
      | none => (none, some ⟨0, [], 1, propagationData⟩)
  | .registerLocalRootSpan rootSpanId =>
      match entry with
      | some trace =>
          if trace.localRootSpanId = 0 then
            (none, some { trace with localRootSpanId := rootSpanId })
          else (none, some trace)
      -- a root without an entry counts as its open span
      | none => (none, some ⟨rootSpanId, [], 1, emptyPropagationData⟩)
  | .registerSpan spanId propagationData =>
      match entry with
      | some trace => (none, some { trace with openSpanCount := trace.openSpanCount + 1 })
      | none => (none, some ⟨spanId, [], 1, propagationData⟩)
  | .finishSpan spanData =>
      match entry with
      | some trace =>
          let trace := trace.recordFinished spanData
          -- the flush is asked first, so an entry can outlive its last open span
          if partialFlush config trace then (some trace, some { trace with finishedSpans := [] })
          else if trace.openSpanCount = 0 then (some trace, none)
          else (none, some trace)
      | none =>
          (some ⟨spanData.spanContext.spanId, [spanData], 0, emptyPropagationData⟩, none)

end Entry

namespace InnerTraceRegistry

variable (self : InnerTraceRegistry) (c : RegistryCall)

/-- A call returns what the entry of its trace returns. -/
theorem chunk_call :
    (self.call c).1 = (Entry.step self.config (self.registry.lookup c.traceId) c.op).1 := by
  rcases c with ⟨traceId, op⟩
  cases op with
  | registerLocalRootTracePropagationData propagationData =>
      simp only [call, Entry.step]
      split <;> (try split) <;> rfl
  | registerLocalRootSpan rootSpanId =>
      simp only [call, Entry.step]
      split <;> (try split) <;> rfl
  | registerSpan spanId propagationData =>
      simp only [call, Entry.step]
      split <;> rfl
  | finishSpan spanData =>
      simp only [call, finishSpan, Entry.step]
      split <;> (try split_ifs) <;> rfl

@[simp] theorem config_call : (self.call c).2.config = self.config := by
  rcases c with ⟨traceId, op⟩
  cases op with
  | registerLocalRootTracePropagationData propagationData =>
      simp only [call, registerLocalRootTracePropagationData]
      split <;> (try split) <;> rfl
  | registerLocalRootSpan rootSpanId => rfl
  | registerSpan spanId propagationData => rfl
  | finishSpan spanData =>
      simp only [call, finishSpan]
      split <;> (try split_ifs) <;> rfl

/-- The map after a call: the entry of its trace moves as `Entry.step` says, nothing else does.
This is all that a call does to the map, up to the order of the entries. -/
theorem registry_call :
    (∃ trace, (Entry.step self.config (self.registry.lookup c.traceId) c.op).2 = some trace ∧
      (self.call c).2.registry = AList.insert c.traceId trace self.registry) ∨
    ((Entry.step self.config (self.registry.lookup c.traceId) c.op).2 = none ∧
      (self.call c).2.registry = AList.erase c.traceId self.registry) ∨
    ((Entry.step self.config (self.registry.lookup c.traceId) c.op).2 =
        self.registry.lookup c.traceId ∧
      (self.call c).2.registry = self.registry) := by
  rcases c with ⟨traceId, op⟩
  cases op with
  | registerLocalRootTracePropagationData propagationData =>
      simp only [call, registerLocalRootTracePropagationData, Entry.step]
      cases hentry : self.registry.lookup traceId with
      | none => exact .inl ⟨_, rfl, rfl⟩
      | some trace =>
          by_cases hp : trace.propagationData.samplingDecision.priority.isSome = true
          · exact .inr (.inr (by simp [hp]))
          · exact .inl ⟨{ trace with propagationData := propagationData }, by simp [hp]⟩
  | registerLocalRootSpan rootSpanId =>
      -- the entry is written back in any case, also where it has a root already
      simp only [call, registerLocalRootSpan, Entry.step]
      cases hentry : self.registry.lookup traceId with
      | none => exact .inl ⟨_, rfl, by simp⟩
      | some trace =>
          by_cases hroot : trace.localRootSpanId = 0
          · refine .inl ⟨{ trace with localRootSpanId := rootSpanId }, ?_⟩
            simp only [Option.getD_some, if_pos hroot, and_self]
          · refine .inl ⟨trace, ?_⟩
            simp only [Option.getD_some, if_neg hroot, and_self]
  | registerSpan spanId propagationData =>
      simp only [call, registerSpan, Entry.step]
      cases hentry : self.registry.lookup traceId with
      | none => exact .inl ⟨_, rfl, rfl⟩
      | some trace => exact .inl ⟨_, rfl, rfl⟩
  | finishSpan spanData =>
      simp only [call, finishSpan, Entry.step]
      cases hentry : self.registry.lookup traceId with
      -- the chunk of an unknown trace does not come from the map
      | none => exact .inr (.inr ⟨rfl, rfl⟩)
      | some trace =>
          by_cases hflush : partialFlush self.config (trace.recordFinished spanData) = true
          · exact .inl ⟨{ trace.recordFinished spanData with finishedSpans := [] }, by simp [hflush]⟩
          · by_cases hopen : (trace.recordFinished spanData).openSpanCount = 0
            · exact .inr (.inl (by simp [hflush, hopen]))
            · exact .inl ⟨trace.recordFinished spanData, by simp [hflush, hopen]⟩

/-- The entries after a call. -/
theorem lookup_call (t : TraceId) :
    (self.call c).2.registry.lookup t =
      if t = c.traceId then (Entry.step self.config (self.registry.lookup t) c.op).2
      else self.registry.lookup t := by
  rcases self.registry_call c with ⟨trace, hentry, hmap⟩ | ⟨hentry, hmap⟩ | ⟨hentry, hmap⟩
  · rw [hmap, HashMap.lookup_insert_eq]
    split
    · rename_i ht
      rw [ht, hentry]
    · rfl
  · rw [hmap, HashMap.lookup_erase_eq]
    split
    · rename_i ht
      rw [ht, hentry]
    · rfl
  · rw [hmap]
    split
    · rename_i ht
      rw [ht, hentry]
    · rfl

/-- The sum of a quantity over the entries after a call. -/
theorem sumBy_call {M : Type*} [AddCommMonoid M] (f : Trace → M) :
    HashMap.sumBy f (self.call c).2.registry =
      (Entry.step self.config (self.registry.lookup c.traceId) c.op).2.elim 0 f +
        HashMap.sumBy f (AList.erase c.traceId self.registry) := by
  -- inserted, erased, or left alone
  rcases self.registry_call c with ⟨trace, hentry, hmap⟩ | ⟨hentry, hmap⟩ | ⟨hentry, hmap⟩
  · rw [hmap, hentry, HashMap.sumBy_insert]
    rfl
  · rw [hmap, hentry]
    simp
  · rw [hmap, hentry]
    exact HashMap.sumBy_eq_lookup_add f self.registry c.traceId

/-- A balance that holds for the entry of a call holds for the sum over the entries. -/
theorem sumBy_balance {M : Type*} [AddCommMonoid M] (f : Trace → M) {inn out : M}
    (h : (self.registry.lookup c.traceId).elim 0 f + inn =
      out + (Entry.step self.config (self.registry.lookup c.traceId) c.op).2.elim 0 f) :
    HashMap.sumBy f self.registry + inn = out + HashMap.sumBy f (self.call c).2.registry := by
  -- one entry moves, the sum over the others is the same before and after
  have hbefore := HashMap.sumBy_eq_lookup_add f self.registry c.traceId
  have hafter := self.sumBy_call c f
  calc
    HashMap.sumBy f self.registry + inn
        = ((self.registry.lookup c.traceId).elim 0 f + inn) +
            HashMap.sumBy f (AList.erase c.traceId self.registry) := by
          rw [hbefore, add_right_comm]
    _ = out + HashMap.sumBy f (self.call c).2.registry := by
          rw [h, hafter, add_assoc]

end InnerTraceRegistry

end Otel
end DdTrace
