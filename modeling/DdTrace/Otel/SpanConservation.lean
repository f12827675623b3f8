import Mathlib.Algebra.BigOperators.Group.Multiset.Basic
import DdTrace.Otel.Registry

/-!
# SpanConservation — no finished span is lost or duplicated

Spans enter the registry through `finishSpan` and leave it in chunks: partial chunks, final chunks
and the single span chunks of traces that are not registered.  In between they wait in the entry of
their trace.  The law is a conservation rule over the multiset of spans, for one entry at a time
(`Entry.step_conserves`), hence for each trace and for the whole registry over any run.
-/

namespace DdTrace
namespace Otel

open DdTrace.Lib DdTrace.Core

/-- The spans that an entry holds. -/
def Trace.spans (trace : Trace) : Multiset SpanData := trace.finishedSpans

/-- The spans of an entry or of a chunk, none if there is none. -/
def spansOf (trace : Option Trace) : Multiset SpanData := trace.elim 0 Trace.spans

/-- The span that an operation brings in. -/
def EntryOp.spanIn : EntryOp → Multiset SpanData
  | .finishSpan spanData => {spanData}
  | _ => 0

/-! ## One entry -/

/-- Recording a span adds it, whatever the swap of the local root does to the order. -/
theorem Trace.spans_recordFinished (trace : Trace) (spanData : SpanData) :
    (trace.recordFinished spanData).spans = trace.spans + {spanData} := by
  unfold Trace.spans Trace.recordFinished
  cases hspans : trace.finishedSpans with
  | nil => rfl
  | cons first rest =>
      by_cases hroot : spanData.spanContext.spanId = trace.localRootSpanId
      · -- the local root goes to the front, the span that stood there to the end
        simp only [hroot, if_true]
        have hswap : (spanData :: rest ++ [first]).Perm (first :: rest ++ [spanData]) := by
          refine (List.perm_append_singleton first (spanData :: rest)).trans ?_
          refine (List.Perm.swap spanData first rest).trans ?_
          exact (List.perm_append_singleton spanData (first :: rest)).symm
        exact Multiset.coe_eq_coe.2 hswap
      · simp only [hroot, if_false]
        rfl

/-- What an entry held, and what came in, is what went out and what it holds now. -/
theorem Entry.step_conserves (config : Config) (entry : Option Trace) (op : EntryOp) :
    spansOf entry + op.spanIn =
      spansOf (Entry.step config entry op).1 + spansOf (Entry.step config entry op).2 := by
  cases op with
  | registerLocalRootTracePropagationData propagationData =>
      cases entry with
      | none => rfl
      | some trace =>
          simp only [Entry.step]
          split <;> simp [spansOf, EntryOp.spanIn, Trace.spans]
  | registerLocalRootSpan rootSpanId =>
      cases entry with
      | none => rfl
      | some trace =>
          simp only [Entry.step]
          split <;> simp [spansOf, EntryOp.spanIn, Trace.spans]
  | registerSpan spanId propagationData =>
      cases entry with
      | none => rfl
      | some trace => simp [Entry.step, spansOf, EntryOp.spanIn, Trace.spans]
  | finishSpan spanData =>
      cases entry with
      | none =>
          -- a chunk of its own
          simp [Entry.step, spansOf, EntryOp.spanIn, Trace.spans]
      | some trace =>
          have hrec := trace.spans_recordFinished spanData
          simp only [Entry.step]
          -- partial flush, removal, or neither
          split_ifs
          · simpa [spansOf, EntryOp.spanIn, Trace.spans] using hrec.symm
          · simpa [spansOf, EntryOp.spanIn] using hrec.symm
          · simpa [spansOf, EntryOp.spanIn] using hrec.symm

/-! ## The whole registry -/

namespace InnerTraceRegistry

/-- The spans held in the entries of the registry. -/
def heldSpans (self : InnerTraceRegistry) : Multiset SpanData :=
  HashMap.sumBy Trace.spans self.registry

/-- The span passed in by a call, if the call is about trace `t` (`none`: about any trace). -/
def spansIn (t : Option TraceId) (x : RegistryCall × Option Trace) : Multiset SpanData :=
  if t.all (· = x.1.traceId) then x.1.op.spanIn else 0

/-- The spans of the chunk returned by a call, if the call is about trace `t`. -/
def spansOut (t : Option TraceId) (x : RegistryCall × Option Trace) : Multiset SpanData :=
  if t.all (· = x.1.traceId) then spansOf x.2 else 0

theorem heldSpans_call (self : InnerTraceRegistry) (c : RegistryCall) :
    self.heldSpans + c.op.spanIn = spansOf (self.call c).1 + (self.call c).2.heldSpans := by
  rw [self.chunk_call]
  exact self.sumBy_balance c Trace.spans
    (Entry.step_conserves self.config (self.registry.lookup c.traceId) c.op)

theorem entrySpans_call (self : InnerTraceRegistry) (c : RegistryCall) (t : TraceId) :
    spansOf (self.registry.lookup t) + spansIn (some t) (c, (self.call c).1) =
      spansOut (some t) (c, (self.call c).1) + spansOf ((self.call c).2.registry.lookup t) := by
  by_cases ht : t = c.traceId
  · subst ht
    have hentry := Entry.step_conserves self.config (self.registry.lookup c.traceId) c.op
    simpa [spansIn, spansOut, self.lookup_call, self.chunk_call] using hentry
  · simp [spansIn, spansOut, ht, self.lookup_call]

/-- Over any run from the empty registry, the spans passed to `finishSpan` are those of the chunks
returned so far together with those still held in the live entries; and so it is for each trace
alone, so that no span moves to a chunk of another trace. -/
theorem spans_conserved (config : Config) (l : List (RegistryCall × Option Trace))
    (self : InnerTraceRegistry) (h : machine.Run (new config) l self) :
    (l.map (spansIn none)).sum = (l.map (spansOut none)).sum + self.heldSpans ∧
    ∀ t : TraceId, (l.map (spansIn (some t))).sum =
      (l.map (spansOut (some t))).sum + spansOf (self.registry.lookup t) := by
  constructor
  · have hledger := Machine.Run.ledger heldSpans (spansIn none) (spansOut none) ?_ h
    · simpa [heldSpans, new] using hledger
    · intro s s' c o hstep
      cases hstep
      simpa [spansIn, spansOut] using s.heldSpans_call c
  · intro t
    have hledger := Machine.Run.ledger (fun s => spansOf (s.registry.lookup t))
      (spansIn (some t)) (spansOut (some t)) ?_ h
    · simpa [spansOf, new] using hledger
    · intro s s' c o hstep
      cases hstep
      exact s.entrySpans_call c t

/-- One span waits for its root, another one is flushed because its trace is not registered. -/
theorem spans_conserved_orphan :
    ∃ self : InnerTraceRegistry, self.heldSpans = {SpanData.ofIds 7 2} ∧
      ({.ofIds 7 2} + {.ofIds 8 3} : Multiset SpanData) = {.ofIds 8 3} + self.heldSpans := by
  have hrun := Machine.run_of_exec (m := machine) (s := new defaultConfig)
    [⟨7, .registerLocalRootTracePropagationData emptyPropagationData⟩,
      ⟨7, .registerSpan 2 emptyPropagationData⟩,
      ⟨7, .finishSpan (.ofIds 7 2)⟩,
      ⟨8, .finishSpan (.ofIds 8 3)⟩] rfl
  have hconserved := (spans_conserved defaultConfig _ _ hrun).1
  refine ⟨_, ?_, hconserved⟩
  rfl

end InnerTraceRegistry

end Otel
end DdTrace
