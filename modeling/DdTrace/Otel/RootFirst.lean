import DdTrace.Otel.SpanConservation

/-!
# RootFirst — the local root comes first

The spans of a chunk are processed later under the assumption that the local root, if it is among
them, is the first.  When it finishes after other spans it takes the place of the first one.  So the
order holds for every order in which spans finish, as long as the local root is named before it
finishes.
-/

namespace DdTrace
namespace Otel

open DdTrace.Lib DdTrace.Core

/-! ## One entry -/

namespace Trace

/-- If the local root is among the finished spans, a span with its id is the first of them. -/
def RootFirst (trace : Trace) : Prop :=
  (∃ spanData ∈ trace.finishedSpans, spanData.spanContext.spanId = trace.localRootSpanId) →
    ∃ first ∈ trace.finishedSpans.head?, first.spanContext.spanId = trace.localRootSpanId

/-- The order of the finished spans, which have ids that are not zero: an entry without a local root
has the id zero for it. -/
structure Ordered (trace : Trace) : Prop where
  nonzero : ∀ spanData ∈ trace.finishedSpans, spanData.spanContext.spanId ≠ 0
  rootFirst : trace.RootFirst

section

variable {trace : Trace} {spanData : SpanData}

theorem rootFirst_of_absent
    (h : ∀ spanData ∈ trace.finishedSpans,
      spanData.spanContext.spanId ≠ trace.localRootSpanId) : trace.RootFirst := by
  rintro ⟨spanData, hmem, hroot⟩
  exact absurd hroot (h spanData hmem)

theorem ordered_of_nil (h : trace.finishedSpans = []) : trace.Ordered :=
  { nonzero := by simp [h]
    rootFirst := rootFirst_of_absent (by simp [h]) }

/-- Other fields do not matter. -/
theorem Ordered.congr {trace' : Trace} (h : trace.Ordered)
    (hspans : trace'.finishedSpans = trace.finishedSpans)
    (hroot : trace'.localRootSpanId = trace.localRootSpanId) : trace'.Ordered :=
  { nonzero := by
      rw [hspans]
      exact h.nonzero
    rootFirst := by
      unfold RootFirst
      rw [hspans, hroot]
      exact h.rootFirst }

theorem mem_recordFinished {other : SpanData} :
    other ∈ (trace.recordFinished spanData).finishedSpans ↔
      other ∈ trace.finishedSpans ∨ other = spanData := by
  have hmem : other ∈ (trace.recordFinished spanData).spans ↔ other ∈ trace.spans + {spanData} := by
    rw [trace.spans_recordFinished spanData]
  rwa [Multiset.mem_add, Multiset.mem_singleton] at hmem

/-- A span that finishes keeps the order: a local root takes the first place, and another span goes
to the end. -/
theorem Ordered.recordFinished (h : trace.Ordered) (hspan : spanData.spanContext.spanId ≠ 0) :
    (trace.recordFinished spanData).Ordered := by
  refine { nonzero := fun other hmem => ?_, rootFirst := ?_ }
  · rcases mem_recordFinished.1 hmem with hmem | rfl
    · exact h.nonzero other hmem
    · exact hspan
  · have hfirst := h.rootFirst
    unfold RootFirst at hfirst ⊢
    unfold Trace.recordFinished
    cases hspans : trace.finishedSpans with
    | nil =>
        rintro ⟨other, hmem, hroot⟩
        exact ⟨spanData, rfl, List.mem_singleton.1 hmem ▸ hroot⟩
    | cons first rest =>
        rw [hspans] at hfirst
        dsimp only
        split_ifs with hroot
        · exact fun _ => ⟨spanData, rfl, hroot⟩
        · rintro ⟨other, hmem, hother⟩
          rcases List.mem_append.1 hmem with hmem | hmem
          · exact hfirst ⟨other, hmem, hother⟩
          · exact absurd hother (List.mem_singleton.1 hmem ▸ hroot)

end

end Trace

/-- The span ids of an operation are not zero, and a local root is named before it finishes. -/
def EntryOp.Timely (entry : Option Trace) : EntryOp → Prop
  | .registerLocalRootTracePropagationData _ => True
  | .registerLocalRootSpan rootSpanId =>
      rootSpanId ≠ 0 ∧
        ∀ trace ∈ entry, ∀ spanData ∈ trace.finishedSpans,
          spanData.spanContext.spanId ≠ rootSpanId
  | .registerSpan spanId _ => spanId ≠ 0
  | .finishSpan spanData => spanData.spanContext.spanId ≠ 0

instance (entry : Option Trace) : (op : EntryOp) → Decidable (op.Timely entry)
  | .registerLocalRootTracePropagationData _ => inferInstanceAs (Decidable True)
  | .registerLocalRootSpan _ => inferInstanceAs (Decidable (_ ∧ _))
  | .registerSpan spanId _ => inferInstanceAs (Decidable (spanId ≠ 0))
  | .finishSpan spanData => inferInstanceAs (Decidable (spanData.spanContext.spanId ≠ 0))

/-- Each operation keeps the order, in the entry and in the chunk that it returns. -/
theorem Entry.step_ordered {entry : Option Trace} {op : EntryOp} (config : Config)
    (h : ∀ trace ∈ entry, trace.Ordered) (hop : op.Timely entry) :
    (∀ chunk ∈ (Entry.step config entry op).1, chunk.Ordered) ∧
      ∀ trace ∈ (Entry.step config entry op).2, trace.Ordered := by
  cases op with
  | registerLocalRootTracePropagationData propagationData =>
      cases entry with
      | none => simpa [Entry.step] using Trace.ordered_of_nil rfl
      | some trace =>
          have hordered := h trace rfl
          simp only [Entry.step]
          split
          · simpa using hordered
          · have hnext : Trace.Ordered { trace with propagationData := propagationData } :=
              hordered.congr rfl rfl
            simpa using hnext
  | registerLocalRootSpan rootSpanId =>
      cases entry with
      | none => simpa [Entry.step] using Trace.ordered_of_nil rfl
      | some trace =>
          have hordered := h trace rfl
          simp only [Entry.step]
          split
          · -- the root that is named now has not finished
            have hnamed : Trace.Ordered { trace with localRootSpanId := rootSpanId } :=
              { nonzero := hordered.nonzero
                rootFirst := Trace.rootFirst_of_absent (hop.2 trace rfl) }
            simpa using hnamed
          · simpa using hordered
  | registerSpan spanId propagationData =>
      cases entry with
      | none => simpa [Entry.step] using Trace.ordered_of_nil rfl
      | some trace =>
          have hnext : Trace.Ordered { trace with openSpanCount := trace.openSpanCount + 1 } :=
            (h trace rfl).congr rfl rfl
          simpa [Entry.step] using hnext
  | finishSpan spanData =>
      cases entry with
      | none =>
          have halone : Trace.Ordered
              ⟨spanData.spanContext.spanId, [spanData], 0, emptyPropagationData⟩ :=
            { nonzero := by
                have hspan : spanData.spanContext.spanId ≠ 0 := hop
                simpa using hspan
              rootFirst := fun _ => ⟨spanData, rfl, rfl⟩ }
          simpa [Entry.step] using halone
      | some trace =>
          have hordered := (h trace rfl).recordFinished hop
          simp only [Entry.step]
          split_ifs
          · simpa using ⟨hordered, Trace.ordered_of_nil rfl⟩
          · simpa using hordered
          · simpa using hordered

/-! ## Runs -/

namespace InnerTraceRegistry

/-- The span ids of a call are not zero, and a local root is named before it finishes. -/
def Timely (self : InnerTraceRegistry) (c : RegistryCall) : Prop :=
  c.op.Timely (self.registry.lookup c.traceId)

instance (self : InnerTraceRegistry) (c : RegistryCall) : Decidable (self.Timely c) :=
  inferInstanceAs (Decidable (c.op.Timely _))

/-- The registry with timely calls. -/
def timely : Machine InnerTraceRegistry RegistryCall (Option Trace) := machine.guard Timely

/-- Every entry of the registry is ordered. -/
def AllOrdered (self : InnerTraceRegistry) : Prop :=
  ∀ t, ∀ trace ∈ self.registry.lookup t, trace.Ordered

theorem call_ordered {self : InnerTraceRegistry} {c : RegistryCall} (h : self.AllOrdered)
    (hc : self.Timely c) :
    (∀ chunk ∈ (self.call c).1, chunk.Ordered) ∧ (self.call c).2.AllOrdered := by
  obtain ⟨hchunk, hentry⟩ := Entry.step_ordered self.config (h c.traceId) hc
  rw [chunk_call]
  refine ⟨hchunk, ?_⟩
  intro t trace hmem
  rw [lookup_call] at hmem
  split_ifs at hmem with ht
  · subst ht
    exact hentry trace hmem
  · exact h t trace hmem

theorem ordered_of_run {config : Config} {l : List (RegistryCall × Option Trace)}
    {self : InnerTraceRegistry} (h : timely.Run (new config) l self) :
    self.AllOrdered ∧ ∀ x ∈ l, ∀ chunk ∈ x.2, chunk.Ordered := by
  refine h.invariant (I := fun l self => self.AllOrdered ∧ ∀ x ∈ l, ∀ chunk ∈ x.2, chunk.Ordered)
    ⟨fun t trace hmem => ?_, by simp⟩ ?_
  · simp [new] at hmem
  · rintro l self self' c chunk - ⟨hentries, hchunks⟩ hstep
    obtain ⟨htimely, hcall⟩ := Machine.guard_eq_some.1 hstep
    cases hcall
    obtain ⟨hchunk, hnext⟩ := call_ordered hentries htimely
    refine ⟨hnext, ?_⟩
    intro x hx
    rcases List.mem_append.1 hx with hx | hx
    · exact hchunks x hx
    · rw [List.mem_singleton.1 hx]
      exact hchunk

/-- Along every run of timely calls, the local root comes first in every entry and in every chunk. -/
theorem rootFirst_of_run {config : Config} {l : List (RegistryCall × Option Trace)}
    {self : InnerTraceRegistry} (h : timely.Run (new config) l self) :
    (∀ t, ∀ trace ∈ self.registry.lookup t, trace.RootFirst) ∧
      ∀ x ∈ l, ∀ chunk ∈ x.2, chunk.RootFirst := by
  obtain ⟨hentries, hchunks⟩ := ordered_of_run h
  exact ⟨fun t trace hmem => (hentries t trace hmem).rootFirst,
    fun x hx chunk hmem => (hchunks x hx chunk hmem).rootFirst⟩

/-- Two children finish before the local root is named, which then finishes as the last span. -/
theorem rootFirst_late :
    ∃ chunk : Trace, chunk.finishedSpans.map (·.spanContext.spanId) = [1, 3, 2] ∧
      chunk.localRootSpanId = 1 ∧ chunk.RootFirst := by
  have hrun := Machine.run_of_exec (m := timely) (s := new defaultConfig)
    [⟨7, .registerLocalRootTracePropagationData emptyPropagationData⟩,
      ⟨7, .registerSpan 2 emptyPropagationData⟩,
      ⟨7, .registerSpan 3 emptyPropagationData⟩,
      ⟨7, .finishSpan (.ofIds 7 2)⟩,
      ⟨7, .finishSpan (.ofIds 7 3)⟩,
      ⟨7, .registerLocalRootSpan 1⟩,
      ⟨7, .finishSpan (.ofIds 7 1)⟩] rfl
  have hfirst := (rootFirst_of_run hrun).2
  exact ⟨_, rfl, rfl, hfirst _ (List.mem_of_getLast? rfl) _ rfl⟩

end InnerTraceRegistry

end Otel
end DdTrace
