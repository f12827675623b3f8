import Mathlib.Algebra.BigOperators.Fin
import Mathlib.Tactic.Abel
import DdTrace.Otel.ExporterRuns
import DdTrace.Otel.SpanConservation
import DdTrace.Otel.Tracer

/-!
# Pipeline — a finished span from `on_end` to the worker

A thread that ends a span takes the chunk that the registry returns, adds the propagation data of the
trace, and offers the chunk to the queue, for which it takes another lock.  In between other threads use
the registry and the queue, and the worker exports.

`spans_accounted` says where the finished spans are: exported, discarded because the tracer is disabled,
refused by the queue, stranded in a queue that nobody empties any more, or still on their way, each of
them in one place, and which of the refused ones the metrics show.  Spans are stranded if and only if a
chunk is offered while the worker shuts down.
-/

namespace DdTrace
namespace Otel

open DdTrace.Lib DdTrace.Core

/-! ## The spans of a chunk -/

/-- A span without its attributes, the only part that changes on its way. -/
def SpanData.bare (self : SpanData) : SpanData := { self with attributes := [] }

/-- The spans of a chunk. -/
def bareSpans (chunk : List SpanData) : Multiset SpanData := (chunk.map SpanData.bare : List SpanData)

@[simp] theorem bareSpans_nil : bareSpans [] = 0 := rfl

theorem bareSpans_append (chunk more : List SpanData) :
    bareSpans (chunk ++ more) = bareSpans chunk + bareSpans more := by
  simp [bareSpans]

namespace DatadogSpanProcessor

theorem bare_pushToFirst (spanId : SpanId) (kv : KeyValue) (chunk : List SpanData) :
    (pushToFirst spanId kv chunk).map SpanData.bare = chunk.map SpanData.bare := by
  induction chunk with
  | nil => rfl
  | cons span rest ih =>
      unfold pushToFirst
      split
      · rfl
      · rw [List.map_cons, ih, List.map_cons]

/-- The propagation data is added to the attributes. -/
theorem bare_addTracePropagationData (ord : IterOrder Str Str) (trace : Trace) :
    (addTracePropagationData ord trace).map SpanData.bare =
      trace.finishedSpans.map SpanData.bare := by
  unfold addTracePropagationData
  rw [List.map_map]
  exact List.map_congr_left fun span _ => rfl

/-- What is exported of a chunk, or discarded. -/
theorem onEnd_cases (ord : IterOrder Str Str) (config : Config) (registry : TraceRegistry)
    (span : SpanData) :
    ((onEnd ord config registry span).1 = (none, none)) ∨
    (config.enabled = false ∧ ∃ trace, (onEnd ord config registry span).1 = (some trace, none)) ∨
    (config.enabled = true ∧ ∃ trace chunk,
      (onEnd ord config registry span).1 = (some trace, some chunk) ∧
        bareSpans chunk = bareSpans trace.finishedSpans) := by
  unfold onEnd
  rcases hfinish : registry.finishSpan span.spanContext.traceId span with ⟨chunk, after⟩
  cases chunk with
  | none => exact .inl rfl
  | some trace =>
      cases henabled : config.enabled with
      | false => exact .inr (.inl ⟨rfl, trace, rfl⟩)
      | true =>
          simp only [Bool.not_true, Bool.false_eq_true, if_false]
          refine .inr (.inr ⟨trivial, trace, _, rfl, ?_⟩)
          unfold bareSpans
          rw [bare_addTracePropagationData]
          split
          · rw [bare_pushToFirst]
          · rfl

end DatadogSpanProcessor

/-! ## The registry in shards -/

namespace TraceRegistry

/-- The spans held in the entries of all shards. -/
def heldSpans (self : TraceRegistry) : Multiset SpanData := ∑ i, (self.inner i).heldSpans

theorem heldSpans_call (self : TraceRegistry) (c : RegistryCall) :
    self.heldSpans + c.op.spanIn = spansOf (self.call c).1 + (self.call c).2.heldSpans := by
  have hshard := (self.inner (self.getShard c.traceId)).heldSpans_call c
  have hinner : (self.call c).2.inner = Function.update self.inner (self.getShard c.traceId)
      ((self.inner (self.getShard c.traceId)).call c).2 := rfl
  have hchunk : (self.call c).1 = ((self.inner (self.getShard c.traceId)).call c).1 := rfl
  -- the shard of the trace, and the others, which stay as they are
  have hbefore := Finset.add_sum_erase Finset.univ (fun i => (self.inner i).heldSpans)
    (Finset.mem_univ (self.getShard c.traceId))
  have hafter := Finset.add_sum_erase Finset.univ (fun i => ((self.call c).2.inner i).heldSpans)
    (Finset.mem_univ (self.getShard c.traceId))
  have hothers : ∑ i ∈ Finset.univ.erase (self.getShard c.traceId),
      ((self.call c).2.inner i).heldSpans =
      ∑ i ∈ Finset.univ.erase (self.getShard c.traceId), (self.inner i).heldSpans := by
    apply Finset.sum_congr rfl
    intro i hi
    rw [hinner, Function.update_of_ne (Finset.ne_of_mem_erase hi)]
  have hself : ((self.call c).2.inner (self.getShard c.traceId)).heldSpans =
      ((self.inner (self.getShard c.traceId)).call c).2.heldSpans := by
    rw [hinner, Function.update_self]
  rw [hothers, hself] at hafter
  rw [heldSpans, heldSpans, ← hbefore, ← hafter, hchunk, add_right_comm, hshard, add_assoc]

/-- Only the end of a span brings it in, or a chunk out. -/
theorem heldSpans_call_of_not_finish (self : TraceRegistry) (traceId : TraceId) {op : EntryOp}
    (h : ∀ spanData, op ≠ .finishSpan spanData) :
    (self.call ⟨traceId, op⟩).2.heldSpans = self.heldSpans := by
  have hcall := self.heldSpans_call ⟨traceId, op⟩
  have hin : op.spanIn = 0 := by
    cases op with
    | finishSpan spanData => exact absurd rfl (h spanData)
    | _ => rfl
  have hout : spansOf (self.call ⟨traceId, op⟩).1 = 0 := by
    rw [chunk_call]
    cases op with
    | finishSpan spanData => exact absurd rfl (h spanData)
    | registerLocalRootTracePropagationData data =>
        simp only [Entry.step]
        split
        · split <;> rfl
        · rfl
    | registerLocalRootSpan rootSpanId =>
        simp only [Entry.step]
        split
        · split <;> rfl
        · rfl
    | registerSpan spanId data =>
        simp only [Entry.step]
        split <;> rfl
  rw [hin, hout, add_zero, zero_add] at hcall
  exact hcall.symm

end TraceRegistry

/-! ## The queue and the worker -/

variable {R : Type*}

def spansOfChunks (chunks : List TraceChunk) : Multiset SpanData := bareSpans chunks.flatten

@[simp] theorem spansOfChunks_nil : spansOfChunks [] = 0 := rfl

theorem spansOfChunks_append (chunks more : List TraceChunk) :
    spansOfChunks (chunks ++ more) = spansOfChunks chunks + spansOfChunks more := by
  simp [spansOfChunks, bareSpans_append]

namespace Channel

/-- The chunks that the worker took out of the queue and has not exported yet. -/
def workerChunks (self : Channel R) : List TraceChunk :=
  match self.worker with
  | .received _ data => data
  | _ => []

/-- The spans in the queue and at the worker. -/
def heldSpans (self : Channel R) : Multiset SpanData :=
  spansOfChunks self.state.batch.chunks + spansOfChunks self.workerChunks

instance (self : Channel R) : Decidable (Over self) := inferInstanceAs (Decidable (_ ∨ _))

/-- The spans that wait for the worker. -/
def waitingSpans (self : Channel R) : Multiset SpanData :=
  if Over self then 0 else spansOfChunks self.state.batch.chunks

/-- The spans that were accepted when the worker had taken its last batch. -/
def strandedSpans (self : Channel R) : Multiset SpanData :=
  if Over self then spansOfChunks self.state.batch.chunks else 0

theorem heldSpans_eq (self : Channel R) :
    self.heldSpans = self.waitingSpans + spansOfChunks self.workerChunks + self.strandedSpans := by
  unfold heldSpans waitingSpans strandedSpans
  split_ifs
  · rw [zero_add, add_comm]
  · rw [add_zero]

/-- The chunks that are handed to the trace exporter. -/
def exportedChunks : ChannelOutput R → List TraceChunk
  | .exported _ chunks => chunks
  | _ => []

/-- What the worker takes out of the queue it exports before it takes more. -/
theorem workerChunks_step {tx : Sender} {s u : Channel R} {e : ChannelEvent R} {o : ChannelOutput R}
    (h : machine tx s e = some (u, o)) :
    s.workerChunks ++ returned (e, o) = exportedChunks o ++ u.workerChunks := by
  cases moves_of_machine h with
  | offer chunk => simp [send, workerChunks, returned, exportedChunks]
  | signal cs hne hsame => simp [send, workerChunks, returned, exportedChunks]
  | drain => simp [workerChunks, returned, exportedChunks]
  | recv cs hne hworker htakes =>
      -- the worker holds nothing while it receives
      have hfree : s.workerChunks = [] := by
        rcases hworker with hw | hw <;> simp [workerChunks, hw]
      rw [hfree]
      rcases hresult : cs.1 with _ | ⟨message, data⟩
      · simp [recv, workerChunks, returned, exportedChunks, hresult]
      · simp [recv, workerChunks, returned, exportedChunks, hresult]
  | handle message data hworker =>
      have hdata : s.workerChunks = data := by simp [workerChunks, hworker]
      rw [hdata]
      cases data with
      | nil => cases message <;> simp [handle, workerChunks, returned, exportedChunks]
      | cons chunk rest => cases message <;> simp [handle, workerChunks, returned, exportedChunks]
  | drop hworker =>
      simp [workerChunks, returned, exportedChunks, hworker]

/-- Queue and worker together: what is accepted is held until it is exported. -/
theorem heldSpans_step {tx : Sender} {s u : Channel R} {e : ChannelEvent R} {o : ChannelOutput R}
    (h : machine tx s e = some (u, o)) :
    s.heldSpans + spansOfChunks (accepted (e, o)) =
      spansOfChunks (exportedChunks o) + u.heldSpans := by
  have hqueue := congrArg spansOfChunks (chunks_step h)
  have hworker := congrArg spansOfChunks (workerChunks_step h)
  rw [spansOfChunks_append, spansOfChunks_append] at hqueue hworker
  calc
    s.heldSpans + spansOfChunks (accepted (e, o))
        = (spansOfChunks s.state.batch.chunks + spansOfChunks (accepted (e, o))) +
            spansOfChunks s.workerChunks := by
          unfold heldSpans
          abel
    _ = (spansOfChunks s.workerChunks + spansOfChunks (returned (e, o))) +
          spansOfChunks u.state.batch.chunks := by
          rw [hqueue]
          abel
    _ = spansOfChunks (exportedChunks o) + u.heldSpans := by
          rw [hworker]
          unfold heldSpans
          abel

/-! ## What is stranded -/

/-- What is in the queue was accepted, so it is not empty. -/
theorem chunks_ne_nil_step {tx : Sender} {s u : Channel R} {e : ChannelEvent R}
    {o : ChannelOutput R} (hs : ∀ chunk ∈ s.state.batch.chunks, chunk ≠ [])
    (h : machine tx s e = some (u, o)) : ∀ chunk ∈ u.state.batch.chunks, chunk ≠ [] := by
  have haccepted : ∀ chunk ∈ accepted (e, o), chunk ≠ [] := by
    intro chunk hmem
    unfold accepted at hmem
    split at hmem
    · split_ifs at hmem with hempty
      · cases hmem
      · rw [List.mem_singleton.1 hmem]
        simpa using hempty
    · cases hmem
  intro chunk hmem
  have hin : chunk ∈ returned (e, o) ++ u.state.batch.chunks := List.mem_append_right _ hmem
  rw [← chunks_step h] at hin
  rcases List.mem_append.1 hin with hold | hnew
  · exact hs chunk hold
  · exact haccepted chunk hnew

theorem strandedSpans_eq_zero_iff {s : Channel R} (hs : ∀ chunk ∈ s.state.batch.chunks, chunk ≠ []) :
    s.strandedSpans = 0 ↔ (Over s → s.state.batch.chunks = []) := by
  unfold strandedSpans
  split_ifs with hover
  · have hzero : spansOfChunks s.state.batch.chunks = 0 ↔
        ∀ chunk ∈ s.state.batch.chunks, chunk = [] := by
      simp [spansOfChunks, bareSpans]
    rw [hzero]
    refine ⟨fun hall _ => ?_, fun hnil chunk hmem => ?_⟩
    · exact List.eq_nil_iff_forall_not_mem.2 fun chunk hmem => hs chunk hmem (hall chunk hmem)
    · rw [hnil hover] at hmem
      cases hmem
  · simp [hover]

/-- A worker whose loop is over takes nothing out of the queue. -/
theorem over_step {tx : Sender} {s u : Channel R} {e : ChannelEvent R} {o : ChannelOutput R}
    (h : machine tx s e = some (u, o)) (hover : Over s) : Over u ∧ returned (e, o) = [] := by
  cases moves_of_machine h with
  | offer chunk => exact ⟨hover, rfl⟩
  | signal cs hne hsame => exact ⟨hover, rfl⟩
  | drain => exact ⟨hover, rfl⟩
  | recv cs hne hworker htakes =>
      -- only a worker in its loop receives
      rcases hworker with hw | hw <;> simp [Over, hw, closing, isDropped] at hover
  | handle message data hworker =>
      have hreturned : returned (.handle, (s.handle message data).2) = [] := by
        simp only [handle]
        split <;> rfl
      refine ⟨?_, hreturned⟩
      cases message with
      | shutdown => exact .inl rfl
      | _ => simp [Over, hworker, closing, isDropped] at hover
  | drop hworker => exact ⟨.inr rfl, rfl⟩

theorem strandedSpans_le_step {tx : Sender} {s u : Channel R} {e : ChannelEvent R}
    {o : ChannelOutput R} (h : machine tx s e = some (u, o)) : s.strandedSpans ≤ u.strandedSpans := by
  by_cases hover : Over s
  · obtain ⟨hafter, hreturned⟩ := over_step h hover
    have hchunks := chunks_step h
    rw [hreturned, List.nil_append] at hchunks
    rw [strandedSpans, if_pos hover, strandedSpans, if_pos hafter, ← hchunks, spansOfChunks_append]
    exact Multiset.le_add_right _ _
  · rw [strandedSpans, if_neg hover]
    exact Multiset.zero_le _

end Channel

/-! ## The machine -/

/-- `export_chunk_no_wait`: an empty chunk is not offered. -/
def DatadogExporter.exportChunkNoWait (tx : Sender) (chunk : TraceChunk) (channel : Channel R) :
    Except SenderError Unit × Channel R :=
  if chunk.length = 0 then (.ok (), channel)
  else
    let (result, state) := tx.addTraceChunk chunk channel.state
    (result, { channel with state := state })

/-- The registry, the chunks that threads took out of it and have not offered yet, and the queue. -/
structure Pipeline (R : Type*) where
  registry : TraceRegistry
  inHand : HashMap Nat TraceChunk
  channel : Channel R

/-- `onEnd` and `exportChunk` are the two halves of `on_end`; the other calls of the tracer and those of
the queue can come in between. -/
inductive PipelineEvent (R : Type*)
  | tracer (event : TracerEvent)
  | onEnd (thread : Nat) (span : SpanData)
  | exportChunk (thread : Nat)
  | channel (event : ChannelEvent R)

inductive PipelineOutput (R : Type*)
  | tracer (output : TracerOutput)
  | ended (chunk : Option Trace) (exported : Option TraceChunk)
  | offered (chunk : TraceChunk) (result : Except SenderError Unit)
  | channel (output : ChannelOutput R)

namespace Pipeline

variable (config : Config) (ord : IterOrder Str Str) (api : TraceStateApi) (tx : Sender)

def init (hasher : TraceId → Nat) (maxNumberOfSpans : Nat) (otelResource : R) : Pipeline R :=
  { registry := .new config hasher
    inHand := ∅
    channel := .init maxNumberOfSpans otelResource }

/-- A thread ends its next span when the chunk of the last one is offered. -/
def machine : Machine (Pipeline R) (PipelineEvent R) (PipelineOutput R) := fun self event =>
  match event with
  | .tracer (.onEnd _) => none
  | .tracer event =>
      (Tracer.machine config ord api self.registry event).map fun (registry, output) =>
        ({ self with registry := registry }, .tracer output)
  | .onEnd thread span =>
      match self.inHand.lookup thread with
      | some _ => none
      | none =>
          let ((chunk, exported), registry) :=
            DatadogSpanProcessor.onEnd ord config self.registry span
          match exported with
          | none => some ({ self with registry := registry }, .ended chunk none)
          | some traceChunk =>
              some
                ({ self with
                    registry := registry
                    inHand := AList.insert thread traceChunk self.inHand },
                  .ended chunk (some traceChunk))
  | .exportChunk thread =>
      match self.inHand.lookup thread with
      | none => none
      | some chunk =>
          let (result, channel) := DatadogExporter.exportChunkNoWait tx chunk self.channel
          some
            ({ self with inHand := AList.erase thread self.inHand, channel := channel },
              .offered chunk result)
  | .channel (.addTraceChunk _) => none
  | .channel event =>
      (Channel.machine tx self.channel event).map fun (channel, output) =>
        ({ self with channel := channel }, .channel output)

/-! ## Where the spans are -/

/-- The span that ends. -/
def finished : PipelineEvent R × PipelineOutput R → Multiset SpanData
  | (.onEnd _ span, _) => {span.bare}
  | _ => 0

/-- The spans that the worker exports. -/
def exported : PipelineEvent R × PipelineOutput R → Multiset SpanData
  | (_, .channel output) => spansOfChunks (Channel.exportedChunks output)
  | _ => 0

/-- The spans of a chunk that is not exported because the tracer is disabled. -/
def discarded : PipelineEvent R × PipelineOutput R → Multiset SpanData
  | (_, .ended (some trace) none) => bareSpans trace.finishedSpans
  | _ => 0

/-- The spans of a chunk that the queue does not accept. -/
def refused (x : PipelineEvent R × PipelineOutput R) : Multiset SpanData :=
  match x.2 with
  | .offered chunk (.error _) => bareSpans chunk
  | _ => 0

/-- The spans on their way: in the registry, in the hands of a thread, in a queue that the worker
empties, at the worker. -/
def onTheWay (self : Pipeline R) : Multiset SpanData :=
  self.registry.heldSpans.map SpanData.bare + HashMap.sumBy bareSpans self.inHand +
    (self.channel.waitingSpans + spansOfChunks self.channel.workerChunks)

/-- The spans in a queue that nobody empties any more. -/
def stranded (self : Pipeline R) : Multiset SpanData := self.channel.strandedSpans

/-- All the spans in the pipeline. -/
def inside (self : Pipeline R) : Multiset SpanData :=
  self.registry.heldSpans.map SpanData.bare + HashMap.sumBy bareSpans self.inHand +
    self.channel.heldSpans

theorem inside_eq (self : Pipeline R) : self.inside = self.stranded + self.onTheWay := by
  rw [inside, self.channel.heldSpans_eq, onTheWay, stranded]
  abel

/-- No chunk is offered between the delivery of the shutdown to the worker and its end. -/
def OnTime (self : Pipeline R) : PipelineEvent R → Prop
  | .exportChunk thread =>
      Channel.closing self.channel.worker = true →
        ∀ chunk ∈ self.inHand.lookup thread, chunk = []
  | _ => True

instance (self : Pipeline R) : ∀ event, Decidable (OnTime self event)
  | .exportChunk thread =>
      inferInstanceAs (Decidable (Channel.closing self.channel.worker = true →
        ∀ chunk ∈ self.inHand.lookup thread, chunk = []))
  | .tracer _ => .isTrue trivial
  | .onEnd _ _ => .isTrue trivial
  | .channel _ => .isTrue trivial

variable {config ord api tx}

/-- The calls that end no span leave the spans of the registry alone. -/
theorem heldSpans_tracer {registry after : TraceRegistry} {event : TracerEvent}
    {output : TracerOutput} (hend : ∀ span, event ≠ .onEnd span)
    (h : Tracer.machine config ord api registry event = some (after, output)) :
    after.heldSpans = registry.heldSpans := by
  cases event with
  | shouldSample parent traceId answers =>
      have hafter : (Sampler.shouldSample config registry parent traceId answers).2 = after :=
        congrArg Prod.fst (Option.some.inj h)
      rw [← hafter]
      cases henabled : config.enabled with
      | false => simp [Sampler.shouldSample, henabled]
      | true =>
          cases hdata : Sampler.tracePropagationData parent (Sampler.ownResult parent answers) with
          | none => rw [Sampler.shouldSample_of_none registry traceId hdata]
          | some data =>
              rw [(Sampler.shouldSample_of_some registry traceId henabled hdata).1]
              exact registry.heldSpans_call_of_not_finish traceId (by simp)
  | onStart span parentCtx =>
      have hafter : (DatadogSpanProcessor.onStart ord api config registry span parentCtx).2 = after :=
        congrArg Prod.fst (Option.some.inj h)
      rw [← hafter]
      rcases DatadogSpanProcessor.onStart_registry ord api config registry span parentCtx with
        hsame | ⟨op, hcall, hop⟩
      · rw [hsame]
      · rw [hcall]
        refine registry.heldSpans_call_of_not_finish _ ?_
        rcases hop with rfl | rfl
        · simp
        · simp
  | onEnd span => exact absurd rfl (hend span)
  | injectContext cx injector =>
      cases h
      rfl

/-- The end of a span brings it into the registry, and may take a chunk out. -/
theorem heldSpans_onEnd (config : Config) (ord : IterOrder Str Str) (registry : TraceRegistry)
    (span : SpanData) :
    registry.heldSpans.map SpanData.bare + {span.bare} =
      ((DatadogSpanProcessor.onEnd ord config registry span).1.1.elim 0 fun trace =>
          bareSpans trace.finishedSpans) +
        (DatadogSpanProcessor.onEnd ord config registry span).2.heldSpans.map SpanData.bare := by
  have hcall := congrArg (Multiset.map SpanData.bare)
    (registry.heldSpans_call ⟨span.spanContext.traceId, .finishSpan span⟩)
  rw [DatadogSpanProcessor.onEnd_chunk, DatadogSpanProcessor.onEnd_registry,
    TraceRegistry.finishSpan_eq]
  rw [Multiset.map_add, Multiset.map_add] at hcall
  refine hcall.trans (congrArg (· + _) ?_)
  cases (registry.call ⟨span.spanContext.traceId, .finishSpan span⟩).1 with
  | none => rfl
  | some trace => rfl

/-- A chunk that is offered is in the queue, or was refused. -/
theorem heldSpans_exportChunkNoWait (tx : Sender) (chunk : TraceChunk) (channel : Channel R) :
    channel.heldSpans + bareSpans chunk =
      refused (.exportChunk (R := R) 0,
        .offered chunk (DatadogExporter.exportChunkNoWait tx chunk channel).1) +
        (DatadogExporter.exportChunkNoWait tx chunk channel).2.heldSpans := by
  unfold DatadogExporter.exportChunkNoWait
  cases chunk with
  | nil => simp [refused]
  | cons span rest =>
      rw [if_neg (by simp)]
      rcases tx.addTraceChunk_cases (span :: rest) channel.state with
        ⟨-, hadd⟩ | ⟨-, -, state', hadd, hbatch, -⟩ | ⟨-, -, state', hadd, hchunks, -⟩
      · rw [hadd]
        simp only [refused]
        exact add_comm _ _
      · rw [hadd]
        simp only [refused, Channel.heldSpans, Channel.workerChunks, hbatch]
        exact add_comm _ _
      · rw [hadd]
        simp only [refused, Channel.heldSpans, Channel.workerChunks, hchunks, zero_add,
          List.isEmpty_cons, Bool.false_eq_true, if_false, spansOfChunks_append]
        simp only [spansOfChunks, List.flatten_cons, List.flatten_nil, List.append_nil]
        abel

/-- What leaves the pipeline. -/
def left (x : PipelineEvent R × PipelineOutput R) : Multiset SpanData :=
  exported x + discarded x + refused x

/-- Each step moves spans on, or takes them out, and loses none. -/
theorem inside_step {self next : Pipeline R} {event : PipelineEvent R}
    {output : PipelineOutput R} (h : machine config ord api tx self event = some (next, output)) :
    self.inside + finished (event, output) = left (event, output) + next.inside := by
  cases event with
  | tracer event =>
      cases event with
      | onEnd span => cases h
      | _ =>
          simp only [machine, Option.map_eq_some_iff, Prod.mk.injEq] at h
          obtain ⟨⟨after, answer⟩, hstep, rfl, rfl⟩ := h
          have hheld := heldSpans_tracer (by simp) hstep
          simp [inside, hheld, finished, left, exported, discarded, refused]
  | onEnd thread span =>
      have hheld := heldSpans_onEnd config ord self.registry span
      have hcases := DatadogSpanProcessor.onEnd_cases ord config self.registry span
      simp only [machine] at h
      rcases hend : DatadogSpanProcessor.onEnd ord config self.registry span with
        ⟨⟨chunk, traceChunk⟩, after⟩
      simp only [hend] at h hheld hcases
      cases hfree : self.inHand.lookup thread with
      | some busy => simp [hfree] at h
      | none =>
          simp only [hfree] at h
          have hsplit := HashMap.sumBy_eq_lookup_add bareSpans self.inHand thread
          rw [hfree, Option.elim_none, zero_add] at hsplit
          rcases hcases with hnone | ⟨-, trace, hdropped⟩ | ⟨-, trace, taken, htaken, hbare⟩
          · -- the span waits in the registry for others of its trace
            cases hnone
            cases h
            simp only [Option.elim_none, zero_add] at hheld
            simp only [inside, finished, left, exported, discarded, refused, add_zero, zero_add,
              ← hheld]
            abel
          · -- a disabled tracer drops the chunk
            cases hdropped
            cases h
            simp only [Option.elim_some] at hheld
            simp only [inside, finished, left, exported, discarded, refused, add_zero, zero_add]
            calc
              self.registry.heldSpans.map SpanData.bare + HashMap.sumBy bareSpans self.inHand +
                    self.channel.heldSpans + {span.bare}
                  = (self.registry.heldSpans.map SpanData.bare + {span.bare}) +
                      HashMap.sumBy bareSpans self.inHand + self.channel.heldSpans := by abel
              _ = _ := by
                    rw [hheld]
                    abel
          · -- the thread has the chunk in hand
            cases htaken
            cases h
            simp only [Option.elim_some, ← hbare] at hheld
            simp only [inside, finished, left, exported, discarded, refused, add_zero, zero_add,
              HashMap.sumBy_insert, ← hsplit]
            calc
              self.registry.heldSpans.map SpanData.bare + HashMap.sumBy bareSpans self.inHand +
                    self.channel.heldSpans + {span.bare}
                  = (self.registry.heldSpans.map SpanData.bare + {span.bare}) +
                      HashMap.sumBy bareSpans self.inHand + self.channel.heldSpans := by abel
              _ = _ := by
                    rw [hheld]
                    abel
  | exportChunk thread =>
      simp only [machine] at h
      cases htaken : self.inHand.lookup thread with
      | none => simp [htaken] at h
      | some chunk =>
          simp only [htaken, Option.some.injEq, Prod.mk.injEq] at h
          obtain ⟨rfl, rfl⟩ := h
          have hoffer := heldSpans_exportChunkNoWait tx chunk self.channel
          have hsplit := HashMap.sumBy_eq_lookup_add bareSpans self.inHand thread
          rw [htaken, Option.elim_some] at hsplit
          have hsame : refused (.exportChunk (R := R) thread,
              .offered chunk (DatadogExporter.exportChunkNoWait tx chunk self.channel).1) =
              refused (.exportChunk (R := R) 0,
                .offered chunk (DatadogExporter.exportChunkNoWait tx chunk self.channel).1) := rfl
          simp only [inside, finished, left, exported, discarded, add_zero, zero_add, hsplit,
            hsame]
          calc
            self.registry.heldSpans.map SpanData.bare +
                  (bareSpans chunk + HashMap.sumBy bareSpans (AList.erase thread self.inHand)) +
                  self.channel.heldSpans
                = self.registry.heldSpans.map SpanData.bare +
                    HashMap.sumBy bareSpans (AList.erase thread self.inHand) +
                    (self.channel.heldSpans + bareSpans chunk) := by abel
            _ = _ := by
                  rw [hoffer]
                  abel
  | channel event =>
      cases event with
      | addTraceChunk chunk => cases h
      | _ =>
          simp only [machine, Option.map_eq_some_iff, Prod.mk.injEq] at h
          obtain ⟨⟨after, answer⟩, hstep, rfl, rfl⟩ := h
          have hheld := Channel.heldSpans_step hstep
          rw [Channel.accepted_of_ne (by simp), spansOfChunks_nil, add_zero] at hheld
          simp only [inside, finished, left, exported, discarded, refused, add_zero, hheld]
          abel

/-- What a step does to the queue and its worker is a step of the channel, or nothing. -/
theorem channel_step {self next : Pipeline R} {event : PipelineEvent R} {output : PipelineOutput R}
    (h : machine config ord api tx self event = some (next, output)) :
    (next.channel = self.channel ∧ OnTime self event) ∨
      ∃ e o, Channel.machine tx self.channel e = some (next.channel, o) ∧
        (OnTime self event ↔ Channel.NotLate self.channel e) := by
  cases event with
  | tracer event =>
      cases event with
      | onEnd span => cases h
      | _ =>
          simp only [machine, Option.map_eq_some_iff, Prod.mk.injEq] at h
          obtain ⟨⟨after, answer⟩, -, rfl, -⟩ := h
          exact .inl ⟨rfl, trivial⟩
  | onEnd thread span =>
      simp only [machine] at h
      split at h
      · cases h
      · split at h
        · cases h
          exact .inl ⟨rfl, trivial⟩
        · cases h
          exact .inl ⟨rfl, trivial⟩
  | exportChunk thread =>
      simp only [machine] at h
      cases htaken : self.inHand.lookup thread with
      | none => simp [htaken] at h
      | some chunk =>
          simp only [htaken, Option.some.injEq, Prod.mk.injEq] at h
          obtain ⟨rfl, -⟩ := h
          have honTime : OnTime self (.exportChunk thread) ↔
              Channel.NotLate self.channel (.addTraceChunk chunk) := by
            simp [OnTime, Channel.NotLate, htaken]
          cases chunk with
          | nil => exact .inl ⟨rfl, honTime.2 fun _ => rfl⟩
          | cons span rest => exact .inr ⟨.addTraceChunk (span :: rest), _, rfl, honTime⟩
  | channel event =>
      cases event with
      | addTraceChunk chunk => cases h
      | _ =>
          simp only [machine, Option.map_eq_some_iff, Prod.mk.injEq] at h
          obtain ⟨⟨after, answer⟩, hstep, rfl, -⟩ := h
          exact .inr ⟨_, _, hstep, iff_of_true trivial (Channel.notLate_of_ne (by simp))⟩

/-! ## What the metrics show -/

/-- The spans that the queue accepts, and those that find it full. -/
def answered (x : PipelineEvent R × PipelineOutput R) : Nat × Nat :=
  match x.2 with
  | .offered chunk (.ok _) => (chunk.length, 0)
  | .offered chunk (.error (.batchFull _)) => (0, chunk.length)
  | _ => 0

/-- The spans in the metrics that are drained: those that were queued, and those that were dropped. -/
def drained (x : PipelineEvent R × PipelineOutput R) : Nat × Nat :=
  match x.2 with
  | .channel (.metrics metrics) => (metrics.spansQueued, metrics.spansDroppedFullBuffer)
  | _ => 0

/-- The spans in the metrics that are not drained yet. -/
def counted (self : Pipeline R) : Nat × Nat :=
  (self.channel.state.metrics.spansQueued, self.channel.state.metrics.spansDroppedFullBuffer)

/-- Apart from offers only the metrics fetcher changes the metrics. -/
theorem metrics_channel {s u : Channel R} {event : ChannelEvent R} {output : ChannelOutput R}
    (hoffer : ∀ chunk, event ≠ .addTraceChunk chunk)
    (h : Channel.machine tx s event = some (u, output)) :
    (output = .metrics s.state.metrics ∧ u.state.metrics = .default) ∨
      ((∀ metrics, output ≠ .metrics metrics) ∧ u.state.metrics = s.state.metrics) := by
  cases Channel.moves_of_machine h with
  | offer chunk => exact absurd rfl (hoffer chunk)
  | signal cs _ hsame => exact .inr ⟨by simp [Channel.send], hsame.2.1⟩
  | drain => exact .inl ⟨rfl, rfl⟩
  | recv cs _ _ htakes => exact .inr ⟨by simp [Channel.recv], htakes.1⟩
  | handle message data _ =>
      refine .inr ⟨?_, rfl⟩
      simp only [Channel.handle]
      split <;> simp
  | drop _ => exact .inr ⟨by simp, rfl⟩

/-- Each step counts what it answers. -/
theorem counted_step {self next : Pipeline R} {event : PipelineEvent R} {output : PipelineOutput R}
    (h : machine config ord api tx self event = some (next, output)) :
    self.counted + answered (event, output) = drained (event, output) + next.counted := by
  cases event with
  | tracer event =>
      cases event with
      | onEnd span => cases h
      | _ =>
          simp only [machine, Option.map_eq_some_iff, Prod.mk.injEq] at h
          obtain ⟨⟨after, answer⟩, -, rfl, rfl⟩ := h
          simp [counted, answered, drained]
  | onEnd thread span =>
      simp only [machine] at h
      split at h
      · cases h
      · split at h
        · cases h
          simp [counted, answered, drained]
        · cases h
          simp [counted, answered, drained]
  | exportChunk thread =>
      simp only [machine] at h
      cases htaken : self.inHand.lookup thread with
      | none => simp [htaken] at h
      | some chunk =>
          simp only [htaken, Option.some.injEq, Prod.mk.injEq] at h
          obtain ⟨rfl, rfl⟩ := h
          cases chunk with
          | nil => simp [counted, answered, drained, DatadogExporter.exportChunkNoWait]
          | cons span rest =>
              simp only [DatadogExporter.exportChunkNoWait, List.length_cons,
                Nat.add_eq_zero_iff, one_ne_zero, and_false, if_false]
              rcases tx.addTraceChunk_cases (span :: rest) self.channel.state with
                ⟨-, hadd⟩ | ⟨-, -, state', hadd, -, -, hqueued, hdropped⟩ |
                ⟨-, -, state', hadd, -, -, -, hqueued, hdropped⟩
              · simp [counted, answered, drained, hadd]
              · simp [counted, answered, drained, hadd, hqueued, hdropped]
              · simp [counted, answered, drained, hadd, hqueued, hdropped]
  | channel event =>
      cases event with
      | addTraceChunk chunk => cases h
      | _ =>
          simp only [machine, Option.map_eq_some_iff, Prod.mk.injEq] at h
          obtain ⟨⟨after, answer⟩, hstep, rfl, rfl⟩ := h
          rcases metrics_channel (by simp) hstep with ⟨rfl, hafter⟩ | ⟨hother, hafter⟩
          · simp [counted, answered, drained, hafter, QueueMetrics.default]
          · simp only [counted, answered, drained, hafter]
            split
            · rename_i metrics heq
              exact absurd (by simpa using heq) (hother metrics)
            · simp

/-! ## Every run -/

section Runs

variable {hasher : TraceId → Nat} {maxNumberOfSpans : Nat} {otelResource : R}
  {l : List (PipelineEvent R × PipelineOutput R)} {self : Pipeline R}

theorem heldSpans_new (config : Config) (hasher : TraceId → Nat) :
    (TraceRegistry.new config hasher).heldSpans = 0 :=
  Finset.sum_eq_zero fun _ _ => rfl

/-- An enabled tracer discards nothing. -/
theorem discarded_eq_zero (henabled : config.enabled = true) {next : Pipeline R}
    {event : PipelineEvent R} {output : PipelineOutput R}
    (h : machine config ord api tx self event = some (next, output)) :
    discarded (event, output) = 0 := by
  cases event with
  | onEnd thread span =>
      have hcases := DatadogSpanProcessor.onEnd_cases ord config self.registry span
      simp only [machine] at h
      rcases hend : DatadogSpanProcessor.onEnd ord config self.registry span with
        ⟨⟨chunk, traceChunk⟩, after⟩
      simp only [hend] at h hcases
      rcases hcases with hnone | ⟨hdisabled, -⟩ | ⟨-, trace, taken, htaken, -⟩
      · cases hnone
        split at h
        · cases h
        · cases h
          rfl
      · rw [henabled] at hdisabled
        cases hdisabled
      · cases htaken
        split at h
        · cases h
        · cases h
          rfl
  | tracer event =>
      cases event with
      | onEnd span => cases h
      | _ =>
          simp only [machine, Option.map_eq_some_iff, Prod.mk.injEq] at h
          obtain ⟨-, -, -, rfl⟩ := h
          rfl
  | exportChunk thread =>
      simp only [machine] at h
      split at h
      · cases h
      · cases h
        rfl
  | channel event =>
      cases event with
      | addTraceChunk chunk => cases h
      | _ =>
          simp only [machine, Option.map_eq_some_iff, Prod.mk.injEq] at h
          obtain ⟨-, -, -, rfl⟩ := h
          rfl

/-- The queue of a pipeline is one of a channel, and settled by whether the chunks came on time. -/
structure Sound (onTime : Prop) (pipeline : Pipeline R) : Prop where
  coherent : Channel.Coherent pipeline.channel
  nonempty : ∀ chunk ∈ pipeline.channel.state.batch.chunks, chunk ≠ []
  settled : Channel.Settled onTime pipeline.channel

theorem sound_of_run
    (h : Machine.Run (machine config ord api tx) (init config hasher maxNumberOfSpans otelResource) l
      self) :
    Sound (Machine.Run (Machine.guard (machine config ord api tx) OnTime)
      (init config hasher maxNumberOfSpans otelResource) l self) self := by
  refine h.invariant (I := fun l self =>
    Sound (Machine.Run (Machine.guard (machine config ord api tx) OnTime)
      (init config hasher maxNumberOfSpans otelResource) l self) self) ?_ ?_
  · refine ⟨⟨rfl, rfl⟩, fun chunk hmem => (by cases hmem), fun hover => ?_, fun _ => .start⟩
    simp [Channel.Over, init, Channel.init, Channel.closing, Channel.isDropped] at hover
  · intro l self next event output hrun hsound hstep
    rw [hrun.guard_snoc hstep]
    rcases channel_step hstep with ⟨hsame, honTime⟩ | ⟨e, o, hmove, honTime⟩
    · refine ⟨by rw [hsame]; exact hsound.coherent, by rw [hsame]; exact hsound.nonempty, ?_⟩
      rw [hsame]
      simpa [honTime] using hsound.settled
    · rw [honTime]
      exact ⟨hsound.coherent.step hmove, Channel.chunks_ne_nil_step hsound.nonempty hmove,
        hsound.settled.step hsound.coherent hmove⟩

/-- Spans are stranded exactly if a chunk was offered while the worker shut down. -/
theorem stranded_eq_zero_iff
    (h : Machine.Run (machine config ord api tx) (init config hasher maxNumberOfSpans otelResource) l
      self) :
    self.stranded = 0 ↔
      Machine.Run (Machine.guard (machine config ord api tx) OnTime)
        (init config hasher maxNumberOfSpans otelResource) l self := by
  have hsound := sound_of_run h
  rw [stranded, Channel.strandedSpans_eq_zero_iff hsound.nonempty]
  by_cases hover : Channel.Over self.channel
  · rw [← hsound.settled.1 hover]
    simp [hover]
  · exact iff_of_true (fun hc => absurd hc hover) (hsound.settled.2 hover)

/-- What is stranded stays so. -/
theorem stranded_le {l : List (PipelineEvent R × PipelineOutput R)} {self later : Pipeline R}
    (h : Machine.Run (machine config ord api tx) self l later) :
    self.stranded ≤ later.stranded := by
  refine h.preserves (I := fun later => self.stranded ≤ later.stranded) ?_ (le_refl _)
  intro before after event output hle hstep
  refine le_trans hle ?_
  rcases channel_step hstep with ⟨hsame, -⟩ | ⟨e, o, hmove, -⟩
  · rw [stranded, stranded, hsame]
  · exact Channel.strandedSpans_le_step hmove

/-- Whatever the threads and the worker do and in whatever order: the spans that ended are those that
were exported, those that a disabled tracer discarded, those that the queue refused, those that are
stranded in it, and those on their way, each of them once.  A stranded span stays so in any run that
goes on, and there is one if and only if a chunk was offered while the worker shut down.  Every span of a
chunk that was offered while the worker lived is counted once, as queued or as dropped, in the metrics
that were drained or in those that are left. -/
theorem spans_accounted
    (h : Machine.Run (machine config ord api tx) (init config hasher maxNumberOfSpans otelResource) l
      self) :
    (l.map finished).sum =
        (l.map exported).sum + (l.map discarded).sum + (l.map refused).sum + self.stranded +
          self.onTheWay ∧
      (self.stranded = 0 ↔
        Machine.Run (Machine.guard (machine config ord api tx) OnTime)
          (init config hasher maxNumberOfSpans otelResource) l self) ∧
      (∀ l' later, Machine.Run (machine config ord api tx) self l' later →
        self.stranded ≤ later.stranded) ∧
      (config.enabled = true → (l.map discarded).sum = 0) ∧
      (l.map answered).sum = (l.map drained).sum + self.counted := by
  refine ⟨?_, stranded_eq_zero_iff h, fun _ _ hlater => stranded_le hlater, ?_, ?_⟩
  · have hledger := h.ledger inside finished left inside_step
    have hinit : (init config hasher maxNumberOfSpans otelResource).inside = 0 := by
      simp [init, inside, heldSpans_new, Channel.heldSpans, Channel.init, SharedState.new,
        Batch.new, Channel.workerChunks]
    have hleft : (l.map left).sum =
        (l.map exported).sum + (l.map discarded).sum + (l.map refused).sum := by
      rw [← List.sum_map_add, ← List.sum_map_add]
      rfl
    rw [hinit, zero_add, hleft, inside_eq, ← add_assoc] at hledger
    exact hledger
  · intro henabled
    refine h.invariant (I := fun l _ => (l.map discarded).sum = 0) rfl ?_
    intro l self next event output _ ih hstep
    rw [List.map_append, List.sum_append, ih, zero_add, List.map_singleton, List.sum_singleton]
    exact discarded_eq_zero henabled hstep
  · have hledger := h.ledger counted answered drained counted_step
    have hinit : (init config hasher maxNumberOfSpans otelResource).counted = 0 := rfl
    rwa [hinit, zero_add] at hledger

end Runs

/-- A span whose trace is not registered goes through to the worker; a second one is in a thread's hand
while the worker shuts down. -/
def twoOrphans : List (PipelineEvent Unit) :=
  [.onEnd 1 (.ofIds 7 1), .exportChunk 1, .onEnd 1 (.ofIds 8 2), .channel .triggerFlush,
    .channel (.receive false), .channel .handle, .channel .triggerShutdown,
    .channel (.receive false), .exportChunk 1, .channel .handle, .channel .drop]

theorem spans_accounted_twoOrphans :
    ∃ l self,
      Machine.Run (machine defaultConfig (.asStored Str Str)
        { fromKeyValue := fun _ => none, fromStr := fun _ => none }
        { flushTriggerNumberOfSpans := 1 }) (init defaultConfig (fun _ => 0) 10 ()) l self ∧
      l.map Prod.fst = twoOrphans ∧
      (l.map exported).sum = {(SpanData.ofIds 7 1).bare} ∧
      self.stranded = {(SpanData.ofIds 8 2).bare} ∧
      (l.map finished).sum =
        (l.map exported).sum + (l.map discarded).sum + (l.map refused).sum + self.stranded +
          self.onTheWay := by
  have hrun := Machine.run_of_exec (m := machine defaultConfig (.asStored Str Str)
    { fromKeyValue := fun _ => none, fromStr := fun _ => none }
    { flushTriggerNumberOfSpans := 1 }) (s := init defaultConfig (fun _ => 0) 10 ()) twoOrphans rfl
  exact ⟨_, _, hrun, rfl, rfl, rfl, (spans_accounted hrun).1⟩

end Pipeline

end Otel
end DdTrace
