import DdTrace.Otel.Pipeline
import DdTrace.Otel.RegistryMetrics
import DdTrace.Otel.Telemetry

/-!
# SpansMetrics — from the counters to telemetry

A thread wakes up every ten seconds, takes the counters of the registry, one shard after the other, then
those of the queue, and adds points with them to telemetry.  In between the tracer goes on counting, and
telemetry may be set up, or break.

`points_accounted` says that the points account for all that was counted: what the worker was told, what
was taken while telemetry did not listen, and what is still in the counters make up what the tracer
counted, for each metric, and with telemetry on from the first round nothing that was taken is lost.  What
is counted after the last round stays in the counters: the thread ends on the shutdown signal without
another round, and no point is made of it.
-/

namespace DdTrace
namespace Otel

open DdTrace.Lib DdTrace.Core

namespace TraceRegistryMetrics

/-- What was added since. -/
def since (after before : TraceRegistryMetrics) : TraceRegistryMetrics :=
  { spansCreated := after.spansCreated - before.spansCreated
    spansFinished := after.spansFinished - before.spansFinished
    traceSegmentsCreated := after.traceSegmentsCreated - before.traceSegmentsCreated
    traceSegmentsClosed := after.traceSegmentsClosed - before.traceSegmentsClosed
    tracePartialFlushCount := after.tracePartialFlushCount - before.tracePartialFlushCount }

theorem since_add (before added : TraceRegistryMetrics) : (before + added).since before = added := by
  apply TraceRegistryMetrics.ext <;> exact Nat.add_sub_cancel_left ..

end TraceRegistryMetrics

namespace TraceRegistry

/-- The counters of the shards that were drained start again at zero. -/
theorem metrics_drainAll (stats : TraceRegistryMetrics) (self : TraceRegistry)
    (shards : List (Fin TRACE_REGISTRY_SHARDS)) (i : Fin TRACE_REGISTRY_SHARDS) :
    ((drainAll stats self shards).2.inner i).metrics =
      if i ∈ shards then 0 else (self.inner i).metrics := by
  induction shards generalizing stats self with
  | nil => simp [drainAll]
  | cons shardIdx shards ih =>
      have hdrain : ((self.drain shardIdx).2.inner i).metrics =
          if i = shardIdx then 0 else (self.inner i).metrics := by
        have hinner : (self.drain shardIdx).2.inner =
            Function.update self.inner shardIdx (self.inner shardIdx).getMetrics.2 := rfl
        rw [hinner]
        split_ifs with hi
        · rw [hi, Function.update_self]
          rfl
        · rw [Function.update_of_ne hi]
      simp only [drainAll, ih, hdrain, List.mem_cons]
      by_cases hrest : i ∈ shards
      · simp [hrest]
      · simp [hrest]

theorem shardMetrics_getMetrics (self : TraceRegistry) : self.getMetrics.2.shardMetrics = 0 := by
  refine Finset.sum_eq_zero fun i _ => ?_
  rw [getMetrics, metrics_drainAll, if_pos (List.mem_finRange i)]

end TraceRegistry

/-! ## What the tracer counts -/

/-- The spans that an operation finishes. -/
def EntryOp.finishes : EntryOp → Nat
  | .finishSpan _ => 1
  | _ => 0

/-- Every span that finishes is counted, registered or not. -/
theorem Entry.spansFinished_counts (config : Config) (entry : Option Trace) (op : EntryOp) :
    (Entry.counts config entry op).spansFinished = op.finishes := by
  cases op with
  | registerLocalRootTracePropagationData data => cases entry <;> rfl
  | registerLocalRootSpan rootSpanId => rfl
  | registerSpan spanId data => cases entry <;> rfl
  | finishSpan spanData =>
      cases entry with
      | none => rfl
      | some trace =>
          simp only [counts]
          split_ifs <;> rfl

/-- What a call does to the registry: nothing, or one call, which finishes a span if the span ends. -/
theorem Tracer.registry_cases {config : Config} {ord : IterOrder Str Str}
    {traceStateApi : TraceStateApi} {registry after : TraceRegistry} {event : TracerEvent}
    {output : TracerOutput}
    (h : Tracer.machine config ord traceStateApi registry event = some (after, output))
    (hend : ∀ span, event ≠ .onEnd span) :
    after = registry ∨
      ∃ call : RegistryCall, after = (registry.call call).2 ∧ call.op.finishes = 0 := by
  cases event with
  | shouldSample parent id answers =>
      have hafter : (Sampler.shouldSample config registry parent id answers).2 = after :=
        congrArg Prod.fst (Option.some.inj h)
      cases henabled : config.enabled with
      | false =>
          refine .inl ?_
          rw [← hafter]
          simp [Sampler.shouldSample, henabled]
      | true =>
          cases hdata : Sampler.tracePropagationData parent (Sampler.ownResult parent answers) with
          | none =>
              rw [Sampler.shouldSample_of_none registry id hdata] at hafter
              exact .inl hafter.symm
          | some data =>
              rw [(Sampler.shouldSample_of_some registry id henabled hdata).1] at hafter
              exact .inr ⟨_, hafter.symm, rfl⟩
  | onStart span parentCtx =>
      have hafter :
          (DatadogSpanProcessor.onStart ord traceStateApi config registry span parentCtx).2 = after :=
        congrArg Prod.fst (Option.some.inj h)
      rcases DatadogSpanProcessor.onStart_registry ord traceStateApi config registry span parentCtx
        with hsame | ⟨op, hcall, rfl | rfl⟩
      · exact .inl (hafter.symm.trans hsame)
      · exact .inr ⟨_, hafter.symm.trans hcall, rfl⟩
      · exact .inr ⟨_, hafter.symm.trans hcall, rfl⟩
  | onEnd span => exact absurd rfl (hend span)
  | injectContext cx injector =>
      cases h
      exact .inl rfl

def PipelineEvent.fetchesMetrics {R : Type*} : PipelineEvent R → Bool
  | .channel .getMetrics => true
  | _ => false

/-- Only the fetcher gets the metrics of the queue. -/
theorem Channel.getMetrics_of_metrics {R : Type*} {tx : Sender} {s u : Channel R} {e : ChannelEvent R}
    {metrics : QueueMetrics} (h : machine tx s e = some (u, .metrics metrics)) : e = .getMetrics := by
  generalize ho : ChannelOutput.metrics metrics = o at h
  cases moves_of_machine h with
  | offer chunk => cases ho
  | signal cs _ _ => cases ho
  | drain => rfl
  | recv cs _ _ _ => cases ho
  | handle message data _ =>
      simp only [handle] at ho
      split at ho <;> cases ho
  | drop _ => cases ho

namespace Pipeline

variable {R : Type*} {config : Config} {ord : IterOrder Str Str} {traceStateApi : TraceStateApi}
  {tx : Sender} {self next : Pipeline R} {event : PipelineEvent R} {output : PipelineOutput R}

/-- The spans that end. -/
def ended : PipelineEvent R → Nat
  | .onEnd _ _ => 1
  | _ => 0

/-- What a step does to the registry: nothing, or one call, which finishes the spans that end. -/
theorem registry_cases (h : machine config ord traceStateApi tx self event = some (next, output)) :
    (next.registry = self.registry ∧ ended event = 0) ∨
      ∃ call : RegistryCall, next.registry = (self.registry.call call).2 ∧
        call.op.finishes = ended event := by
  cases event with
  | tracer event =>
      by_cases hend : ∃ span, event = .onEnd span
      · rcases hend with ⟨span, rfl⟩
        cases h
      · have hother : ∀ span, event ≠ .onEnd span := fun span hspan => hend ⟨span, hspan⟩
        have hmove : ∃ after answer, Tracer.machine config ord traceStateApi self.registry event =
            some (after, answer) ∧ next.registry = after := by
          cases event with
          | onEnd span => exact absurd rfl (hother span)
          | _ =>
              simp only [machine, Option.map_eq_some_iff, Prod.mk.injEq] at h
              rcases h with ⟨⟨after, answer⟩, hstep, rfl, rfl⟩
              exact ⟨after, answer, hstep, rfl⟩
        rcases hmove with ⟨after, answer, hstep, hnext⟩
        rcases Tracer.registry_cases hstep hother with hsame | ⟨call, hcall, hfinishes⟩
        · exact .inl ⟨hnext.trans hsame, rfl⟩
        · exact .inr ⟨call, hnext.trans hcall, hfinishes⟩
  | onEnd thread span =>
      have hregistry : next.registry =
          (DatadogSpanProcessor.onEnd ord config self.registry span).2 := by
        simp only [machine] at h
        split at h
        · cases h
        · split at h
          · cases h
            rfl
          · cases h
            rfl
      -- the span is finished also where the chunk is not exported
      rw [DatadogSpanProcessor.onEnd_registry, TraceRegistry.finishSpan_eq] at hregistry
      exact .inr ⟨⟨span.spanContext.traceId, .finishSpan span⟩, hregistry, rfl⟩
  | exportChunk thread =>
      simp only [machine] at h
      split at h
      · cases h
      · cases h
        exact .inl ⟨rfl, rfl⟩
  | channel event =>
      cases event with
      | addTraceChunk chunk => cases h
      | _ =>
          simp only [machine, Option.map_eq_some_iff, Prod.mk.injEq] at h
          rcases h with ⟨-, -, rfl, -⟩
          exact .inl ⟨rfl, rfl⟩

/-- The counters of the registry only grow, and count the spans that end. -/
theorem shardMetrics_step
    (h : machine config ord traceStateApi tx self event = some (next, output)) :
    ∃ added, next.registry.shardMetrics = self.registry.shardMetrics + added ∧
      added.spansFinished = ended event := by
  rcases registry_cases h with ⟨hsame, hended⟩ | ⟨call, hcall, hfinishes⟩
  · exact ⟨0, by rw [hsame, add_zero], hended.symm⟩
  · refine ⟨_, by rw [hcall, TraceRegistry.shardMetrics_call], ?_⟩
    rw [Entry.spansFinished_counts, hfinishes]

/-- Nobody but the fetcher takes the counters of the queue. -/
theorem drained_eq_zero
    (h : machine config ord traceStateApi tx self event = some (next, output))
    (hevent : event.fetchesMetrics = false) : drained (event, output) = 0 := by
  cases event with
  | tracer event =>
      cases event with
      | onEnd span => cases h
      | _ =>
          simp only [machine, Option.map_eq_some_iff, Prod.mk.injEq] at h
          rcases h with ⟨-, -, -, rfl⟩
          rfl
  | onEnd thread span =>
      simp only [machine] at h
      split at h
      · cases h
      · split at h
        · cases h
          rfl
        · cases h
          rfl
  | exportChunk thread =>
      simp only [machine] at h
      split at h
      · cases h
      · cases h
        rfl
  | channel event =>
      have hoffer : ∀ chunk, event ≠ .addTraceChunk chunk := by
        rintro chunk rfl
        cases h
      have hmove : ∃ after answer, Channel.machine tx self.channel event = some (after, answer) ∧
          output = .channel answer := by
        cases event with
        | addTraceChunk chunk => exact absurd rfl (hoffer chunk)
        | _ =>
            simp only [machine, Option.map_eq_some_iff, Prod.mk.injEq] at h
            rcases h with ⟨⟨after, answer⟩, hstep, -, rfl⟩
            exact ⟨after, answer, hstep, rfl⟩
      rcases hmove with ⟨after, answer, hstep, rfl⟩
      -- only an answer with metrics takes something out
      cases answer with
      | metrics metrics =>
          rw [Channel.getMetrics_of_metrics hstep] at hevent
          cases hevent
      | _ => rfl

end Pipeline

/-! ## The collector -/

/-- Where the collector is in its loop. -/
inductive CollectorState
  | waiting
  /-- It has the counters of some shards, and goes on with these. -/
  | draining (registryMetrics : TraceRegistryMetrics) (shards : List (Fin TRACE_REGISTRY_SHARDS))
  | read (registryMetrics : TraceRegistryMetrics) (exporterQueueMetrics : QueueMetrics)
  | finished

namespace TelemetryMetricsCollector

/-- The points of a round, in the order in which they are added. -/
def points (registryMetrics : TraceRegistryMetrics) (exporterQueueMetrics : QueueMetrics) :
    List (F64 × TelemetryMetric) :=
  [ (Binary64.ofInt registryMetrics.spansCreated, .spansCreated),
    (Binary64.ofInt registryMetrics.spansFinished, .spansFinished),
    (Binary64.ofInt registryMetrics.traceSegmentsCreated, .traceSegmentsCreated),
    (Binary64.ofInt registryMetrics.traceSegmentsClosed, .traceSegmentsClosed),
    (Binary64.ofInt registryMetrics.tracePartialFlushCount, .tracePartialFlushCount),
    (Binary64.ofInt exporterQueueMetrics.spansQueued, .spansEnqueuedForSerialization),
    (Binary64.ofInt exporterQueueMetrics.spansDroppedFullBuffer, .spansDroppedBufferFull) ]

end TelemetryMetricsCollector

/-- The tracer, telemetry, and the collector between them. -/
structure MetricsSystem (R W K : Type*) where
  pipeline : Pipeline R
  telemetry : TelemetrySystem W K
  collector : CollectorState

inductive MetricsEvent (R : Type*)
  | pipeline (event : PipelineEvent R)
  | telemetry (event : TelemetryEvent)
  /-- Nobody stopped the collector for ten seconds. -/
  | timeout
  | drainShard
  | readQueue
  | emitMetrics
  /-- The collector gets the signal, or the handle is gone. -/
  | shutdown

def TelemetryEvent.addsPoints : TelemetryEvent → Bool
  | .addPoints _ | .addPoint _ _ => true
  | _ => false

/-- Beside its output, a step of the tracer has what it added to the counters of the registry. -/
inductive MetricsOutput (R K : Type*)
  | pipeline (output : PipelineOutput R) (added : TraceRegistryMetrics)
  | telemetry (calls : List (WorkerCall K))
  | emitted (registryMetrics : TraceRegistryMetrics) (exporterQueueMetrics : QueueMetrics)
      (calls : List (WorkerCall K))
  | silent

namespace MetricsSystem

variable {R W K : Type*}

section Machine

variable (config : Config) (ord : IterOrder Str Str) (traceStateApi : TraceStateApi) (tx : Sender)
  (configApi : ConfigApi) (api : MetricContexts W K)

def init (hasher : TraceId → Nat) (maxNumberOfSpans : Nat) (otelResource : R) (worker : W) :
    MetricsSystem R W K :=
  { pipeline := .init config hasher maxNumberOfSpans otelResource
    telemetry := .new worker
    collector := .waiting }

/-- Nobody else fetches the metrics of the queue, or adds points. -/
def machine : Machine (MetricsSystem R W K) (MetricsEvent R) (MetricsOutput R K) :=
  fun self event =>
    match event with
    | .pipeline event =>
        -- the fetcher of the metrics is in the hands of the collector
        if event.fetchesMetrics then none
        else
          (Pipeline.machine config ord traceStateApi tx self.pipeline event).map
            fun (pipeline, output) =>
              ({ self with pipeline := pipeline },
                .pipeline output
                  (pipeline.registry.shardMetrics.since self.pipeline.registry.shardMetrics))
    | .telemetry event =>
        -- nobody else adds points
        if event.addsPoints then none
        else
          (TelemetrySystem.machine configApi api self.telemetry event).map fun (telemetry, calls) =>
            ({ self with telemetry := telemetry }, .telemetry calls)
    | .timeout =>
        match self.collector with
        | .waiting =>
            some
              ({ self with
                  collector := .draining .default (List.finRange TRACE_REGISTRY_SHARDS) }, .silent)
        | _ => none
    | .drainShard =>
        -- the lock of a shard is given back before the next one is taken
        match self.collector with
        | .draining stats (shardIdx :: shards) =>
            let (shardStats, registry) := self.pipeline.registry.drain shardIdx
            some
              ({ self with
                  pipeline := { self.pipeline with registry := registry }
                  collector := .draining (stats + shardStats) shards }, .silent)
        | _ => none
    | .readQueue =>
        match self.collector with
        | .draining stats [] =>
            let (queueMetrics, state) := QueueMetricsFetcher.getMetrics self.pipeline.channel.state
            some
              ({ self with
                  pipeline :=
                    { self.pipeline with
                      channel := { self.pipeline.channel with state := state } }
                  collector := .read stats queueMetrics }, .silent)
        | _ => none
    | .emitMetrics =>
        match self.collector with
        | .read registryMetrics queueMetrics =>
            (TelemetrySystem.machine configApi api self.telemetry
              (.addPoints (TelemetryMetricsCollector.points registryMetrics queueMetrics))).map
              fun (telemetry, calls) =>
                ({ self with telemetry := telemetry, collector := .waiting },
                  .emitted registryMetrics queueMetrics calls)
        | _ => none
    | .shutdown =>
        -- the signal is seen only between two rounds
        match self.collector with
        | .waiting => some ({ self with collector := .finished }, .silent)
        | _ => none

end Machine

/-! ## What is counted, and what is told -/

/-- The counters as the metrics that they are reported under. -/
def count (registryMetrics : TraceRegistryMetrics) (queued dropped : Nat) : TelemetryMetric → Nat
  | .spansCreated => registryMetrics.spansCreated
  | .spansFinished => registryMetrics.spansFinished
  | .spansEnqueuedForSerialization => queued
  | .spansDroppedBufferFull => dropped
  | .traceSegmentsCreated => registryMetrics.traceSegmentsCreated
  | .traceSegmentsClosed => registryMetrics.traceSegmentsClosed
  | .tracePartialFlushCount => registryMetrics.tracePartialFlushCount

/-- What a step of the tracer counts. -/
def counted (metric : TelemetryMetric) (x : MetricsEvent R × MetricsOutput R K) : Nat :=
  match x with
  | (.pipeline event, .pipeline output added) =>
      let answered := Pipeline.answered (event, output)
      count added answered.1 answered.2 metric
  | _ => 0

/-- The spans that end in a step. -/
def ended (x : MetricsEvent R × MetricsOutput R K) : Nat :=
  match x.1 with
  | .pipeline event => Pipeline.ended event
  | _ => 0

/-- What the collector takes to telemetry. -/
def emitted (metric : TelemetryMetric) (x : MetricsEvent R × MetricsOutput R K) : Nat :=
  match x.2 with
  | .emitted registryMetrics queueMetrics _ =>
      count registryMetrics queueMetrics.spansQueued queueMetrics.spansDroppedFullBuffer metric
  | _ => 0

/-- The value of a point, as the number that it was. -/
def numberOf (value : F64) : Nat := ((Binary64.toInt? value).map Int.toNat).getD 0

def pointOf (metric : TelemetryMetric) : Report → Nat
  | .point info value => if info = metric.ddtelemetryMetricInfo then numberOf value else 0
  | _ => 0

/-- What the worker makes of a round of the collector. -/
def told (api : MetricContexts W K) (worker : W) : MetricsOutput R K → List Report
  | .emitted _ _ calls => calls.filterMap (api.report worker)
  | _ => []

/-- What the worker gets of a metric in a round. -/
def delivered (api : MetricContexts W K) (worker : W) (metric : TelemetryMetric)
    (x : MetricsEvent R × MetricsOutput R K) : Nat :=
  ((told api worker x.2).map (pointOf metric)).sum

/-- What the collector takes while telemetry does not listen. -/
def lost (api : MetricContexts W K) (worker : W) (metric : TelemetryMetric)
    (x : MetricsEvent R × MetricsOutput R K) : Nat :=
  match told api worker x.2 with
  | [] => emitted metric x
  | _ => 0

/-- The counters that the collector has in its hands. -/
def inHand (metric : TelemetryMetric) : CollectorState → Nat
  | .draining stats _ => count stats 0 0 metric
  | .read stats queueMetrics =>
      count stats queueMetrics.spansQueued queueMetrics.spansDroppedFullBuffer metric
  | .waiting | .finished => 0

/-- What was counted and did not get to telemetry yet. -/
def pending (metric : TelemetryMetric) (self : MetricsSystem R W K) : Nat :=
  count self.pipeline.registry.shardMetrics self.pipeline.counted.1 self.pipeline.counted.2 metric +
    inHand metric self.collector

theorem count_add (r r' : TraceRegistryMetrics) (q q' d d' : Nat) (metric : TelemetryMetric) :
    count (r + r') (q + q') (d + d') metric = count r q d metric + count r' q' d' metric := by
  cases metric <;> rfl

/-- The counters of a shard go from the registry to the collector. -/
theorem count_drain (shard rest stats : TraceRegistryMetrics) (q d : Nat) (metric : TelemetryMetric) :
    count (shard + rest) q d metric + count stats 0 0 metric =
      count rest q d metric + count (stats + shard) 0 0 metric := by
  have hshard := count_add shard rest 0 q 0 d metric
  have hstats := count_add stats shard 0 0 0 0 metric
  rw [zero_add, zero_add] at hshard
  rw [hshard, hstats]
  ac_rfl

/-- The counters of the queue go there. -/
theorem count_read (rest stats : TraceRegistryMetrics) (q d : Nat) (metric : TelemetryMetric) :
    count rest q d metric + count stats 0 0 metric =
      count rest 0 0 metric + count stats q d metric := by
  have hrest := count_add rest 0 0 q 0 d metric
  have hstats := count_add stats 0 0 q 0 d metric
  rw [zero_add, zero_add, add_zero] at hrest hstats
  rw [hrest, hstats]
  ac_rfl

end MetricsSystem

namespace MetricsSystem

variable {R W K : Type*} {config : Config} {ord : IterOrder Str Str} {traceStateApi : TraceStateApi}
  {tx : Sender} {configApi : ConfigApi} {api : MetricContexts W K}

/-! ## What a step does -/

/-- The steps of the system. -/
inductive Steps (config : Config) (ord : IterOrder Str Str) (traceStateApi : TraceStateApi)
    (tx : Sender) (configApi : ConfigApi) (api : MetricContexts W K) (self : MetricsSystem R W K) :
    MetricsEvent R → MetricsSystem R W K → MetricsOutput R K → Prop
  | pipeline (event : PipelineEvent R) (next : Pipeline R) (output : PipelineOutput R) :
      event.fetchesMetrics = false →
        Pipeline.machine config ord traceStateApi tx self.pipeline event = some (next, output) →
          Steps config ord traceStateApi tx configApi api self (.pipeline event)
            { self with pipeline := next }
            (.pipeline output
              (next.registry.shardMetrics.since self.pipeline.registry.shardMetrics))
  | telemetry (event : TelemetryEvent) (next : TelemetrySystem W K) (calls : List (WorkerCall K)) :
      event.addsPoints = false →
        TelemetrySystem.machine configApi api self.telemetry event = some (next, calls) →
          Steps config ord traceStateApi tx configApi api self (.telemetry event)
            { self with telemetry := next } (.telemetry calls)
  /-- The collector starts a round, or stops. -/
  | idle (event : MetricsEvent R) (next : CollectorState) :
      (event = .timeout ∨ event = .shutdown) → (∀ metric, inHand metric self.collector = 0) →
        (∀ metric, inHand metric next = 0) →
          Steps config ord traceStateApi tx configApi api self event
            { self with collector := next } .silent
  | drainShard (stats : TraceRegistryMetrics) (shardIdx : Fin TRACE_REGISTRY_SHARDS)
      (shards : List (Fin TRACE_REGISTRY_SHARDS)) :
      self.collector = .draining stats (shardIdx :: shards) →
        Steps config ord traceStateApi tx configApi api self .drainShard
          { self with
            pipeline := { self.pipeline with registry := (self.pipeline.registry.drain shardIdx).2 }
            collector := .draining (stats + (self.pipeline.registry.drain shardIdx).1) shards }
          .silent
  | readQueue (stats : TraceRegistryMetrics) (state : SharedState R) :
      self.collector = .draining stats [] → state.metrics = .default →
        Steps config ord traceStateApi tx configApi api self .readQueue
          { self with
            pipeline :=
              { self.pipeline with channel := { self.pipeline.channel with state := state } }
            collector := .read stats self.pipeline.channel.state.metrics }
          .silent
  | emitMetrics (registryMetrics : TraceRegistryMetrics) (queueMetrics : QueueMetrics)
      (next : TelemetrySystem W K) (calls : List (WorkerCall K)) :
      self.collector = .read registryMetrics queueMetrics →
        TelemetrySystem.machine configApi api self.telemetry
          (.addPoints (TelemetryMetricsCollector.points registryMetrics queueMetrics)) =
            some (next, calls) →
          Steps config ord traceStateApi tx configApi api self .emitMetrics
            { self with telemetry := next, collector := .waiting }
            (.emitted registryMetrics queueMetrics calls)

theorem steps_of_machine {self next : MetricsSystem R W K} {event : MetricsEvent R}
    {output : MetricsOutput R K}
    (h : machine config ord traceStateApi tx configApi api self event = some (next, output)) :
    Steps config ord traceStateApi tx configApi api self event next output := by
  cases event with
  | pipeline event =>
      simp only [machine, Option.ite_none_left_eq_some, Option.map_eq_some_iff, Prod.mk.injEq,
        Bool.not_eq_true] at h
      rcases h with ⟨hevent, ⟨after, answer⟩, hstep, rfl, rfl⟩
      exact .pipeline event after answer hevent hstep
  | telemetry event =>
      simp only [machine, Option.ite_none_left_eq_some, Option.map_eq_some_iff, Prod.mk.injEq,
        Bool.not_eq_true] at h
      rcases h with ⟨hevent, ⟨after, calls⟩, hstep, rfl, rfl⟩
      exact .telemetry event after calls hevent hstep
  | timeout =>
      simp only [machine] at h
      split at h
      · rename_i hwaiting
        cases h
        exact .idle _ _ (.inl rfl) (by simp [hwaiting, inHand]) fun metric => by
          cases metric <;> rfl
      · cases h
  | drainShard =>
      simp only [machine] at h
      split at h
      · rename_i stats shardIdx shards hdraining
        cases h
        exact .drainShard stats shardIdx shards hdraining
      · cases h
  | readQueue =>
      simp only [machine] at h
      split at h
      · rename_i stats hdrained
        cases h
        exact .readQueue stats _ hdrained rfl
      · cases h
  | emitMetrics =>
      simp only [machine] at h
      split at h
      · rename_i registryMetrics queueMetrics hread
        simp only [Option.map_eq_some_iff, Prod.mk.injEq] at h
        rcases h with ⟨⟨after, calls⟩, hstep, rfl, rfl⟩
        exact .emitMetrics registryMetrics queueMetrics after calls hread hstep
      · cases h
  | shutdown =>
      simp only [machine] at h
      split at h
      · rename_i hwaiting
        cases h
        exact .idle _ _ (.inr rfl) (by simp [hwaiting, inHand]) fun _ => rfl
      · cases h

/-- What was to come, and what the tracer counts, is what the collector takes to telemetry, and what is
to come then. -/
theorem pending_step {self next : MetricsSystem R W K} {event : MetricsEvent R}
    {output : MetricsOutput R K} (metric : TelemetryMetric)
    (h : machine config ord traceStateApi tx configApi api self event = some (next, output)) :
    self.pending metric + counted metric (event, output) =
      emitted metric (event, output) + next.pending metric := by
  cases steps_of_machine h with
  | pipeline event after answer hevent hstep =>
      rcases Pipeline.shardMetrics_step hstep with ⟨added, hadded, -⟩
      have hcounted := Pipeline.counted_step hstep
      rw [Pipeline.drained_eq_zero hstep hevent, zero_add] at hcounted
      -- what the step added stands in its output
      simp only [pending, counted, emitted, hadded, TraceRegistryMetrics.since_add, zero_add]
      rw [← hcounted, Prod.fst_add, Prod.snd_add, count_add]
      exact add_right_comm _ _ _
  | telemetry event after calls hevent hstep => exact (zero_add _).symm
  | idle event after hevent hbefore hafter =>
      rcases hevent with rfl | rfl
      · simp [pending, counted, emitted, hbefore, hafter]
      · simp [pending, counted, emitted, hbefore, hafter]
  | drainShard stats shardIdx shards hdraining =>
      -- the counters change hands, and their sum stays
      have hdrain := self.pipeline.registry.shardMetrics_drain shardIdx
      simp only [pending, counted, emitted, hdraining, inHand, zero_add, add_zero]
      rw [hdrain]
      exact count_drain _ _ _ _ _ metric
  | readQueue stats state hdrained hstate =>
      simp only [pending, counted, emitted, hdrained, inHand, zero_add, add_zero, Pipeline.counted,
        hstate]
      exact count_read _ _ _ _ metric
  | emitMetrics registryMetrics queueMetrics after calls hread hstep =>
      simp only [pending, counted, emitted, hread, inHand, add_zero]
      exact add_comm _ _

/-! ## A round that nobody interrupts -/

/-- What a round takes to telemetry, and what it leaves behind. -/
def emitMetrics (api : MetricContexts W K) (self : MetricsSystem R W K) :
    MetricsSystem R W K × MetricsOutput R K :=
  let (registryMetrics, registry) := self.pipeline.registry.getMetrics
  let (queueMetrics, state) := QueueMetricsFetcher.getMetrics self.pipeline.channel.state
  let (telemetry, calls) := self.telemetry.withTelemetryHandle fun handle _ =>
    handle.addPoints api self.telemetry.worker
      (TelemetryMetricsCollector.points registryMetrics queueMetrics)
  ({ pipeline :=
      { self.pipeline with
        registry := registry
        channel := { self.pipeline.channel with state := state } }
     telemetry := telemetry
     collector := .waiting },
    .emitted registryMetrics queueMetrics calls)

/-- A round, as it stands in a history. -/
def round (api : MetricContexts W K) (self : MetricsSystem R W K) :
    List (MetricsEvent R × MetricsOutput R K) :=
  (.timeout, .silent) :: ((List.finRange TRACE_REGISTRY_SHARDS).map fun _ => (.drainShard, .silent)) ++
    [(.readQueue, .silent), (.emitMetrics, (emitMetrics api self).2)]

/-- The rest of the shards, one after the other. -/
theorem run_drains (stats : TraceRegistryMetrics) (shards : List (Fin TRACE_REGISTRY_SHARDS))
    (self : MetricsSystem R W K) (hdraining : self.collector = .draining stats shards) :
    Machine.Run (machine config ord traceStateApi tx configApi api) self
      (shards.map fun _ => (.drainShard, .silent))
      { self with
        pipeline :=
          { self.pipeline with
            registry := (TraceRegistry.drainAll stats self.pipeline.registry shards).2 }
        collector := .draining (TraceRegistry.drainAll stats self.pipeline.registry shards).1 [] } := by
  induction shards generalizing stats self with
  | nil =>
      rcases self with ⟨pipeline, telemetry, collector⟩
      cases hdraining
      exact .start
  | cons shardIdx shards ih =>
      have hfirst : machine config ord traceStateApi tx configApi api self .drainShard =
          some
            ({ self with
                pipeline :=
                  { self.pipeline with registry := (self.pipeline.registry.drain shardIdx).2 }
                collector := .draining (stats + (self.pipeline.registry.drain shardIdx).1) shards },
              .silent) := by
        simp only [machine, hdraining]
      exact (Machine.Run.single hfirst).append (ih _ _ rfl)

/-- The steps of a round are the round. -/
theorem run_emitMetrics (self : MetricsSystem R W K) (hwaiting : self.collector = .waiting) :
    Machine.Run (machine config ord traceStateApi tx configApi api) self (round api self)
      (emitMetrics api self).1 := by
  have htimeout : machine config ord traceStateApi tx configApi api self .timeout =
      some
        ({ self with collector := .draining .default (List.finRange TRACE_REGISTRY_SHARDS) },
          .silent) := by
    simp only [machine, hwaiting]
  have hdrains := @run_drains R W K config ord traceStateApi tx configApi api .default
    (List.finRange TRACE_REGISTRY_SHARDS)
    { self with collector := .draining .default (List.finRange TRACE_REGISTRY_SHARDS) } rfl
  have hgetMetrics : TraceRegistry.drainAll .default self.pipeline.registry
      (List.finRange TRACE_REGISTRY_SHARDS) = self.pipeline.registry.getMetrics := rfl
  rw [hgetMetrics] at hdrains
  refine ((Machine.Run.single htimeout).append hdrains).append ?_
  unfold emitMetrics
  -- the counters are only passed on from here, so they need not be computed
  generalize self.pipeline.registry.getMetrics = drained
  exact (Machine.Run.single rfl).append (Machine.Run.single rfl)

/-- The tracer counts nothing in the steps of a round. -/
theorem counted_round (self : MetricsSystem R W K) (metric : TelemetryMetric) :
    ((round api self).map (counted metric)).sum = 0 := by
  simp [round, counted, emitMetrics]

theorem ended_round (self : MetricsSystem R W K) : ((round api self).map ended).sum = 0 := by
  simp [round, ended]

/-- Then there is nothing to come. -/
theorem pending_emitMetrics (self : MetricsSystem R W K) (metric : TelemetryMetric) :
    (emitMetrics api self).1.pending metric = 0 := by
  have hshards : (emitMetrics api self).1.pipeline.registry.shardMetrics = 0 :=
    self.pipeline.registry.shardMetrics_getMetrics
  have hqueue : (emitMetrics api self).1.pipeline.counted = (0, 0) := rfl
  have hwaiting : (emitMetrics api self).1.collector = .waiting := rfl
  rw [pending, hshards, hqueue, hwaiting]
  cases metric <;> rfl

/-! ## What telemetry makes of it -/

theorem numberOf_ofInt {n : Nat} (h : n < 2 ^ 53) : numberOf (Binary64.ofInt n) = n := by
  rw [numberOf, Binary64.toInt?_ofInt (by simpa using h)]
  rfl

/-- The points of a round as the worker reads them. -/
def pointReports (r : TraceRegistryMetrics) (q : QueueMetrics) : List Report :=
  (TelemetryMetricsCollector.points r q).map fun point =>
    .point point.2.ddtelemetryMetricInfo point.1

/-- Each metric has its counter among the points. -/
theorem sum_pointReports {r : TraceRegistryMetrics} {q : QueueMetrics} {metric : TelemetryMetric}
    (h : count r q.spansQueued q.spansDroppedFullBuffer metric < 2 ^ 53) :
    ((pointReports r q).map (pointOf metric)).sum =
      count r q.spansQueued q.spansDroppedFullBuffer metric := by
  have hnumber := numberOf_ofInt h
  -- the points of the other metrics have other contexts
  cases metric <;>
    simpa [pointReports, TelemetryMetricsCollector.points, pointOf, count,
      TelemetryMetric.ddtelemetryMetricInfo_injective.eq_iff] using hnumber

/-- The part of a step that telemetry sees. -/
def seen : MetricsEvent R × MetricsOutput R K → List (TelemetryEvent × List (WorkerCall K))
  | (.telemetry event, .telemetry calls) => [(event, calls)]
  | (.emitMetrics, .emitted registryMetrics queueMetrics calls) =>
      [(.addPoints (TelemetryMetricsCollector.points registryMetrics queueMetrics), calls)]
  | _ => []

/-- A round is among what telemetry sees. -/
theorem mem_reported {worker : W} {l : List (MetricsEvent R × MetricsOutput R K)}
    {r : TraceRegistryMetrics} {q : QueueMetrics} {calls : List (WorkerCall K)}
    (hx : (.emitMetrics, .emitted r q calls) ∈ l) :
    (.addPoints (TelemetryMetricsCollector.points r q), calls.filterMap (api.report worker)) ∈
      (l.flatMap seen).map (TelemetrySystem.reported api worker) := by
  have hseen : (.addPoints (TelemetryMetricsCollector.points r q), calls) ∈ l.flatMap seen :=
    List.mem_flatMap.2 ⟨_, hx, List.mem_singleton_self _⟩
  exact List.mem_map_of_mem hseen

section Run

variable {hasher : TraceId → Nat} {maxNumberOfSpans : Nat} {otelResource : R} {worker : W}
  {l : List (MetricsEvent R × MetricsOutput R K)} {self : MetricsSystem R W K}

/-- What telemetry sees of a run is a run of telemetry. -/
theorem telemetry_run
    (h : Machine.Run (machine config ord traceStateApi tx configApi api)
      (init config hasher maxNumberOfSpans otelResource worker) l self) :
    Machine.Run (TelemetrySystem.machine configApi api) (.new worker) (l.flatMap seen)
      self.telemetry := by
  -- telemetry moves in its own steps and in the rounds
  have hsimulation : ∃ telemetry, Machine.Run (TelemetrySystem.machine configApi api) (.new worker)
      (l.flatMap seen) telemetry ∧ telemetry = self.telemetry := by
    refine h.simulation (R := fun _ self telemetry => telemetry = self.telemetry) seen rfl ?_
    rintro l self _ next event output rfl hstep
    refine ⟨next.telemetry, ?_, rfl⟩
    cases steps_of_machine hstep with
    | pipeline event after answer hevent _ => exact .start
    | telemetry event after calls hevent hmove => exact Machine.Run.single hmove
    | idle event after hevent _ _ =>
        rcases hevent with rfl | rfl
        · exact .start
        · exact .start
    | drainShard stats shardIdx shards _ => exact .start
    | readQueue stats state _ _ => exact .start
    | emitMetrics registryMetrics queueMetrics after calls _ hmove => exact Machine.Run.single hmove
  rcases hsimulation with ⟨_, hrun, rfl⟩
  exact hrun

/-- What the worker makes of a round: nothing, or its points. -/
theorem told_cases (hapi : api.Lawful)
    (h : Machine.Run (machine config ord traceStateApi tx configApi api)
      (init config hasher maxNumberOfSpans otelResource worker) l self)
    {r : TraceRegistryMetrics} {q : QueueMetrics} {calls : List (WorkerCall K)}
    (hx : (.emitMetrics, .emitted r q calls) ∈ l) :
    told api self.telemetry.worker (.emitted (R := R) r q calls) = [] ∨
      told api self.telemetry.worker (.emitted (R := R) r q calls) = pointReports r q := by
  have hrun := (TelemetrySystem.refines_run hapi (telemetry_run h)).2
  exact TelemetryMode.reports_addPoints hrun (mem_reported hx)

/-- A step that is no round takes nothing to telemetry. -/
theorem emitted_cases {next : MetricsSystem R W K} {event : MetricsEvent R}
    {output : MetricsOutput R K}
    (h : machine config ord traceStateApi tx configApi api self event = some (next, output)) :
    (∃ r q calls, event = .emitMetrics ∧ output = .emitted r q calls) ∨
      ∀ worker metric, emitted metric (event, output) = 0 ∧ told api worker output = [] := by
  cases steps_of_machine h with
  | emitMetrics registryMetrics queueMetrics after calls _ _ =>
      exact .inl ⟨registryMetrics, queueMetrics, calls, rfl, rfl⟩
  | _ => exact .inr fun _ _ => ⟨rfl, rfl⟩

/-- What is taken to telemetry gets to the worker, or is lost. -/
theorem emitted_eq (hapi : api.Lawful)
    (h : Machine.Run (machine config ord traceStateApi tx configApi api)
      (init config hasher maxNumberOfSpans otelResource worker) l self)
    {x : MetricsEvent R × MetricsOutput R K} (hx : x ∈ l) {metric : TelemetryMetric}
    (hfits : emitted metric x < 2 ^ 53) :
    emitted metric x =
      delivered api self.telemetry.worker metric x + lost api self.telemetry.worker metric x := by
  rcases h.mem_step hx with ⟨before, after, hstep⟩
  rcases x with ⟨event, output⟩
  rcases emitted_cases hstep with ⟨r, q, calls, rfl, rfl⟩ | hnothing
  · -- the points of a round are told all or not at all
    have hfits' : count r q.spansQueued q.spansDroppedFullBuffer metric < 2 ^ 53 := hfits
    rcases told_cases hapi h hx with hsilent | hpoints
    · rw [delivered, lost, hsilent]
      exact (zero_add _).symm
    · rw [delivered, lost, hpoints, sum_pointReports hfits']
      rfl
  · rcases hnothing self.telemetry.worker metric with ⟨hemitted, hsilent⟩
    rw [delivered, lost, hsilent]
    exact (zero_add _).symm

/-- Over a run: what was counted is what was taken to telemetry, and what is to come. -/
theorem counted_eq (metric : TelemetryMetric)
    (h : Machine.Run (machine config ord traceStateApi tx configApi api)
      (init config hasher maxNumberOfSpans otelResource worker) l self) :
    (l.map (counted metric)).sum = (l.map (emitted metric)).sum + self.pending metric := by
  have hledger := h.ledger (fun self => self.pending metric) (counted metric) (emitted metric)
    (pending_step metric)
  have hinit : (init config hasher maxNumberOfSpans otelResource worker :
      MetricsSystem R W K).pending metric = 0 := by
    have hzero : (TraceRegistry.new config hasher).shardMetrics = 0 := Finset.sum_const_zero
    simp only [pending, init, Pipeline.init, hzero, inHand, add_zero]
    cases metric <;> rfl
  rwa [hinit, zero_add] at hledger

/-- Every span that ends is counted as finished. -/
theorem counted_spansFinished
    (h : Machine.Run (machine config ord traceStateApi tx configApi api)
      (init config hasher maxNumberOfSpans otelResource worker) l self) :
    (l.map (counted .spansFinished)).sum = (l.map ended).sum := by
  refine congrArg List.sum (List.map_congr_left fun x hx => ?_)
  rcases h.mem_step hx with ⟨before, after, hstep⟩
  rcases x with ⟨event, output⟩
  cases steps_of_machine hstep with
  | pipeline event after answer hevent hmove =>
      rcases Pipeline.shardMetrics_step hmove with ⟨added, hadded, hfinished⟩
      simp only [counted, count, hadded, TraceRegistryMetrics.since_add, hfinished, ended]
  | idle event after hevent _ _ =>
      rcases hevent with rfl | rfl
      · rfl
      · rfl
  | _ => rfl

/-- Telemetry is on when the collector first comes, and no thread panics with its lock. -/
structure Listens (l : List (MetricsEvent R × MetricsOutput R K)) : Prop where
  started : ∃ before config output after,
    l = before ++ (.telemetry (.initTelemetry config true), output) :: after ∧
      config.value .telemetryEnabled = true ∧
      ∀ x ∈ before, x.1 ≠ .emitMetrics ∧
        ∀ config started, x.1 ≠ .telemetry (.initTelemetry config started)
  sound : ∀ x ∈ l, x.1 ≠ .telemetry .poison

theorem Listens.append_round {l : List (MetricsEvent R × MetricsOutput R K)} (h : Listens l)
    {self : MetricsSystem R W K} : Listens (l ++ round api self) := by
  rcases h with ⟨⟨before, config, output, after, rfl, hstart⟩, hsound⟩
  refine ⟨⟨before, config, output, after ++ round api self, by simp, hstart⟩, ?_⟩
  intro x hx
  rcases List.mem_append.1 hx with hold | hnew
  · exact hsound x hold
  · rcases x with ⟨event, output⟩
    rintro rfl
    simp [round] at hnew

/-- What telemetry sees has the events of the run. -/
theorem of_mem_seen {x : MetricsEvent R × MetricsOutput R K}
    {y : TelemetryEvent × List (WorkerCall K)} (hy : y ∈ seen x) :
    x.1 = .telemetry y.1 ∨ (x.1 = .emitMetrics ∧ ∃ points, y.1 = .addPoints points) := by
  rcases x with ⟨event, output⟩
  cases event with
  | telemetry event =>
      cases output with
      | telemetry calls =>
          cases List.mem_singleton.1 hy
          exact .inl rfl
      | _ => cases hy
  | emitMetrics =>
      cases output with
      | emitted r q calls =>
          cases List.mem_singleton.1 hy
          exact .inr ⟨rfl, _, rfl⟩
      | _ => cases hy
  | _ => cases hy

theorem event_of_mem_seen {l : List (MetricsEvent R × MetricsOutput R K)}
    {y : TelemetryEvent × List Report}
    (hy : y ∈ (l.flatMap seen).map (TelemetrySystem.reported api worker)) :
    ∃ x ∈ l, x.1 = .telemetry y.1 ∨ (x.1 = .emitMetrics ∧ ∃ points, y.1 = .addPoints points) := by
  rcases List.mem_map.1 hy with ⟨z, hz, rfl⟩
  rcases List.mem_flatMap.1 hz with ⟨x, hx, hseen⟩
  exact ⟨x, hx, of_mem_seen hseen⟩

/-- What is reported of a round after the start. -/
theorem told_of_listens (hapi : api.Lawful)
    (h : Machine.Run (machine config ord traceStateApi tx configApi api)
      (init config hasher maxNumberOfSpans otelResource worker) l self)
    (hlistens : Listens l) {r : TraceRegistryMetrics} {q : QueueMetrics}
    {calls : List (WorkerCall K)} (hx : (.emitMetrics, .emitted r q calls) ∈ l) :
    told api self.telemetry.worker (.emitted (R := R) r q calls) = pointReports r q := by
  have hrun := (TelemetrySystem.refines_run hapi (telemetry_run h)).2
  rcases hlistens with ⟨⟨before, config, output, after, rfl, henabled, hbefore⟩, hsound⟩
  -- the round comes after the start
  have hafter : (.emitMetrics, .emitted r q calls) ∈ after := by
    rcases List.mem_append.1 hx with hold | hnew
    · exact absurd rfl (hbefore _ hold).1
    · rcases List.mem_cons.1 hnew with hstart | hlate
      · cases hstart
      · exact hlate
  have hstarted : ∃ started, output = .telemetry started := by
    rcases h.mem_step (List.mem_append_right before (List.mem_cons_self ..)) with ⟨_, _, hstep⟩
    cases steps_of_machine hstep with
    | telemetry event next started _ _ => exact ⟨started, rfl⟩
    | idle event next hevent _ _ => rcases hevent with hevent | hevent <;> cases hevent
  rcases hstarted with ⟨started, rfl⟩
  rw [List.flatMap_append, List.flatMap_cons, List.map_append, List.map_append] at hrun
  refine TelemetryMode.reports_of_started hrun henabled ?_ ?_ _ (mem_reported hafter)
  · intro y hy config' started' hinit
    rcases event_of_mem_seen hy with ⟨x, hx, htelemetry | ⟨-, points, hpoints⟩⟩
    · exact (hbefore x hx).2 config' started' (htelemetry.trans (congrArg _ hinit))
    · cases hpoints.symm.trans hinit
  · intro y hy hpoison
    rcases event_of_mem_seen hy with ⟨x, hx, htelemetry | ⟨-, points, hpoints⟩⟩
    · exact hsound x (by simp [hx]) (htelemetry.trans (congrArg _ hpoison))
    · cases hpoints.symm.trans hpoison

/-- Then every round gets through. -/
theorem lost_eq_zero (hapi : api.Lawful)
    (h : Machine.Run (machine config ord traceStateApi tx configApi api)
      (init config hasher maxNumberOfSpans otelResource worker) l self)
    (hlistens : Listens l) {x : MetricsEvent R × MetricsOutput R K} (hx : x ∈ l)
    (metric : TelemetryMetric) : lost api self.telemetry.worker metric x = 0 := by
  rcases h.mem_step hx with ⟨source, target, hstep⟩
  rcases x with ⟨event, output⟩
  rcases emitted_cases hstep with ⟨r, q, calls, rfl, rfl⟩ | hnothing
  · rw [lost, told_of_listens hapi h hlistens hx]
    rfl
  · rcases hnothing self.telemetry.worker metric with ⟨hemitted, hsilent⟩
    rw [lost, hsilent]
    exact hemitted

/-- What becomes of what the tracer counts.  In any order of the steps of the tracer, of
telemetry and of the collector, what was counted of a metric is what the worker was told of it, in the
points that it reads under the context of the metric, what was taken in rounds of which it was told
nothing, and what is still in the counters or in the hands of the collector, where it stays if no round
follows; among what is counted is every span that ends; and no round is lost if telemetry is on when the
first one comes, and stays so. -/
theorem points_accounted (hapi : api.Lawful)
    (h : Machine.Run (machine config ord traceStateApi tx configApi api)
      (init config hasher maxNumberOfSpans otelResource worker) l self)
    (hfits : ∀ metric, (l.map (counted metric)).sum < 2 ^ 53) :
    (∀ metric, (l.map (counted metric)).sum =
      (l.map (delivered api self.telemetry.worker metric)).sum +
        (l.map (lost api self.telemetry.worker metric)).sum + self.pending metric) ∧
      (l.map (counted .spansFinished)).sum = (l.map ended).sum ∧
      (Listens l → ∀ metric, (l.map (lost api self.telemetry.worker metric)).sum = 0) := by
  refine ⟨?_, counted_spansFinished h, ?_⟩
  · intro metric
    have hcounted := counted_eq metric h
    have hemitted : ∀ x ∈ l, emitted metric x =
        delivered api self.telemetry.worker metric x +
          lost api self.telemetry.worker metric x := by
      intro x hx
      -- a round has no more than was counted until now
      have hround : emitted metric x ≤ (l.map (emitted metric)).sum :=
        List.le_sum_of_mem (List.mem_map_of_mem hx)
      have hlt : emitted metric x < 2 ^ 53 := by
        calc
          emitted metric x ≤ (l.map (emitted metric)).sum := hround
          _ ≤ (l.map (counted metric)).sum := by
              rw [hcounted]
              exact Nat.le_add_right ..
          _ < 2 ^ 53 := hfits metric
      exact emitted_eq hapi h hx hlt
    rw [hcounted, List.map_congr_left hemitted, List.sum_map_add]
  · intro hlistens metric
    refine List.sum_eq_zero fun n hn => ?_
    rcases List.mem_map.1 hn with ⟨x, hx, rfl⟩
    exact lost_eq_zero hapi h hlistens hx metric

end Run

/-- Telemetry is set up, and a span ends whose trace is not registered. -/
def orphanEnds : List (MetricsEvent Unit) :=
  [.telemetry (.initTelemetry .default true), .pipeline (.onEnd 1 (.ofIds 7 1)),
    .pipeline (.exportChunk 1)]

theorem run_orphanEnds :
    ∃ l self,
      Machine.Run (machine defaultConfig (.asStored Str Str)
        { fromKeyValue := fun _ => none, fromStr := fun _ => none }
        { flushTriggerNumberOfSpans := 1 } noJson TelemetrySystem.vectorContexts)
        (init defaultConfig (fun _ => 0) 10 () []) l self ∧
      self.collector = .waiting ∧ Listens l ∧ (l.map ended).sum = 1 ∧
      ∀ metric, (l.map (counted metric)).sum < 2 ^ 53 := by
  have hrun := Machine.run_of_exec (m := machine defaultConfig (.asStored Str Str)
    { fromKeyValue := fun _ => none, fromStr := fun _ => none }
    { flushTriggerNumberOfSpans := 1 } noJson TelemetrySystem.vectorContexts)
    (s := init defaultConfig (fun _ => 0) 10 () []) orphanEnds rfl
  refine ⟨_, _, hrun, rfl, ⟨⟨[], .default, _, _, rfl, rfl, by simp⟩, ?_⟩, rfl, ?_⟩
  · intro x hx
    -- by the events alone, whatever their outputs are
    have hevent : x.1 ∈ orphanEnds := List.mem_map_of_mem (f := Prod.fst) hx
    rcases x with ⟨event, output⟩
    simp only [orphanEnds, List.mem_cons, List.not_mem_nil, or_false] at hevent
    rcases hevent with rfl | rfl | rfl <;> simp
  · intro metric
    cases metric <;> decide +kernel

/-- A round brings what was counted to telemetry. -/
theorem points_accounted_oneRound :
    ∃ l self,
      Machine.Run (machine defaultConfig (.asStored Str Str)
        { fromKeyValue := fun _ => none, fromStr := fun _ => none }
        { flushTriggerNumberOfSpans := 1 } noJson TelemetrySystem.vectorContexts)
        (init defaultConfig (fun _ => 0) 10 () []) l self ∧
      (l.map ended).sum = 1 ∧
      (l.map (delivered TelemetrySystem.vectorContexts self.telemetry.worker
        .spansFinished)).sum = 1 := by
  rcases run_orphanEnds with ⟨l, self, hfirst, hwaiting, hlistens, hended, hfits⟩
  have hrun := hfirst.append (run_emitMetrics self hwaiting)
  have hended' : ((l ++ round TelemetrySystem.vectorContexts self).map ended).sum = 1 := by
    rw [List.map_append, List.sum_append, ended_round, hended]
  have hfits' : ∀ metric,
      ((l ++ round TelemetrySystem.vectorContexts self).map (counted metric)).sum < 2 ^ 53 := by
    intro metric
    rw [List.map_append, List.sum_append, counted_round, add_zero]
    exact hfits metric
  refine ⟨_, _, hrun, hended', ?_⟩
  rcases points_accounted TelemetrySystem.lawful_vectorContexts hrun hfits' with
    ⟨haccounted, hfinished, hlost⟩
  -- nothing is lost, and nothing is to come after a round
  have htold := haccounted .spansFinished
  rw [hfinished, hended', hlost hlistens.append_round, pending_emitMetrics] at htold
  exact htold.symm

end MetricsSystem

end Otel
end DdTrace
