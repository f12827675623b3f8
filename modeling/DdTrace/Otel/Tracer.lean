import DdTrace.Otel.Sampler
import DdTrace.Otel.SpanProcessor
import DdTrace.Propagation.InjectedPriority

/-!
# Tracer — one sampling decision for each trace

The sampler, the span processor and the propagator share the registry.  Each of their calls asks it
once, under its lock; the machine of this module interleaves the calls in any order.  Once a priority
is stored in the entry of a trace, all of them agree on it for as long as the entry lives
(`one_decision_per_trace`): the first call that stores it, each later decision for a local root, each
carrier and each chunk.
-/

namespace DdTrace
namespace Otel

open DdTrace.Lib DdTrace.Core

/-! ## The priority of an entry -/

namespace Entry

/-- The priority that is stored in an entry. -/
def storedPriority (entry : Option Trace) : Option SamplingPriority :=
  entry.bind fun trace => trace.propagationData.samplingDecision.priority

/-- A stored priority stays, and goes into the chunk that is returned. -/
theorem step_of_stored (config : Config) {entry : Option Trace} {p : SamplingPriority}
    (op : EntryOp) (h : storedPriority entry = some p) :
    (∀ trace ∈ (step config entry op).1,
      trace.propagationData.samplingDecision.priority = some p) ∧
    ((step config entry op).2 = none ∨ storedPriority (step config entry op).2 = some p) := by
  cases entry with
  | none => cases h
  | some trace =>
      have hp : trace.propagationData.samplingDecision.priority = some p := h
      cases op with
      | registerLocalRootTracePropagationData data =>
          simp [step, hp, storedPriority]
      | registerLocalRootSpan rootSpanId =>
          simp only [step]
          split_ifs
          · simp [hp, storedPriority]
          · simp [hp, storedPriority]
      | registerSpan spanId data => simp [step, hp, storedPriority]
      | finishSpan spanData =>
          -- recording a span leaves the propagation data alone, so the chunk carries the same
          have hrecorded : (trace.recordFinished spanData).propagationData =
              trace.propagationData := rfl
          simp only [step]
          split_ifs
          · simp [hrecorded, hp, storedPriority]
          · simp [hrecorded, hp]
          · simp [hrecorded, hp, storedPriority]

/-- Only a registration brings a priority into an entry that has none. -/
theorem step_of_not_stored {config : Config} {entry : Option Trace} {op : EntryOp}
    {p : SamplingPriority} (h : storedPriority entry = none)
    (h' : storedPriority (step config entry op).2 = some p) :
    (∃ data, op = .registerLocalRootTracePropagationData data ∧
      data.samplingDecision.priority = some p) ∨
    ∃ spanId data, op = .registerSpan spanId data ∧ data.samplingDecision.priority = some p := by
  cases op with
  | registerLocalRootTracePropagationData data =>
      refine .inl ⟨data, rfl, ?_⟩
      cases entry with
      | none => exact h'
      | some trace =>
          have hp : trace.propagationData.samplingDecision.priority = none := h
          simpa [step, hp, storedPriority] using h'
  | registerLocalRootSpan rootSpanId =>
      exfalso
      cases entry with
      | none => cases h'
      | some trace =>
          have hp : trace.propagationData.samplingDecision.priority = none := h
          simp only [step] at h'
          split_ifs at h'
          · simp [hp, storedPriority] at h'
          · simp [hp, storedPriority] at h'
  | registerSpan spanId data =>
      refine .inr ⟨spanId, data, rfl, ?_⟩
      cases entry with
      | none => exact h'
      | some trace =>
          have hp : trace.propagationData.samplingDecision.priority = none := h
          simp [step, hp, storedPriority] at h'
  | finishSpan spanData =>
      exfalso
      cases entry with
      | none => cases h'
      | some trace =>
          have hp : (trace.recordFinished spanData).propagationData.samplingDecision.priority =
              none := h
          simp only [step] at h'
          -- flushed, removed or kept: the entry has no priority in any of the three
          split_ifs at h'
          · simp [hp, storedPriority] at h'
          · simp [storedPriority] at h'
          · simp [hp, storedPriority] at h'

end Entry

namespace TraceRegistry

/-- The priority that is stored for a trace. -/
def storedPriority (self : TraceRegistry) (traceId : TraceId) : Option SamplingPriority :=
  Entry.storedPriority (self.trace traceId)

/-- The entry of the trace lives. -/
def isRegistered (self : TraceRegistry) (traceId : TraceId) : Bool := (self.trace traceId).isSome

variable {self : TraceRegistry} {traceId : TraceId} {p : SamplingPriority}

/-- No call changes a priority that is stored. -/
theorem call_of_stored (c : RegistryCall) (h : self.storedPriority traceId = some p) :
    (c.traceId = traceId → ∀ trace ∈ (self.call c).1,
      trace.propagationData.samplingDecision.priority = some p) ∧
    ((self.call c).2.isRegistered traceId = true →
      (self.call c).2.storedPriority traceId = some p) := by
  by_cases hid : c.traceId = traceId
  · have hstep := Entry.step_of_stored (self.inner (self.getShard c.traceId)).config c.op h
    subst hid
    refine ⟨?_, ?_⟩
    · intro _
      rw [chunk_call]
      exact hstep.1
    · intro hlives
      rw [isRegistered, trace_call, if_pos rfl] at hlives
      rw [storedPriority, trace_call, if_pos rfl]
      rcases hstep.2 with hnone | hsome
      · rw [hnone] at hlives
        cases hlives
      · exact hsome
  · -- a call for another trace does not touch this entry
    refine ⟨fun hsame => absurd hsame hid, ?_⟩
    intro _
    rw [storedPriority, trace_call, if_neg (Ne.symm hid)]
    exact h

/-- Only a registration stores a priority. -/
theorem call_of_not_stored {c : RegistryCall} (h : self.storedPriority traceId = none)
    (h' : (self.call c).2.storedPriority traceId = some p) :
    c.traceId = traceId ∧
    ((∃ data, c.op = .registerLocalRootTracePropagationData data ∧
      data.samplingDecision.priority = some p) ∨
    ∃ spanId data, c.op = .registerSpan spanId data ∧
      data.samplingDecision.priority = some p) := by
  rw [storedPriority, trace_call] at h'
  split at h'
  · rename_i hid
    exact ⟨hid.symm, Entry.step_of_not_stored h h'⟩
  · rw [storedPriority] at h
    rw [h] at h'
    cases h'

end TraceRegistry

/-! ## Parent contexts -/

/-- The contexts that a span can have as its parent: without a span, with a local span, or extracted
from a carrier. -/
inductive ParentContext (ord : IterOrder Str Str) (api : TraceStateApi) : Context → Prop
  | new : ParentContext ord api .new
  | localSpan {cx : Context} (spanContext : SpanContext) :
      spanContext.isRemote = false → ParentContext ord api cx →
        ParentContext ord api (cx.withSpanContext spanContext)
  | extracted {cx : Context} (propagator : DatadogPropagator) (extractor : Propagation.Carrier) :
      ParentContext ord api cx →
        ParentContext ord api (propagator.extractWithContext ord api cx extractor)

/-- A span with this parent is a local root: the parent is remote or missing. -/
def Context.isLocalRootParent (self : Context) : Bool :=
  self.spanContext.isRemote || !self.hasActiveSpan

namespace ParentContext

variable {ord : IterOrder Str Str} {api : TraceStateApi} {cx : Context}

/-- The flags of a remote parent say what the data of its extraction says. -/
theorem of_isRemote (h : ParentContext ord api cx) (hremote : cx.spanContext.isRemote = true) :
    cx.hasActiveSpan = true ∧ ∃ sc, cx.extractData = some (.fromSpanContext ord sc) ∧
      cx.spanContext.traceFlags = extractTraceFlags sc := by
  induction h with
  | new => cases hremote
  | localSpan spanContext hlocal _ _ =>
      -- a local span hides what was extracted before
      have hremote' : spanContext.isRemote = true := hremote
      rw [hlocal] at hremote'
      cases hremote'
  | @extracted cx propagator extractor _ ih =>
      simp only [DatadogPropagator.extractWithContext] at hremote ⊢
      split at hremote
      · rename_i hdisabled
        simp only [hdisabled, if_true]
        exact ih hremote
      · rename_i henabled
        simp only [henabled]
        cases hextract : propagator.inner.extract ord extractor with
        | none =>
            -- nothing was found in the carrier, and the context is passed on
            rw [hextract] at hremote
            exact ih hremote
        | some sc => exact ⟨rfl, sc, rfl, rfl⟩

end ParentContext

/-! ## The decision for a span -/

/-- The decision of the API for a priority. -/
def decisionOf (p : SamplingPriority) : OtelSamplingDecision :=
  if p.isKeep then .recordAndSample else .recordOnly

namespace Sampler

variable {ord : IterOrder Str Str} {api : TraceStateApi} {cfg : Config} {parent : Option Context}
  {answers : RootAnswers} {data : TracePropagationData}

/-- The result of the sampler before the registry is asked. -/
def ownResult (parent : Option Context) (answers : RootAnswers) : DdSamplingResult :=
  DatadogSampler.sample (isParentSampled parent) answers

/-- A decision that was taken here goes into the registry with the priority of its mechanism. -/
theorem priority_sampleRoot (answers : RootAnswers) :
    ∃ info q, (DatadogSampler.sampleRoot answers).traceRootInfo = some info ∧ info.priority = q ∧
      (DatadogSampler.sampleRoot answers).isKeep = q.isKeep :=
  ⟨_, _, rfl, rfl, (SamplingMechanism.isKeep_toPriority _ _).symm⟩

/-- What the flags of an extracted context say about its parent. -/
theorem isParentSampled_of_isRemote {cx : Context} (h : ParentContext ord api cx)
    (hremote : cx.spanContext.isRemote = true) :
    ∃ sc, cx.extractData = some (.fromSpanContext ord sc) ∧
      isParentSampled (some cx) = sc.sampling.priority.map (·.isKeep) := by
  rcases h.of_isRemote hremote with ⟨hactive, sc, hdata, hflags⟩
  refine ⟨sc, hdata, ?_⟩
  simp only [isParentSampled, isParentDeferred, Option.any_some, hflags, extractTraceFlags]
  cases hp : sc.sampling.priority with
  | none => simp
  | some priority =>
      -- a priority sets the sampled flag or clears it, and never the deferred one
      by_cases hkeep : priority.isKeep = true
      · simp [hkeep, hactive, hflags, extractTraceFlags, hp, TRACE_FLAG_DEFERRED,
          TraceFlags.sampled, TraceFlags.isSampled]
      · simp [hkeep, hactive, hflags, extractTraceFlags, hp, TRACE_FLAG_DEFERRED,
          TraceFlags.sampled, TraceFlags.isSampled]

/-- What the sampler stores has a priority, and this priority is its own decision. -/
theorem priority_of_tracePropagationData (hparent : ∀ cx ∈ parent, ParentContext ord api cx)
    (h : tracePropagationData parent (ownResult parent answers) = some data) :
    ∃ q, data.samplingDecision.priority = some q ∧
      (ownResult parent answers).toOtelDecision = decisionOf q := by
  cases hsampled : isParentSampled parent with
  | none =>
      -- the decision is taken here
      rcases priority_sampleRoot answers with ⟨info, q, hinfo, hq, hkeep⟩
      simp only [ownResult, hsampled, DatadogSampler.sample] at h ⊢
      refine ⟨q, ?_, ?_⟩
      · rw [tracePropagationData, hinfo] at h
        cases h
        simp [rootPropagationData, hq]
      · simp [DdSamplingResult.toOtelDecision, decisionOf, hkeep]
  | some isKeep =>
      -- the decision is inherited; it is stored only for a remote parent
      simp only [ownResult, hsampled, DatadogSampler.sample] at h ⊢
      simp only [tracePropagationData, remotePropagationData] at h
      cases parent with
      | none => cases h
      | some cx =>
          cases hremote : cx.spanContext.isRemote with
          | false => simp [Option.filter, hremote] at h
          | true =>
              -- the sampled flag and the stored priority come from the same extraction
              rcases isParentSampled_of_isRemote (hparent cx rfl) hremote with ⟨sc, hdata, hsc⟩
              rw [hsampled] at hsc
              cases hp : sc.sampling.priority with
              | none => simp [hp] at hsc
              | some q =>
                  have hkeep : isKeep = q.isKeep := by simpa [hp] using hsc
                  have hstored : data.samplingDecision.priority = some q := by
                    simp only [Option.filter, hremote, if_true, hdata, Option.bind_eq_bind,
                      Option.bind_some, Option.some.injEq] at h
                    rw [← h]
                    exact hp
                  exact ⟨q, hstored, by simp [DdSamplingResult.toOtelDecision, decisionOf, hkeep]⟩

/-- For a local root the registry is asked. -/
theorem exists_tracePropagationData (answers : RootAnswers)
    (hparent : ∀ cx ∈ parent, ParentContext ord api cx)
    (hroot : ∀ cx ∈ parent, cx.isLocalRootParent = true) :
    ∃ data, tracePropagationData parent (ownResult parent answers) = some data := by
  cases hsampled : isParentSampled parent with
  | none => exact ⟨_, by simp only [ownResult, hsampled, DatadogSampler.sample]; rfl⟩
  | some isKeep =>
      -- an inherited decision has a parent, and this parent is remote
      simp only [ownResult, hsampled, DatadogSampler.sample]
      cases parent with
      | none => cases hsampled
      | some cx =>
          rcases Bool.or_eq_true_iff.1 (hroot cx rfl) with hremote | hinactive
          · rcases isParentSampled_of_isRemote (hparent cx rfl) hremote with ⟨sc, hdata, _⟩
            simp [tracePropagationData, remotePropagationData, Option.filter, hremote, hdata]
          · -- without an active span nothing is inherited
            have hnone : cx.hasActiveSpan = false := by simpa using hinactive
            simp [isParentSampled, Option.filter, hnone] at hsampled

/-- Without data to store the registry is left alone. -/
theorem shouldSample_of_none (registry : TraceRegistry) (traceId : TraceId)
    (h : tracePropagationData parent (ownResult parent answers) = none) :
    (shouldSample cfg registry parent traceId answers).2 = registry := by
  unfold ownResult at h
  simp only [shouldSample, h]
  split
  · rfl
  · rfl

/-- Otherwise the data is registered, and a priority that was stored before decides. -/
theorem shouldSample_of_some (registry : TraceRegistry) (traceId : TraceId)
    (henabled : cfg.enabled = true)
    (h : tracePropagationData parent (ownResult parent answers) = some data) :
    (shouldSample cfg registry parent traceId answers).2 =
        (registry.call ⟨traceId, .registerLocalRootTracePropagationData data⟩).2 ∧
      (shouldSample cfg registry parent traceId answers).1.decision =
        ((registry.storedPriority traceId).map decisionOf).getD
          (ownResult parent answers).toOtelDecision := by
  have hresult := registry.registerLocalRootTracePropagationData_result traceId data
  have hmoves := registry.registerLocalRootTracePropagationData_eq traceId data
  unfold ownResult at h ⊢
  simp only [shouldSample, henabled, Bool.not_true, Bool.false_eq_true, if_false, h]
  rw [← hmoves, TraceRegistry.storedPriority, Entry.storedPriority]
  cases hentry : registry.trace traceId with
  | none =>
      rw [hentry] at hresult
      rcases hreg : registry.registerLocalRootTracePropagationData traceId data with ⟨answer, after⟩
      rw [hreg] at hresult
      simp only at hresult
      subst hresult
      exact ⟨rfl, rfl⟩
  | some entry =>
      rw [hentry] at hresult
      rcases hreg : registry.registerLocalRootTracePropagationData traceId data with ⟨answer, after⟩
      rw [hreg] at hresult
      simp only at hresult
      cases hp : entry.propagationData.samplingDecision.priority with
      | none =>
          -- the entry takes the data, and the sampler keeps its own decision
          simp only [hp, Option.isSome_none, Bool.false_eq_true, if_false] at hresult
          subst hresult
          exact ⟨rfl, by simp [hp]⟩
      | some q =>
          -- `ExistingPriority`: the answer of the registry replaces it
          simp only [hp, Option.isSome_some, if_true] at hresult
          subst hresult
          exact ⟨rfl, by simp [hp, decisionOf]⟩

end Sampler

/-- A carrier carries the priority that is stored for its trace. -/
theorem DatadogPropagator.injectContext_carriesPriority (ord : IterOrder Str Str)
    {config : Config} {registry : TraceRegistry} {cx : Context} {p : SamplingPriority}
    (henabled : config.enabled = true) (hvalid : cx.spanContext.isValid = true)
    (h : registry.storedPriority cx.spanContext.traceId = some p)
    (injector : Propagation.Carrier) :
    Propagation.CarriesPriority (Propagation.DatadogCompositePropagator.new config).injectors
      cx.spanContext.traceId cx.spanContext.spanId p
      ((DatadogPropagator.new config).injectContext ord registry cx injector) := by
  have hids : cx.spanContext.traceId ≠ 0 ∧ cx.spanContext.spanId ≠ 0 := by
    simpa [SpanContext.isValid] using hvalid
  -- the injected priority is read from the registry, not from the span
  have hpriority : (registry.getTracePropagationData
      cx.spanContext.traceId).samplingDecision.priority = some p := by
    rw [TraceRegistry.getTracePropagationData_eq]
    rw [TraceRegistry.storedPriority, Entry.storedPriority] at h
    cases hentry : registry.trace cx.spanContext.traceId with
    | none => simp [hentry] at h
    | some entry => simpa [hentry] using h
  have henabled' : (DatadogPropagator.new config).cfg.enabled = true := henabled
  simp only [injectContext, henabled', hvalid, Bool.not_true, Bool.false_eq_true, if_false]
  have hsampling : (ddSpanContext (registry.getTracePropagationData cx.spanContext.traceId)
      cx.spanContext).sampling.priority = some p := by
    simp [ddSpanContext, injectedSampling, hpriority]
  exact Propagation.DatadogCompositePropagator.inject_carriesPriority ord _ hids.1 hids.2
    hsampling injector

/-! ## Runs of the tracer -/

/-- A call of the API.  Each asks the registry once. -/
inductive TracerEvent
  | shouldSample (parentContext : Option Context) (traceId : TraceId) (answers : RootAnswers)
  | onStart (span : Span) (parentCtx : Context)
  | onEnd (span : SpanData)
  | injectContext (cx : Context) (injector : Propagation.Carrier)

inductive TracerOutput
  | sampled (result : SamplingResult)
  | started (links : List Link)
  | ended (chunk : Option Trace) (exported : Option (List SpanData))
  | injected (carrier : Propagation.Carrier)

namespace Tracer

variable (config : Config) (ord : IterOrder Str Str) (api : TraceStateApi)

/-- Every call can happen at any time. -/
def machine : Machine TraceRegistry TracerEvent TracerOutput := fun registry event =>
  match event with
  | .shouldSample parentContext traceId answers =>
      let (result, registry) :=
        Sampler.shouldSample config registry parentContext traceId answers
      some (registry, .sampled result)
  | .onStart span parentCtx =>
      let (links, registry) := DatadogSpanProcessor.onStart ord api config registry span parentCtx
      some (registry, .started links)
  | .onEnd span =>
      let ((chunk, exported), registry) := DatadogSpanProcessor.onEnd ord config registry span
      some (registry, .ended chunk exported)
  | .injectContext cx injector =>
      some (registry,
        .injected ((DatadogPropagator.new config).injectContext ord registry cx injector))

/-- The parent of a span that is sampled. -/
def parentContext : TracerEvent → Option Context
  | .shouldSample parentContext _ _ => parentContext
  | _ => none

/-- A call whose parent context is empty, local or extracted. -/
def HasParentContext (event : TracerEvent) : Prop :=
  ∀ cx ∈ parentContext event, ParentContext ord api cx

/-- A call and its output agree with the priority of the trace: the decision for a local root, the
carrier of a span, the chunk of an entry. -/
def Agrees (traceId : TraceId) (p : SamplingPriority) : TracerEvent × TracerOutput → Prop
  | (.shouldSample parentContext id _, .sampled result) =>
      id = traceId → (∀ cx ∈ parentContext, cx.isLocalRootParent = true) →
        result.decision = decisionOf p
  | (.injectContext cx _, .injected carrier) =>
      cx.spanContext.traceId = traceId → cx.spanContext.isValid = true →
        Propagation.CarriesPriority (Propagation.DatadogCompositePropagator.new config).injectors
          traceId cx.spanContext.spanId p carrier
  | (.onEnd span, .ended chunk _) =>
      span.spanContext.traceId = traceId →
        ∀ trace ∈ chunk, trace.propagationData.samplingDecision.priority = some p
  | _ => True

variable {config ord api} {registry after : TraceRegistry} {event : TracerEvent}
  {output : TracerOutput} {traceId : TraceId} {p : SamplingPriority}

/-- What a call does to the registry: nothing, or one call, which registers either a decision of the
sampler or no priority. -/
theorem registry_step (henabled : config.enabled = true)
    (h : machine config ord api registry event = some (after, output)) :
    after = registry ∨ ∃ call : RegistryCall, after = (registry.call call).2 ∧
      (∀ data, call.op = .registerLocalRootTracePropagationData data →
        ∃ parent answers, event = .shouldSample parent call.traceId answers ∧
          Sampler.tracePropagationData parent (Sampler.ownResult parent answers) = some data) ∧
      ∀ spanId data, call.op = .registerSpan spanId data →
        data.samplingDecision.priority = none := by
  cases event with
  | shouldSample parent id answers =>
      have hafter : (Sampler.shouldSample config registry parent id answers).2 = after :=
        congrArg Prod.fst (Option.some.inj h)
      cases hdata : Sampler.tracePropagationData parent (Sampler.ownResult parent answers) with
      | none =>
          rw [Sampler.shouldSample_of_none registry id hdata] at hafter
          exact .inl hafter.symm
      | some data =>
          rw [(Sampler.shouldSample_of_some registry id henabled hdata).1] at hafter
          refine .inr ⟨⟨id, .registerLocalRootTracePropagationData data⟩, hafter.symm, ?_, ?_⟩
          · intro data' hop
            cases hop
            exact ⟨parent, answers, rfl, hdata⟩
          · intro spanId data' hop
            cases hop
  | onStart span parentCtx =>
      have hafter :
          (DatadogSpanProcessor.onStart ord api config registry span parentCtx).2 = after :=
        congrArg Prod.fst (Option.some.inj h)
      -- a span starts as a local root or as a child; neither brings a priority
      rcases DatadogSpanProcessor.onStart_registry ord api config registry span parentCtx with
        hsame | ⟨op, hcall, hop⟩
      · exact .inl (hafter.symm.trans hsame)
      · refine .inr ⟨_, hafter.symm.trans hcall, ?_, ?_⟩
        · intro data hdata
          rcases hop with rfl | rfl <;> cases hdata
        · intro spanId data hdata
          rcases hop with rfl | rfl <;> cases hdata
          rfl
  | onEnd span =>
      have hafter : (DatadogSpanProcessor.onEnd ord config registry span).2 = after :=
        congrArg Prod.fst (Option.some.inj h)
      rw [DatadogSpanProcessor.onEnd_registry, TraceRegistry.finishSpan_eq] at hafter
      exact .inr ⟨_, hafter.symm, by simp, by simp⟩
  | injectContext cx injector =>
      cases h
      exact .inl rfl

/-- A call keeps a stored priority, and agrees with it. -/
theorem step_of_stored (henabled : config.enabled = true)
    (hparent : HasParentContext ord api event)
    (h : machine config ord api registry event = some (after, output))
    (hstored : registry.storedPriority traceId = some p) :
    Agrees config traceId p (event, output) ∧
      (after.isRegistered traceId = true → after.storedPriority traceId = some p) := by
  refine ⟨?_, ?_⟩
  · cases event with
    | shouldSample parent id answers =>
        cases h
        intro hid hroot
        subst hid
        -- the registry is asked for a local root, and its answer is the decision
        rcases Sampler.exists_tracePropagationData answers hparent hroot with ⟨data, hdata⟩
        have hdecision := (Sampler.shouldSample_of_some registry id henabled hdata).2
        rw [hstored] at hdecision
        exact hdecision
    | onStart span parentCtx =>
        cases h
        trivial
    | onEnd span =>
        have houtput : output = .ended (DatadogSpanProcessor.onEnd ord config registry span).1.1
            (DatadogSpanProcessor.onEnd ord config registry span).1.2 :=
          (congrArg Prod.snd (Option.some.inj h)).symm
        rw [houtput, DatadogSpanProcessor.onEnd_chunk, TraceRegistry.finishSpan_eq]
        exact (TraceRegistry.call_of_stored ⟨_, .finishSpan span⟩ hstored).1
    | injectContext cx injector =>
        cases h
        intro hid hvalid
        subst hid
        exact DatadogPropagator.injectContext_carriesPriority ord henabled hvalid hstored injector
  · intro hlives
    rcases registry_step henabled h with hsame | ⟨call, hcall, _⟩
    · rw [hsame]
      exact hstored
    · subst hcall
      exact (TraceRegistry.call_of_stored call hstored).2 hlives

/-- A priority comes into the entry of a trace by a call of the sampler, which decides as it says. -/
theorem step_of_not_stored (henabled : config.enabled = true)
    (hparent : HasParentContext ord api event)
    (h : machine config ord api registry event = some (after, output))
    (hnone : registry.storedPriority traceId = none)
    (hstored : after.storedPriority traceId = some p) :
    ∃ parent answers result, event = .shouldSample parent traceId answers ∧
      output = .sampled result ∧ result.decision = decisionOf p := by
  rcases registry_step henabled h with hsame | ⟨call, hcall, hsampler, hspan⟩
  · rw [hsame, hnone] at hstored
    cases hstored
  · rw [hcall] at hstored
    rcases TraceRegistry.call_of_not_stored hnone hstored with
      ⟨hid, ⟨data, hop, hp⟩ | ⟨spanId, data, hop, hp⟩⟩
    · rcases hsampler data hop with ⟨parent, answers, hevent, hdata⟩
      rw [hid] at hevent
      subst hevent
      -- nothing was stored before, so the sampler answers with its own decision
      have hdecision := (Sampler.shouldSample_of_some registry traceId henabled hdata).2
      rw [hnone] at hdecision
      rcases Sampler.priority_of_tracePropagationData hparent hdata with ⟨q, hq, hown⟩
      rw [hp] at hq
      cases hq
      refine ⟨parent, answers, _, rfl, (congrArg Prod.snd (Option.some.inj h)).symm, ?_⟩
      exact hdecision.trans hown
    · -- a span that is registered brings data without a priority
      rw [hspan spanId data hop] at hp
      cases hp

/-- The machine while the entry of a trace lives. -/
def lifetime (config : Config) (ord : IterOrder Str Str) (api : TraceStateApi)
    (traceId : TraceId) : Machine TraceRegistry TracerEvent TracerOutput :=
  Machine.guard (machine config ord api) fun registry _ => registry.isRegistered traceId = true

/-- One sampling decision for each trace.  From the call on that stores a priority in the entry of a
trace, and as long as the entry lives, every call agrees with this priority, and the entry keeps it. -/
theorem one_decision_per_trace {history : List (TracerEvent × TracerOutput)}
    {last : TraceRegistry} (henabled : config.enabled = true)
    (hparent : HasParentContext ord api event)
    (hparents : ∀ x ∈ history, HasParentContext ord api x.1)
    (hstep : machine config ord api registry event = some (after, output))
    (hnone : registry.storedPriority traceId = none)
    (hstored : after.storedPriority traceId = some p)
    (hrun : Machine.Run (lifetime config ord api traceId) after history last) :
    (∃ parent answers result, event = .shouldSample parent traceId answers ∧
      output = .sampled result ∧ result.decision = decisionOf p) ∧
    (∀ x ∈ history, Agrees config traceId p x) ∧
    (last.isRegistered traceId = true → last.storedPriority traceId = some p) := by
  refine ⟨step_of_not_stored henabled hparent hstep hnone hstored, ?_⟩
  -- by induction on the calls after the first; the invariant is the second half of the statement
  revert hparents
  refine hrun.invariant
    (I := fun history last => (∀ x ∈ history, HasParentContext ord api x.1) →
      (∀ x ∈ history, Agrees config traceId p x) ∧
      (last.isRegistered traceId = true → last.storedPriority traceId = some p)) ?_ ?_
  · intro _
    exact ⟨by simp, fun _ => hstored⟩
  · intro history last next event output _ ih hnext hparents
    rcases ih fun x hx => hparents x (by simp [hx]) with ⟨hagree, hkeeps⟩
    rcases Machine.guard_eq_some.1 hnext with ⟨hlives, hmove⟩
    rcases step_of_stored henabled (hparents (event, output) (by simp)) hmove (hkeeps hlives) with
      ⟨hlast, hkeeps'⟩
    refine ⟨?_, hkeeps'⟩
    intro x hx
    rcases List.mem_append.1 hx with hold | hnew
    · exact hagree x hold
    · rw [List.mem_singleton.1 hnew]
      exact hlast

/-- No rule matches; the service rate, if there is one, samples the trace or not. -/
def noRule (serviceSampler : Option ServiceAnswer) : RootAnswers :=
  { matchingRule := none
    isAllowed := true
    effectiveRate := 0
    serviceSampler := serviceSampler }

/-- After the first: a second local root that the sampler by itself would reject, then a span that is
started, injected and finished. -/
def keptLife : List TracerEvent :=
  [.shouldSample (some .new) 7 (noRule (some { sampleRate := .one, sample := false })),
    .onStart { spanContext := (SpanData.ofIds 7 1).spanContext, isRecording := true } .new,
    .injectContext (Context.new.withSpanContext (SpanData.ofIds 7 1).spanContext) ∅,
    .onEnd (.ofIds 7 1)]

theorem one_decision_per_trace_keptLife :
    ∃ api result after history last,
      machine defaultConfig (.asStored Str Str) api (.new defaultConfig fun _ => 0)
        (.shouldSample none 7 (noRule none)) = some (after, .sampled result) ∧
      result.decision = .recordAndSample ∧ history.map Prod.fst = keptLife ∧
      Machine.Run (lifetime defaultConfig (.asStored Str Str) api 7) after history last ∧
      ∀ x ∈ history, Agrees defaultConfig 7 Priority.autoKeep x := by
  let api : TraceStateApi := { fromKeyValue := fun _ => none, fromStr := fun _ => none }
  have hparents : ∀ event ∈ keptLife, HasParentContext (.asStored Str Str) api event := by
    intro event hevent cx hcx
    simp only [keptLife, List.mem_cons, List.not_mem_nil, or_false] at hevent
    rcases hevent with rfl | rfl | rfl | rfl
    · cases hcx
      exact .new
    · cases hcx
    · cases hcx
    · cases hcx
  have hrun := Machine.run_of_exec (m := lifetime defaultConfig (.asStored Str Str) api 7)
    (s := (Sampler.shouldSample defaultConfig (.new defaultConfig fun _ => 0) none 7
      (noRule none)).2) keptLife rfl
  have hfirst : machine defaultConfig (.asStored Str Str) api (.new defaultConfig fun _ => 0)
      (.shouldSample none 7 (noRule none)) = some (_, .sampled _) := rfl
  refine ⟨api, _, _, _, _, hfirst, rfl, rfl, hrun, ?_⟩
  refine (one_decision_per_trace (p := Priority.autoKeep) rfl ?_ ?_ hfirst rfl rfl hrun).2.1
  · intro cx hcx
    cases hcx
  · intro x hx
    exact hparents x.1 (List.mem_map_of_mem hx)

end Tracer

end Otel
end DdTrace
