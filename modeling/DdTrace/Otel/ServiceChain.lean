import DdTrace.Otel.Tracer
import DdTrace.Propagation.DatadogBaggage

/-!
# ServiceChain — a trace through many services

A request goes from service to service.  Each of them extracts a parent from the headers, samples its
local root with it, and puts the headers of one of its own spans on the next request; in between, any
calls of its tracer happen while the entry of the trace lives.

Baggage that fits is never lost or changed on the way, and every service decides as its priority says:
`chain_keeps_baggage` is about services of the W3C style, which also know the span that called them by
its tag; `mixed_chain_keeps_baggage` about services with any styles, as long as each of them finds a
header that it knows.
-/

namespace DdTrace
namespace Otel

open DdTrace.Lib DdTrace.Core
open DdTrace.Propagation (Carrier DatadogCompositePropagator Says Sends Carried IsFresh)
open DdTrace.Propagation.TraceContext (Baggage SameTags)

/-! ## The data of an entry -/

namespace Entry

/-- Data with a priority stays in the entry. -/
theorem data_step {trace next : Trace} {config : Config} {op : EntryOp}
    (hp : trace.propagationData.samplingDecision.priority.isSome = true)
    (h : (step config (some trace) op).2 = some next) :
    next.propagationData = trace.propagationData := by
  cases op with
  | registerLocalRootTracePropagationData data =>
      simp only [step, hp, if_true, Option.some.injEq] at h
      rw [h]
  | registerLocalRootSpan rootSpanId =>
      simp only [step] at h
      split_ifs at h
      · cases h
        rfl
      · cases h
        rfl
  | registerSpan spanId data =>
      cases h
      rfl
  | finishSpan spanData =>
      simp only [step] at h
      -- flushed, removed or kept: the span that finished changes the list and the count
      split_ifs at h
      · cases h
        rfl
      · cases h
        rfl

end Entry

namespace TraceRegistry

variable {self : TraceRegistry} {traceId : TraceId} {p : SamplingPriority}

theorem exists_trace_of_storedPriority (h : self.storedPriority traceId = some p) :
    ∃ trace, self.trace traceId = some trace ∧
      trace.propagationData.samplingDecision.priority = some p ∧
      self.getTracePropagationData traceId = trace.propagationData := by
  rcases Option.bind_eq_some_iff.1 h with ⟨trace, hentry, hp⟩
  refine ⟨trace, hentry, hp, ?_⟩
  rw [getTracePropagationData_eq, hentry, Option.elim_some]

/-- No call changes data with a priority. -/
theorem data_call (c : RegistryCall) (h : self.storedPriority traceId = some p)
    (hlives : (self.call c).2.isRegistered traceId = true) :
    (self.call c).2.getTracePropagationData traceId = self.getTracePropagationData traceId := by
  rcases exists_trace_of_storedPriority h with ⟨trace, hentry, hp, hdata⟩
  rcases Option.isSome_iff_exists.1 hlives with ⟨next, hnext⟩
  rw [getTracePropagationData_eq, hnext, Option.elim_some, hdata]
  rw [trace_call, hentry] at hnext
  split at hnext
  · exact Entry.data_step (Option.isSome_iff_exists.2 ⟨p, hp⟩) hnext
  · cases hnext
    rfl

/-- The first data with a trace is stored. -/
theorem data_register (data : TracePropagationData) (h : self.storedPriority traceId = none) :
    (self.call ⟨traceId, .registerLocalRootTracePropagationData data⟩).2.getTracePropagationData
        traceId = data ∧
      (self.call ⟨traceId, .registerLocalRootTracePropagationData data⟩).2.storedPriority traceId =
        data.samplingDecision.priority := by
  rw [getTracePropagationData_eq, storedPriority, trace_call, if_pos rfl]
  cases hentry : self.trace traceId with
  | none => exact ⟨rfl, rfl⟩
  | some trace =>
      -- an entry without a priority takes the data over
      have hp : trace.propagationData.samplingDecision.priority = none := by
        rw [storedPriority, hentry] at h
        exact h
      simp [Entry.step, Entry.storedPriority, hp]

end TraceRegistry

/-- As long as the entry of a trace lives, its data stays as it was stored. -/
theorem Tracer.data_lifetime {config : Config} {ord : IterOrder Str Str} {api : TraceStateApi}
    {after last : TraceRegistry} {traceId : TraceId} {p : SamplingPriority}
    {history : List (TracerEvent × TracerOutput)} (henabled : config.enabled = true)
    (hstored : after.storedPriority traceId = some p)
    (hrun : Machine.Run (lifetime config ord api traceId) after history last) :
    last.isRegistered traceId = true →
      last.storedPriority traceId = some p ∧
      last.getTracePropagationData traceId = after.getTracePropagationData traceId := by
  refine hrun.invariant
    (I := fun _ last => last.isRegistered traceId = true →
      last.storedPriority traceId = some p ∧
      last.getTracePropagationData traceId = after.getTracePropagationData traceId) ?_ ?_
  · intro _
    exact ⟨hstored, rfl⟩
  · intro _ last next event output _ ih hnext hlives
    rcases Machine.guard_eq_some.1 hnext with ⟨hbefore, hmove⟩
    rcases ih hbefore with ⟨hpriority, hdata⟩
    rcases registry_step henabled hmove with hsame | ⟨call, hcall, -⟩
    · rw [hsame]
      exact ⟨hpriority, hdata⟩
    · subst hcall
      refine ⟨(TraceRegistry.call_of_stored call hpriority).2 hlives, ?_⟩
      exact (TraceRegistry.data_call call hpriority hlives).trans hdata

/-! ## Services -/

structure Service where
  config : Config
  ord : IterOrder Str Str
  api : TraceStateApi
  enabled : config.enabled = true

/-- A service that knows the W3C style only. -/
structure Service.IsW3c (service : Service) : Prop where
  extractors : (DatadogCompositePropagator.new service.config).extractors = [.traceContext]
  injectors : (DatadogCompositePropagator.new service.config).injectors = [.traceContext]

/-- What a service does between a request that it gets and a request that it sends: a root is sampled,
calls of the tracer follow, and a span of the trace is injected. -/
structure Relay where
  service : Service
  /-- The context that the parent is extracted into. -/
  base : Context
  isParent : ParentContext service.ord service.api base
  registry : TraceRegistry
  answers : RootAnswers
  calls : List TracerEvent
  /-- The span whose headers are sent. -/
  spanId : SpanId
  spanId_ne : spanId ≠ 0
  traceFlags : TraceFlags
  traceState : TraceState
  /-- The headers that the request has already. -/
  injector : Carrier

/-- What the service knew about the trace. -/
structure Relayed where
  parent : Context
  result : SamplingResult
  data : TracePropagationData

namespace Relay

/-- The span whose headers are sent, in the trace of its parent. -/
def span (self : Relay) (traceId : TraceId) : SpanContext :=
  { traceId := traceId
    spanId := self.spanId
    traceFlags := self.traceFlags
    isRemote := false
    traceState := self.traceState }

/-- What is found in the headers. -/
def found (self : Relay) (received : Carrier) : Option Propagation.SpanContext :=
  (DatadogCompositePropagator.new self.service.config).extract self.service.ord received

def parent (self : Relay) (received : Carrier) : Context :=
  (DatadogPropagator.new self.service.config).extractWithContext self.service.ord self.service.api
    self.base received

def sent (self : Relay) (registry : TraceRegistry) (traceId : TraceId) : Carrier :=
  (DatadogPropagator.new self.service.config).injectContext self.service.ord registry
    (Context.new.withSpanContext (self.span traceId)) self.injector

/-- The headers that are received become those that are sent.  Something is found in them, the root is
the first of its trace here, and the entry lives as long as the calls last. -/
def machine : Machine Carrier Relay Relayed := fun received self =>
  let parent := self.parent received
  let traceId := parent.spanContext.traceId
  let (result, after) := Sampler.shouldSample self.service.config self.registry (some parent) traceId
    self.answers
  match Machine.exec (Tracer.lifetime self.service.config self.service.ord self.service.api traceId)
      after self.calls with
  | none => none
  | some (last, _) =>
      if (self.found received).isSome = true ∧ self.registry.storedPriority traceId = none ∧
          last.isRegistered traceId = true then
        some (self.sent last traceId,
          { parent := parent, result := result, data := last.getTracePropagationData traceId })
      else none

end Relay

/-! ## One hop -/

/-- The internal tags are the tags of the context under the names of the tracer. -/
theorem DatadogExtractData.lookup_internalTags (ord : IterOrder Str Str)
    (sc : Propagation.SpanContext) (key : Str) :
    (fromSpanContext ord sc).internalTags.lookup key =
      if "_dd.".toList.isPrefixOf key then sc.tags.lookup key else none :=
  ord.lookup_ofPairs_filter sc.tags (fun key => "_dd.".toList.isPrefixOf key) key

/-- The data that a service stores with a trace that it found in the headers. -/
def dataOf (ord : IterOrder Str Str) (sc : Propagation.SpanContext) : TracePropagationData :=
  { samplingDecision :=
      { priority := sc.sampling.priority
        mechanism := sc.sampling.mechanism }
    origin := sc.origin
    tags := some (DatadogExtractData.fromSpanContext ord sc).internalTags }

/-- The baggage is still there. -/
theorem in_dataOf {baggage : Baggage} (ord : IterOrder Str Str) {sc : Propagation.SpanContext}
    (h : baggage.In sc.sampling.priority sc.origin sc.tags) :
    baggage.In (dataOf ord sc).samplingDecision.priority (dataOf ord sc).origin
      ((dataOf ord sc).tags.getD ∅) := by
  refine ⟨h.priority, h.origin, ?_⟩
  intro name
  rw [← h.tags name, dataOf, Option.getD_some, DatadogExtractData.lookup_internalTags, if_pos]
  -- the prefix of the propagation tags begins with the prefix of the internal ones
  exact List.isPrefixOf_iff_prefix.2 ⟨"p.".toList ++ name, rfl⟩

namespace Relay

variable {self : Relay} {received sent : Carrier} {relayed : Relayed}
  {sc : Propagation.SpanContext} {p : SamplingPriority}

/-- The parent is what was found. -/
theorem parent_of_found (h : self.found received = some sc) :
    (self.parent received).spanContext.traceId = sc.traceId ∧
      (self.parent received).spanContext.spanId = sc.spanId ∧
      (self.parent received).spanContext.isRemote = sc.isRemote ∧
      (self.parent received).extractData = some (.fromSpanContext self.service.ord sc) := by
  have henabled : (DatadogPropagator.new self.service.config).cfg.enabled = true :=
    self.service.enabled
  have hread : (DatadogPropagator.new self.service.config).inner.extract self.service.ord received =
      some sc := h
  simp only [parent, DatadogPropagator.extractWithContext, henabled, hread, Bool.not_true,
    Bool.false_eq_true, if_false]
  exact ⟨rfl, rfl, rfl, rfl⟩

/-- The decision is inherited, and what was found is stored. -/
theorem tracePropagationData_of_found (h : self.found received = some sc)
    (hremote : sc.isRemote = true) (hp : sc.sampling.priority = some p) :
    (Sampler.ownResult (some (self.parent received)) self.answers).toOtelDecision = decisionOf p ∧
      Sampler.tracePropagationData (some (self.parent received))
        (Sampler.ownResult (some (self.parent received)) self.answers) =
          some (dataOf self.service.ord sc) := by
  rcases parent_of_found h with ⟨-, -, hisRemote, hdata⟩
  rw [hremote] at hisRemote
  have hsampled : Sampler.isParentSampled (some (self.parent received)) = some p.isKeep := by
    rcases Sampler.isParentSampled_of_isRemote
      (.extracted (.new self.service.config) received self.isParent) hisRemote with
      ⟨sc', hdata', hsampled⟩
    have hsame : sc'.sampling = sc.sampling := by
      have heq := hdata'.symm.trans hdata
      exact congrArg DatadogExtractData.sampling (Option.some.inj heq)
    rw [hsame, hp] at hsampled
    exact hsampled
  have hown : Sampler.ownResult (some (self.parent received)) self.answers =
      { isKeep := p.isKeep, traceRootInfo := none } := by
    rw [Sampler.ownResult, hsampled]
    rfl
  rw [hown]
  refine ⟨rfl, ?_⟩
  simp only [Sampler.tracePropagationData, Sampler.remotePropagationData, Option.filter, hisRemote,
    if_true, Option.bind_eq_bind, Option.bind_some, hdata]
  rfl

/-- What a service found is in its parent, its decision and its data, and with this data a span of the
trace is injected. -/
theorem step_of_found (hstep : machine received self = some (sent, relayed)) :
    ∃ sc, self.found received = some sc ∧
      ∀ p, sc.isRemote = true → sc.sampling.priority = some p →
        relayed.parent.spanContext.traceId = sc.traceId ∧
        relayed.parent.spanContext.spanId = sc.spanId ∧
        relayed.result.decision = decisionOf p ∧
        relayed.data = dataOf self.service.ord sc ∧
        ∃ last, last.getTracePropagationData sc.traceId = relayed.data ∧
          sent = self.sent last sc.traceId := by
  simp only [machine] at hstep
  split at hstep
  · cases hstep
  · rename_i last history hexec
    split_ifs at hstep with hroot
    cases hstep
    rcases hroot with ⟨hfound, hnone, hlives⟩
    rcases Option.isSome_iff_exists.1 hfound with ⟨sc, hsc⟩
    refine ⟨sc, hsc, ?_⟩
    intro p hremote hp
    rcases parent_of_found hsc with ⟨htraceId, hspanId, -, -⟩
    rcases tracePropagationData_of_found hsc hremote hp with ⟨hdecision, hdata⟩
    rw [htraceId] at hexec hnone hlives ⊢
    rcases Sampler.shouldSample_of_some self.registry sc.traceId self.service.enabled hdata with
      ⟨hafter, hresult⟩
    rw [hnone, Option.map_none, Option.getD_none] at hresult
    rw [hafter] at hexec
    -- the data is stored by the sampler, and stays for the calls that follow
    rcases TraceRegistry.data_register (dataOf self.service.ord sc) hnone with ⟨hstored, hpriority⟩
    have hlast := (Tracer.data_lifetime self.service.enabled (hpriority.trans hp)
      (Machine.run_of_exec self.calls hexec) hlives).2
    rw [hstored] at hlast
    exact ⟨rfl, hspanId, hresult.trans hdecision, hlast, last, rfl, rfl⟩

end Relay

/-- What is injected for a local span of a trace with baggage. -/
theorem Service.injectContext_eq (self : Service) {registry : TraceRegistry} {cx : Context}
    (hvalid : cx.spanContext.isValid = true) (injector : Carrier) :
    (DatadogPropagator.new self.config).injectContext self.ord registry cx injector =
      ((DatadogCompositePropagator.new self.config).inject self.ord
        (DatadogPropagator.ddSpanContext
          (registry.getTracePropagationData cx.spanContext.traceId) cx.spanContext) injector).2 := by
  have henabled : (DatadogPropagator.new self.config).cfg.enabled = true := self.enabled
  simp only [DatadogPropagator.injectContext, henabled, hvalid, Bool.not_true, Bool.false_eq_true,
    if_false]
  rfl

/-- The context that is injected has the baggage of the data. -/
theorem in_ddSpanContext {baggage : Baggage} {data : TracePropagationData}
    (hin : baggage.In data.samplingDecision.priority data.origin (data.tags.getD ∅))
    (spanContext : SpanContext) :
    baggage.In (DatadogPropagator.ddSpanContext data spanContext).sampling.priority
        (DatadogPropagator.ddSpanContext data spanContext).origin
        (DatadogPropagator.ddSpanContext data spanContext).tags ∧
      (DatadogPropagator.ddSpanContext data spanContext).sampling.mechanism =
        data.samplingDecision.mechanism := by
  have hsampling : DatadogPropagator.injectedSampling data spanContext =
      { priority := some baggage.priority, mechanism := data.samplingDecision.mechanism } := by
    simp only [DatadogPropagator.injectedSampling, hin.priority]
  refine ⟨⟨?_, hin.origin, hin.tags⟩, ?_⟩
  · rw [DatadogPropagator.ddSpanContext, hsampling]
  · rw [DatadogPropagator.ddSpanContext, hsampling]

/-! ## What a service knows -/

/-- A service knows the span that called it and the baggage, and decides as the priority says. -/
structure Relayed.Knows (baggage : Baggage) (traceId : TraceId) (spanId : SpanId)
    (self : Relayed) : Prop where
  traceId_eq : self.parent.spanContext.traceId = traceId
  spanId_eq : self.parent.spanContext.spanId = spanId
  decision : self.result.decision = decisionOf baggage.priority
  holds : baggage.In self.data.samplingDecision.priority self.data.origin
    (self.data.tags.getD ∅)
  mechanism : self.data.samplingDecision.mechanism = baggage.mechanism

/-- The tag of the last parent names the span that called the service. -/
def Relayed.KnowsParent (spanId : SpanId) (self : Relayed) : Prop :=
  (self.data.tags.getD ∅).lookup Propagation.DATADOG_LAST_PARENT_ID_KEY =
    some (Numeral.hexPadded 16 spanId.toNat)

namespace Relay

variable {self : Relay} {baggage : Baggage} {traceId : TraceId} {spanId : SpanId}
  {received sent : Carrier} {relayed : Relayed} {sc : Propagation.SpanContext}

/-- A service that finds the baggage knows it, and sends it with its own span. -/
theorem knows_of_found (ht : traceId ≠ 0)
    (hfound : ∀ sc ∈ self.found received, Says baggage traceId spanId sc)
    (hstep : machine received self = some (sent, relayed)) :
    relayed.Knows baggage traceId spanId ∧
      ∃ sc context, self.found received = some sc ∧ relayed.data = dataOf self.service.ord sc ∧
        sent = ((DatadogCompositePropagator.new self.service.config).inject self.service.ord context
          self.injector).2 ∧
        Sends baggage traceId self.spanId context ∧
        context.sampling.mechanism = baggage.mechanism := by
  rcases step_of_found hstep with ⟨sc, hsc, hstep⟩
  have hsaid := hfound sc hsc
  rcases hstep _ hsaid.isRemote hsaid.holds.priority with
    ⟨htraceId, hspanId, hdecision, hdata, last, hlast, hsent⟩
  rw [hsaid.traceId_eq] at htraceId hlast hsent
  rw [hsaid.spanId_eq] at hspanId
  have hin := in_dataOf self.service.ord hsaid.holds
  rw [← hdata] at hin
  have hvalid : (Context.new.withSpanContext (self.span traceId)).spanContext.isValid = true := by
    simpa [SpanContext.isValid] using ⟨ht, self.spanId_ne⟩
  have hinject := @Service.injectContext_eq self.service last _ hvalid self.injector
  rcases in_ddSpanContext hin (self.span traceId) with ⟨hsends, hsame⟩
  have hmechanism : relayed.data.samplingDecision.mechanism = baggage.mechanism := by
    rw [hdata]
    exact hsaid.mechanism
  refine ⟨⟨htraceId, hspanId, hdecision, hin, hmechanism⟩, sc,
    DatadogPropagator.ddSpanContext relayed.data (self.span traceId), hsc, hdata, ?_,
    ⟨rfl, rfl, rfl, hsends⟩, hsame.trans hmechanism⟩
  rw [hsent, ← hlast]
  exact hinject

end Relay

/-! ## Chains -/

/-- The spans that call the services of a chain, from the span that calls the first of them. -/
def callers (spanId : SpanId) : List (Relay × Relayed) → List SpanId
  | [] => []
  | x :: l => spanId :: callers x.1.spanId l

/-- The span that sends at the end of a chain. -/
def sender (spanId : SpanId) (l : List (Relay × Relayed)) : SpanId :=
  l.foldl (fun _ x => x.1.spanId) spanId

theorem callers_snoc (spanId : SpanId) (l : List (Relay × Relayed)) (x : Relay × Relayed) :
    callers spanId (l ++ [x]) = callers spanId l ++ [sender spanId l] := by
  induction l generalizing spanId with
  | nil => rfl
  | cons y l ih => exact congrArg (spanId :: ·) (ih y.1.spanId)

theorem sender_snoc (spanId : SpanId) (l : List (Relay × Relayed)) (x : Relay × Relayed) :
    sender spanId (l ++ [x]) = x.1.spanId := by
  rw [sender, List.foldl_append, List.foldl_cons, List.foldl_nil]

/-- The service of this span. -/
def lastService (service : Service) (l : List (Relay × Relayed)) : Service :=
  l.foldl (fun _ x => x.1.service) service

theorem lastService_snoc (service : Service) (l : List (Relay × Relayed)) (x : Relay × Relayed) :
    lastService service (l ++ [x]) = x.1.service := by
  rw [lastService, List.foldl_append, List.foldl_cons, List.foldl_nil]

/-- The ids of senders are valid. -/
theorem sender_ne {spanId : SpanId} (h : spanId ≠ 0) (l : List (Relay × Relayed)) :
    sender spanId l ≠ 0 := by
  induction l using List.reverseRecOn with
  | nil => exact h
  | append_singleton l x _ =>
      rw [sender_snoc]
      exact x.1.spanId_ne

/-- The rule for chains.  What a request carries is passed on by each of its services, and each knows
what was carried to it. -/
theorem chain_invariant {P : Service → SpanId → Carrier → Prop}
    {K : SpanId → Relay × Relayed → Prop} {A : Relay → Prop} (service : Service) {spanId : SpanId}
    (hs : spanId ≠ 0) {first last : Carrier} {l : List (Relay × Relayed)}
    (start : P service spanId first)
    (step : ∀ {service caller received sent relay relayed}, caller ≠ 0 →
      P service caller received → A relay → Relay.machine received relay = some (sent, relayed) →
        K caller (relay, relayed) ∧ P relay.service relay.spanId sent)
    (hrun : Machine.Run Relay.machine first l last) (hrelays : ∀ x ∈ l, A x.1) :
    List.Forall₂ (fun x caller => K caller x) l (callers spanId l) ∧
      P (lastService service l) (sender spanId l) last := by
  revert hrelays
  refine hrun.invariant
    (I := fun l last => (∀ x ∈ l, A x.1) →
      List.Forall₂ (fun x caller => K caller x) l (callers spanId l) ∧
        P (lastService service l) (sender spanId l) last) ?_ ?_
  · intro _
    exact ⟨.nil, start⟩
  · intro l received sent relay relayed _ ih hstep hrelays
    rcases ih fun x hx => hrelays x (List.mem_append_left _ hx) with ⟨hknow, hcarries⟩
    have hrelay := hrelays (relay, relayed) (by simp)
    rcases step (sender_ne hs l) hcarries hrelay hstep with ⟨hknows, hsent⟩
    rw [callers_snoc, sender_snoc, lastService_snoc]
    exact ⟨List.rel_append hknow (.cons hknows .nil), hsent⟩

/-! ## The W3C style -/

section W3c

variable {service : Service} {baggage : Baggage} {traceId : TraceId} {spanId : SpanId}

/-- A service of the W3C style finds what the header says, and the span that sent it as the last
parent. -/
theorem Service.says_of_isW3c (hw3c : service.IsW3c) (hfits : baggage.Fits) (ht : traceId ≠ 0)
    (hs : spanId ≠ 0) {carrier : Carrier}
    (h : Propagation.TraceContext.HasHeaders baggage traceId spanId carrier) :
    ∃ sc, (DatadogCompositePropagator.new service.config).extract service.ord carrier = some sc ∧
      Says baggage traceId spanId sc ∧
      sc.tags.lookup Propagation.DATADOG_LAST_PARENT_ID_KEY =
        some (Numeral.hexPadded 16 spanId.toNat) := by
  rcases Propagation.TraceContext.says_of_headers service.ord hfits ht hs h with
    ⟨sc, hextract, hsaid, hlast⟩
  refine ⟨{ sc with links := [] }, ?_, ⟨hsaid.traceId_eq, hsaid.spanId_eq, hsaid.isRemote, hsaid.holds,
    hsaid.mechanism⟩, hlast⟩
  -- one context is available, and nothing is merged into it
  simp only [DatadogCompositePropagator.extract,
    DatadogCompositePropagator.extractAvailableContexts, hw3c.extractors, List.filterMap_cons,
    List.filterMap_nil, Propagation.Style.extract, hextract, Option.map_some]
  rfl

theorem Service.hasHeaders_of_isW3c (hw3c : service.IsW3c) (ht : traceId ≠ 0) (hs : spanId ≠ 0)
    {context : Propagation.InjectSpanContext} (hsends : Sends baggage traceId spanId context)
    (carrier : Carrier) :
    Propagation.TraceContext.HasHeaders baggage traceId spanId
      ((DatadogCompositePropagator.new service.config).inject service.ord context carrier).2 := by
  have ht' : context.traceId ≠ 0 := by rwa [hsends.traceId_eq]
  have hs' : context.spanId ≠ 0 := by rwa [hsends.spanId_eq]
  simp only [DatadogCompositePropagator.inject, hw3c.injectors, List.foldl_cons, List.foldl_nil,
    Propagation.Style.inject]
  exact ⟨service.ord, context, hsends,
    Propagation.TraceContext.get_inject_traceparent service.ord ht' hs' carrier,
    Propagation.TraceContext.get_inject_tracestate service.ord ht' hs' carrier⟩

/-- One service of the W3C style. -/
theorem Relay.step_w3c (hfits : baggage.Fits) (ht : traceId ≠ 0) (hs : spanId ≠ 0)
    {received sent : Carrier} {relay : Relay} {relayed : Relayed}
    (hheaders : Propagation.TraceContext.HasHeaders baggage traceId spanId received)
    (hw3c : relay.service.IsW3c)
    (hstep : Relay.machine received relay = some (sent, relayed)) :
    (relayed.Knows baggage traceId spanId ∧ relayed.KnowsParent spanId) ∧
      Propagation.TraceContext.HasHeaders baggage traceId relay.spanId sent := by
  rcases Service.says_of_isW3c hw3c hfits ht hs hheaders with ⟨sc, hextract, hsaid, hlast⟩
  have hfound : relay.found received = some sc := hextract
  have hall : ∀ sc' ∈ relay.found received, Says baggage traceId spanId sc' := by
    intro sc' hsc'
    rw [hfound] at hsc'
    cases hsc'
    exact hsaid
  rcases Relay.knows_of_found ht hall hstep with
    ⟨hknows, sc', context, hsc', hdata, hsent, hsends, -⟩
  refine ⟨⟨hknows, ?_⟩, ?_⟩
  · rw [hfound] at hsc'
    cases hsc'
    rw [Relayed.KnowsParent, hdata, dataOf, Option.getD_some,
      DatadogExtractData.lookup_internalTags, if_pos (by decide)]
    exact hlast
  · rw [hsent]
    exact Service.hasHeaders_of_isW3c hw3c ht relay.spanId_ne hsends relay.injector

end W3c

/-- A service of the W3C style sends the headers of a local span, in whose trace fitting baggage is
stored, and from there the request goes through any services of this style, each of which samples a root
with what it extracts, does anything with its tracer, and sends on.  All of them are in the same trace,
have this baggage, decide as its priority says and know the span that called them; and whoever receives
the last request finds the same. -/
theorem chain_keeps_baggage {baggage : Baggage} (hfits : baggage.Fits) {service : Service}
    (hservice : service.IsW3c) {registry : TraceRegistry} {cx : Context}
    (hvalid : cx.spanContext.isValid = true) (hlocal : cx.spanContext.isRemote = false)
    {data : TracePropagationData}
    (hdata : registry.getTracePropagationData cx.spanContext.traceId = data)
    (hin : baggage.In data.samplingDecision.priority data.origin (data.tags.getD ∅))
    (injector : Carrier) {l : List (Relay × Relayed)} {last : Carrier}
    (hrun : Machine.Run Relay.machine
      ((DatadogPropagator.new service.config).injectContext service.ord registry cx injector) l last)
    (hw3c : ∀ x ∈ l, x.1.service.IsW3c) :
    List.Forall₂ (fun x caller =>
        x.2.Knows baggage cx.spanContext.traceId caller ∧ x.2.KnowsParent caller) l
        (callers cx.spanContext.spanId l) ∧
      ∀ receiver : Service, receiver.IsW3c →
        ∃ sc, (DatadogCompositePropagator.new receiver.config).extract receiver.ord last = some sc ∧
          Says baggage cx.spanContext.traceId (sender cx.spanContext.spanId l) sc := by
  have hids : cx.spanContext.traceId ≠ 0 ∧ cx.spanContext.spanId ≠ 0 := by
    simpa [SpanContext.isValid] using hvalid
  have hsends : Sends baggage cx.spanContext.traceId cx.spanContext.spanId
      (DatadogPropagator.ddSpanContext data cx.spanContext) :=
    ⟨rfl, rfl, hlocal, (in_ddSpanContext hin cx.spanContext).1⟩
  have hfirst := Service.hasHeaders_of_isW3c hservice hids.1 hids.2 hsends injector
  rw [← hdata, ← service.injectContext_eq hvalid] at hfirst
  rcases chain_invariant (A := fun relay => relay.service.IsW3c)
    (P := fun _ => Propagation.TraceContext.HasHeaders baggage cx.spanContext.traceId)
    (K := fun caller x => x.2.Knows baggage cx.spanContext.traceId caller ∧ x.2.KnowsParent caller)
    service hids.2 hfirst
    (fun hs hheaders hrelay hstep => Relay.step_w3c hfits hids.1 hs hheaders hrelay hstep) hrun hw3c
    with ⟨hknow, hheaders⟩
  refine ⟨hknow, ?_⟩
  intro receiver hreceiver
  rcases Service.says_of_isW3c hreceiver hfits hids.1 (sender_ne hids.2 l) hheaders with
    ⟨sc, hextract, hsaid, -⟩
  exact ⟨sc, hextract, hsaid⟩

/-! ### A trace that came from a browser -/

/-- A service whose API reads no trace state. -/
def serviceWith (config : Config) (enabled : config.enabled = true) : Service where
  config := config
  ord := .asStored Str Str
  api := { fromKeyValue := fun _ => none, fromStr := fun _ => none }
  enabled := enabled

def w3cService : Service :=
  serviceWith { defaultConfig with tracePropagationStyle := some [.traceContext] } rfl

theorem w3cService_isW3c : w3cService.IsW3c := ⟨by decide, by decide⟩

/-- The trace is kept. -/
def rumData : TracePropagationData :=
  { samplingDecision :=
      { priority := some Priority.userKeep
        mechanism := some Mechanism.manual }
    origin := some "rum".toList
    tags := some (.ofPairs [("_dd.p.dm".toList, "-4".toList)]) }

def rumBaggage : Baggage :=
  { priority := Priority.userKeep
    origin := rumData.origin
    tags := rumData.tags.getD ∅ }

def rumSpan : SpanContext :=
  { traceId := 7
    spanId := 1
    traceFlags := .sampled
    isRemote := false
    traceState := none }

/-- The registry of a service in which the trace is stored. -/
def rumRegistry (service : Service) : TraceRegistry :=
  ((TraceRegistry.new service.config fun _ => 0).call
    ⟨7, .registerLocalRootTracePropagationData rumData⟩).2

/-- A service that starts another span before it sends. -/
def rumRelay (service : Service) (spanId : SpanId) (h : spanId ≠ 0) : Relay where
  service := service
  base := .new
  isParent := .new
  registry := .new service.config fun _ => 0
  answers := Tracer.noRule none
  calls := [.onStart { spanContext := rumSpan, isRecording := true } .new]
  spanId := spanId
  spanId_ne := h
  traceFlags := .sampled
  traceState := none
  injector := ∅

/-- Two services on the way. -/
theorem chain_keeps_baggage_rum :
    ∃ l last,
      Machine.Run Relay.machine
        ((DatadogPropagator.new w3cService.config).injectContext w3cService.ord
          (rumRegistry w3cService) (Context.new.withSpanContext rumSpan) ∅) l last ∧
      l.map (fun x => x.1.spanId) = [2, 3] ∧
      List.Forall₂ (fun x caller => x.2.Knows rumBaggage 7 caller ∧ x.2.KnowsParent caller) l
        (callers 1 l) := by
  have hfits : rumBaggage.Fits := ⟨by decide, by decide, by decide, by decide⟩
  have hrun := Machine.run_of_exec (m := Relay.machine)
    (s := (DatadogPropagator.new w3cService.config).injectContext w3cService.ord
      (rumRegistry w3cService) (Context.new.withSpanContext rumSpan) ∅)
    [rumRelay w3cService 2 (by decide), rumRelay w3cService 3 (by decide)] rfl
  refine ⟨_, _, hrun, rfl, ?_⟩
  have hstored : (rumRegistry w3cService).getTracePropagationData
      (Context.new.withSpanContext rumSpan).spanContext.traceId = rumData := rfl
  exact (chain_keeps_baggage hfits w3cService_isW3c rfl rfl hstored ⟨rfl, rfl, fun _ => rfl⟩ ∅ hrun
    fun x hx => by
      rcases List.mem_cons.1 hx with rfl | hx
      · exact w3cService_isW3c
      · rcases List.mem_cons.1 hx with rfl | hx
        · exact w3cService_isW3c
        · cases hx).1

/-! ## Any styles -/

/-- A service that has room for the baggage in the header of the tags. -/
def Service.HasRoom (service : Service) (baggage : Baggage) : Prop :=
  Propagation.Datadog.Room baggage (DatadogCompositePropagator.new service.config).config

/-- Every style that injects writes something. -/
theorem none_notMem_injectors (config : Config) :
    .none ∉ (DatadogCompositePropagator.new config).injectors := by
  simp [DatadogCompositePropagator.new]

section Mixed

variable {service : Service} {baggage : Baggage} {traceId : TraceId} {spanId : SpanId}

/-- One service with any styles. -/
theorem Relay.step_mixed (hw3c : baggage.Fits)
    (hfits : Propagation.Datadog.FitsHeaders baggage traceId) (ht : traceId ≠ 0) (hs : spanId ≠ 0)
    {received sent : Carrier} {relay : Relay} {relayed : Relayed}
    (hcarried : Carried baggage traceId spanId
      (DatadogCompositePropagator.new service.config).injectors received)
    (hroom : relay.service.HasRoom baggage) (hfresh : IsFresh relay.injector)
    (hstep : Relay.machine received relay = some (sent, relayed)) :
    relayed.Knows baggage traceId spanId ∧
      Carried baggage traceId relay.spanId
        (DatadogCompositePropagator.new relay.service.config).injectors sent := by
  have hfound : ∀ sc ∈ relay.found received, Says baggage traceId spanId sc := by
    intro sc hsc
    exact ((DatadogCompositePropagator.says_of_carried relay.service.ord _ hw3c hfits hroom ht hs
      hcarried).1 sc hsc).1
  rcases Relay.knows_of_found ht hfound hstep with
    ⟨hknows, -, context, -, -, hsent, hsends, hmechanism⟩
  refine ⟨hknows, ?_⟩
  -- the service got the baggage, so that it is complete
  have hin := DatadogCompositePropagator.in_sentTags (.new relay.service.config) hfits hsends hmechanism
  rcases hsends with ⟨rfl, hspanId, hlocal, -⟩
  have hs : context.spanId ≠ 0 := by
    rw [hspanId]
    exact relay.spanId_ne
  rw [hsent, ← hspanId]
  exact DatadogCompositePropagator.inject_carried relay.service.ord hfits hroom ht hs hlocal
    (none_notMem_injectors relay.service.config) hfresh hin hmechanism

end Mixed

/-- A service injects a local span, and what it sends with it, the tags of the Datadog style included if
this style comes first, is baggage that fits into the headers.  From there the request goes through any
services, each with as many styles as it likes and in any order, with room for the baggage in the header
of the tags, and with requests that have no headers of these styles before.  Every service that found
something is in the same trace, has this baggage and decides as its priority says; and whoever receives
the last request finds the same, if it finds anything, and does if it knows one of the styles of the
last sender. -/
theorem mixed_chain_keeps_baggage {baggage : Baggage} (hw3c : baggage.Fits) {service : Service}
    (hroom : service.HasRoom baggage) {registry : TraceRegistry} {cx : Context}
    (hvalid : cx.spanContext.isValid = true) (hlocal : cx.spanContext.isRemote = false)
    (hfits : Propagation.Datadog.FitsHeaders baggage cx.spanContext.traceId)
    {context : Propagation.InjectSpanContext}
    (hcontext : DatadogPropagator.ddSpanContext
      (registry.getTracePropagationData cx.spanContext.traceId) cx.spanContext = context)
    (hin : baggage.In context.sampling.priority context.origin
      ((DatadogCompositePropagator.new service.config).sentTags context))
    (hmechanism : context.sampling.mechanism = baggage.mechanism) {injector : Carrier}
    (hfresh : IsFresh injector) {l : List (Relay × Relayed)} {last : Carrier}
    (hrun : Machine.Run Relay.machine
      ((DatadogPropagator.new service.config).injectContext service.ord registry cx injector) l last)
    (hrelays : ∀ x ∈ l, x.1.service.HasRoom baggage ∧ IsFresh x.1.injector) :
    List.Forall₂ (fun x caller => x.2.Knows baggage cx.spanContext.traceId caller) l
        (callers cx.spanContext.spanId l) ∧
      ∀ receiver : Service, receiver.HasRoom baggage →
        (∀ sc ∈ (DatadogCompositePropagator.new receiver.config).extract receiver.ord last,
          Says baggage cx.spanContext.traceId (sender cx.spanContext.spanId l) sc) ∧
        ((∃ style ∈ (DatadogCompositePropagator.new receiver.config).extractors,
            style ∈ (DatadogCompositePropagator.new (lastService service l).config).injectors) →
          ((DatadogCompositePropagator.new receiver.config).extract receiver.ord last).isSome =
            true) := by
  have hids : cx.spanContext.traceId ≠ 0 ∧ cx.spanContext.spanId ≠ 0 := by
    simpa [SpanContext.isValid] using hvalid
  have hfirst : Carried baggage cx.spanContext.traceId cx.spanContext.spanId
      (DatadogCompositePropagator.new service.config).injectors
      ((DatadogPropagator.new service.config).injectContext service.ord registry cx injector) := by
    rw [service.injectContext_eq hvalid, hcontext]
    subst hcontext
    exact DatadogCompositePropagator.inject_carried service.ord hfits hroom hids.1 hids.2 hlocal
      (none_notMem_injectors service.config) hfresh hin hmechanism
  rcases chain_invariant
    (A := fun relay => relay.service.HasRoom baggage ∧ IsFresh relay.injector)
    (P := fun service spanId => Carried baggage cx.spanContext.traceId spanId
      (DatadogCompositePropagator.new service.config).injectors)
    (K := fun caller x => x.2.Knows baggage cx.spanContext.traceId caller)
    service hids.2 hfirst
    (fun hs hcarried hrelay hstep =>
      Relay.step_mixed hw3c hfits hids.1 hs hcarried hrelay.1 hrelay.2 hstep) hrun hrelays
    with ⟨hknow, hcarried⟩
  refine ⟨hknow, ?_⟩
  intro receiver hreceiver
  rcases DatadogCompositePropagator.says_of_carried receiver.ord
    (DatadogCompositePropagator.new receiver.config) hw3c hfits hreceiver hids.1
    (sender_ne hids.2 l) hcarried with ⟨hfound, hsome⟩
  refine ⟨fun sc hsc => (hfound sc hsc).1, ?_⟩
  rintro ⟨style, hextractor, hinjector⟩
  refine hsome ⟨style, hextractor, ?_, hinjector⟩
  rintro rfl
  exact none_notMem_injectors _ hinjector

/-- A trace with an id of 128 bits that was kept by a rule in the service where it began, and whose tags
are those that the Datadog style adds. -/
def ruleData : TracePropagationData :=
  { samplingDecision :=
      { priority := some Priority.userKeep
        mechanism := some Mechanism.localUserTraceSamplingRule }
    origin := none
    tags := none }

def wideSpan : SpanContext :=
  { rumSpan with traceId := 18446744073709551623 }

def ruleContext : Propagation.InjectSpanContext :=
  DatadogPropagator.ddSpanContext ruleData wideSpan

def ruleBaggage : Baggage :=
  { priority := Priority.userKeep
    origin := none
    tags := Propagation.Datadog.headerTags ruleContext }

/-- The services of the chain know the styles of the default, and then the W3C style only. -/
theorem mixed_chain_keeps_baggage_rule :
    ∃ l last,
      Machine.Run Relay.machine
        ((DatadogPropagator.new defaultConfig).injectContext (serviceWith defaultConfig rfl).ord
          ((TraceRegistry.new defaultConfig fun _ => 0).call
            ⟨18446744073709551623, .registerLocalRootTracePropagationData ruleData⟩).2
          (Context.new.withSpanContext wideSpan) ∅) l last ∧
      l.map (fun x => x.1.spanId) = [2, 3] ∧
      List.Forall₂ (fun x caller => x.2.Knows ruleBaggage 18446744073709551623 caller) l
        (callers 1 l) := by
  have hw3c : ruleBaggage.Fits := ⟨by decide, by decide, by decide, by decide⟩
  have hfits : Propagation.Datadog.FitsHeaders ruleBaggage
      (Context.new.withSpanContext wideSpan).spanContext.traceId :=
    ⟨by decide, by decide, by decide, by decide⟩
  have hroom : (serviceWith defaultConfig rfl).HasRoom ruleBaggage := ⟨by decide, by decide⟩
  have hroom' : w3cService.HasRoom ruleBaggage := ⟨by decide, by decide⟩
  have hrun := Machine.run_of_exec (m := Relay.machine)
    (s := (DatadogPropagator.new defaultConfig).injectContext (serviceWith defaultConfig rfl).ord
      ((TraceRegistry.new defaultConfig fun _ => 0).call
        ⟨18446744073709551623, .registerLocalRootTracePropagationData ruleData⟩).2
      (Context.new.withSpanContext wideSpan) ∅)
    [rumRelay (serviceWith defaultConfig rfl) 2 (by decide), rumRelay w3cService 3 (by decide)] rfl
  refine ⟨_, _, hrun, rfl, ?_⟩
  have hcontext : DatadogPropagator.ddSpanContext
      (((TraceRegistry.new defaultConfig fun _ => 0).call
        ⟨18446744073709551623, .registerLocalRootTracePropagationData
          ruleData⟩).2.getTracePropagationData
        (Context.new.withSpanContext wideSpan).spanContext.traceId)
      (Context.new.withSpanContext wideSpan).spanContext = ruleContext := rfl
  have hin : ruleBaggage.In ruleContext.sampling.priority ruleContext.origin
      ((DatadogCompositePropagator.new (serviceWith defaultConfig rfl).config).sentTags
        ruleContext) :=
    ⟨rfl, rfl, fun _ => rfl⟩
  exact (mixed_chain_keeps_baggage hw3c hroom rfl rfl hfits hcontext hin (by decide) .empty hrun
    fun x hx => by
      rcases List.mem_cons.1 hx with rfl | hx
      · exact ⟨hroom, .empty⟩
      · rcases List.mem_cons.1 hx with rfl | hx
        · exact ⟨hroom', .empty⟩
        · cases hx).1

end Otel
end DdTrace
