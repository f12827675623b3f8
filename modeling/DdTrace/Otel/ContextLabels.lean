import DdTrace.Lib.Prefixes
import DdTrace.Otel.TextMapPropagator
import DdTrace.Otel.TraceRegistry
import Mathlib.Data.List.Chain
import Mathlib.Data.List.Induction

/-!
# ContextLabels — the labels a profiler reads follow the active context

In a build with the context observer, every switch of the context of a thread writes the ids of the
span that becomes active into the label set of the thread, together with its HTTP route if the
registry knows one.  A switch to a context without a valid, sampled span deletes the labels.

The label set is changed in place: writing the labels of a span without a route leaves the route
label alone.  `labels_follow_iff` says for which runs of switches the labels are those of the active
span after every switch.
-/

namespace DdTrace
namespace Otel

open DdTrace.Lib DdTrace.Core

/-! ## Metadata of active spans -/

/-- What is known of a span before it finishes. -/
structure ActiveSpanMetadata where
  httpRoute : Option Str

/-- An entry of the registry in a build that keeps metadata of active spans. -/
structure ActiveTrace extends Trace where
  activeSpans : HashMap SpanId ActiveSpanMetadata

/-- The shards of such a registry, and the hash that chooses among them. -/
structure ActiveRegistry where
  inner : Fin TRACE_REGISTRY_SHARDS → HashMap TraceId ActiveTrace
  hasher : TraceId → Nat

namespace ActiveRegistry

def getShard (self : ActiveRegistry) (traceId : TraceId) : Fin TRACE_REGISTRY_SHARDS :=
  ⟨self.hasher traceId % TRACE_REGISTRY_SHARDS, Nat.mod_lt _ (by decide)⟩

/-- The entry of a trace. -/
def trace (self : ActiveRegistry) (traceId : TraceId) : Option ActiveTrace :=
  (self.inner (self.getShard traceId)).lookup traceId

/-- The local root of a trace; an id of zero means that it is not known yet. -/
def getLocalRootSpanId (self : ActiveRegistry) (traceId : TraceId) : Option SpanId :=
  (self.trace traceId).bind fun trace =>
    if trace.localRootSpanId = 0 then none else some trace.localRootSpanId

/-- Metadata of a span of a registered trace; of another trace it is dropped. -/
def setActiveSpanMetadata (self : ActiveRegistry) (traceId : TraceId) (spanId : SpanId)
    (metaData : ActiveSpanMetadata) : ActiveRegistry :=
  match self.trace traceId with
  | none => self
  | some trace =>
      let trace := { trace with activeSpans := AList.insert spanId metaData trace.activeSpans }
      let shard := AList.insert traceId trace (self.inner (self.getShard traceId))
      { self with inner := Function.update self.inner (self.getShard traceId) shard }

def getActiveSpanMetadata (self : ActiveRegistry) (traceId : TraceId) (spanId : SpanId) :
    Option ActiveSpanMetadata :=
  (self.trace traceId).bind fun trace => trace.activeSpans.lookup spanId

/-- The route of a span, if the registry holds one for that very span. -/
def httpRoute (self : ActiveRegistry) (traceId : TraceId) (spanId : SpanId) : Option Str :=
  (self.getActiveSpanMetadata traceId spanId).bind (·.httpRoute)

/-- The callback is called in any case, with the route if there is one. -/
def withExtractedSpanData {R : Type*} (self : ActiveRegistry) (traceId : TraceId)
    (spanId _localRootSpanId : SpanId) (f : Option Str → R) : Option R :=
  some (f (self.httpRoute traceId spanId))

/-- Setting metadata touches the entry of its trace, and no other entry. -/
theorem trace_setActiveSpanMetadata (self : ActiveRegistry) (traceId t : TraceId)
    (spanId : SpanId) (metaData : ActiveSpanMetadata) :
    (self.setActiveSpanMetadata traceId spanId metaData).trace t =
      if t = traceId then
        (self.trace t).map fun trace =>
          { trace with activeSpans := AList.insert spanId metaData trace.activeSpans }
      else self.trace t := by
  obtain ⟨entry, hentry⟩ : ∃ entry, self.trace traceId = entry := ⟨_, rfl⟩
  unfold setActiveSpanMetadata
  simp only [hentry]
  cases entry with
  | none =>
      by_cases ht : t = traceId
      · simp [ht, hentry]
      · simp [ht]
  | some trace =>
      simp only [ActiveRegistry.trace, getShard] at hentry ⊢
      by_cases ht : t = traceId
      · subst ht
        simp [hentry]
      · by_cases hshard : self.getShard t = self.getShard traceId
        · simp only [getShard] at hshard
          simp [ht, hshard, AList.lookup_insert_ne ht]
        · -- another shard is not written
          simp only [getShard] at hshard
          simp [ht, Function.update_of_ne hshard]

/-- A route that was set for a span of a registered trace is the route of that span, and of no other
span. -/
theorem httpRoute_setActiveSpanMetadata (self : ActiveRegistry) (traceId t : TraceId)
    (spanId s : SpanId) (metaData : ActiveSpanMetadata) :
    (self.setActiveSpanMetadata traceId spanId metaData).httpRoute t s =
      if t = traceId ∧ s = spanId ∧ (self.trace traceId).isSome then metaData.httpRoute
      else self.httpRoute t s := by
  unfold httpRoute getActiveSpanMetadata
  rw [trace_setActiveSpanMetadata]
  by_cases ht : t = traceId
  · subst ht
    cases hentry : self.trace t with
    | none => simp
    | some trace =>
        by_cases hs : s = spanId
        · subst hs
          simp
        · simp [hs, AList.lookup_insert_ne]
  · simp [ht]

end ActiveRegistry

/-! ## The writer -/

/-- The bytes of an id, the most significant one first. -/
def toBytes {w : Nat} (n : Nat) (id : BitVec w) : List UInt8 :=
  (List.range n).reverse.map fun i => UInt8.ofNat (id.toNat >>> (8 * i))

structure ExtractedSpanData where
  traceId : TraceId
  spanId : SpanId
  localRootSpanId : SpanId
  httpRoute : Option Str

/-- The V1 label set of a thread; before the first label is written there is none. -/
abbrev Labelset := Option (HashMap Str (List UInt8))

def TRACE_ID_LABEL : Str := "trace_id".toList
def SPAN_ID_LABEL : Str := "span_id".toList
def LOCAL_ROOT_SPAN_ID_LABEL : Str := "local_root_span_id".toList
def HTTP_ROUTE_LABEL : Str := "http_route".toList

namespace CustomLabelsWriter

def writeLabels (data : ExtractedSpanData) (labelset : Labelset) : Labelset :=
  let labels := labelset.getD ∅
  let labels := AList.insert TRACE_ID_LABEL (toBytes 16 data.traceId) labels
  let labels := AList.insert SPAN_ID_LABEL (toBytes 8 data.spanId) labels
  let labels := AList.insert LOCAL_ROOT_SPAN_ID_LABEL (toBytes 8 data.localRootSpanId) labels
  match data.httpRoute with
  | some route => some (AList.insert HTTP_ROUTE_LABEL (Text.bytes route) labels)
  -- the label of an earlier route is not deleted
  | none => some labels

def clearLabels (labelset : Labelset) : Labelset :=
  labelset.map fun labels =>
    AList.erase HTTP_ROUTE_LABEL (AList.erase LOCAL_ROOT_SPAN_ID_LABEL
      (AList.erase SPAN_ID_LABEL (AList.erase TRACE_ID_LABEL labels)))

end CustomLabelsWriter

/-! ## The observer -/

namespace ContextLabelObserver

/-- Writes the labels of a context, or says that it has none to write. -/
def writeTraceContext (registry : ActiveRegistry) (ctx : Context) (labelset : Labelset) :
    Bool × Labelset :=
  if !ctx.hasActiveSpan then (false, labelset)
  else
    let spanContext := ctx.spanContext
    if !spanContext.isValid || !spanContext.traceFlags.isSampled then (false, labelset)
    else
      let traceId := spanContext.traceId
      let spanId := spanContext.spanId
      let localRootSpanId := (registry.getLocalRootSpanId traceId).getD spanId
      let written :=
        registry.withExtractedSpanData traceId spanId localRootSpanId fun httpRoute =>
          CustomLabelsWriter.writeLabels
            { traceId := traceId
              spanId := spanId
              localRootSpanId := localRootSpanId
              httpRoute := httpRoute } labelset
      (true, written.getD labelset)

def onContextEnter (registry : ActiveRegistry) (_source target : Context) (labelset : Labelset) :
    Labelset :=
  let (written, labelset) := writeTraceContext registry target labelset
  if !written then CustomLabelsWriter.clearLabels labelset else labelset

def onContextExit (registry : ActiveRegistry) (_source target : Context) (labelset : Labelset) :
    Labelset :=
  let (written, labelset) := writeTraceContext registry target labelset
  if !written then CustomLabelsWriter.clearLabels labelset else labelset

end ContextLabelObserver

/-! ## Runs of switches -/

/-- A switch of the context of a thread. -/
inductive ContextSwitch
  | enter (source target : Context)
  | exit (source target : Context)

namespace ContextSwitch

/-- The context that is active after the switch. -/
def target : ContextSwitch → Context
  | enter _ target => target
  | exit _ target => target

end ContextSwitch

/-- A switch, and the registry as it is at that moment. -/
structure ContextEvent where
  registry : ActiveRegistry
  switch : ContextSwitch

namespace ContextEvent

def observe (labelset : Labelset) (event : ContextEvent) : Labelset :=
  match event.switch with
  | .enter source target =>
      ContextLabelObserver.onContextEnter event.registry source target labelset
  | .exit source target =>
      ContextLabelObserver.onContextExit event.registry source target labelset

/-- The label set after some switches. -/
def observeAll (labelset : Labelset) (events : List ContextEvent) : Labelset :=
  events.foldl observe labelset

/-- The span that becomes active, if it is valid and sampled. -/
def active (event : ContextEvent) : Option SpanContext :=
  event.switch.target.activeSpan.filter fun span => span.isValid && span.traceFlags.isSampled

/-- The route of the span that becomes active. -/
def route (event : ContextEvent) : Option Str :=
  event.active.bind fun span => event.registry.httpRoute span.traceId span.spanId

end ContextEvent

/-! ## What the labels should be -/

/-- The four labels, as a profiler reads them. -/
@[ext] structure Labels where
  traceId : Option (List UInt8)
  spanId : Option (List UInt8)
  localRootSpanId : Option (List UInt8)
  httpRoute : Option (List UInt8)
  deriving DecidableEq

namespace Labels

/-- None of the labels. -/
def empty : Labels :=
  { traceId := none, spanId := none, localRootSpanId := none, httpRoute := none }

/-- The labels in a label set. -/
def read (labelset : Labelset) : Labels :=
  { traceId := labelset.bind (·.lookup TRACE_ID_LABEL)
    spanId := labelset.bind (·.lookup SPAN_ID_LABEL)
    localRootSpanId := labelset.bind (·.lookup LOCAL_ROOT_SPAN_ID_LABEL)
    httpRoute := labelset.bind (·.lookup HTTP_ROUTE_LABEL) }

/-- The labels of the context that is active after a switch. -/
def ofEvent (event : ContextEvent) : Labels :=
  match event.active with
  | some span =>
      { traceId := some (toBytes 16 span.traceId)
        spanId := some (toBytes 8 span.spanId)
        localRootSpanId :=
          some (toBytes 8 ((event.registry.getLocalRootSpanId span.traceId).getD span.spanId))
        httpRoute := (event.registry.httpRoute span.traceId span.spanId).map Text.bytes }
  | none => empty

end Labels

/-! ## One switch -/

section Switch

variable (labelset : Labelset) (data : ExtractedSpanData) (event : ContextEvent)

/-- Writing sets the ids; the route stays as it was unless there is a new one. -/
theorem read_writeLabels :
    Labels.read (CustomLabelsWriter.writeLabels data labelset) =
      { traceId := some (toBytes 16 data.traceId)
        spanId := some (toBytes 8 data.spanId)
        localRootSpanId := some (toBytes 8 data.localRootSpanId)
        httpRoute := (data.httpRoute.map Text.bytes).or (Labels.read labelset).httpRoute } := by
  have hkeys :
      [TRACE_ID_LABEL, SPAN_ID_LABEL, LOCAL_ROOT_SPAN_ID_LABEL, HTTP_ROUTE_LABEL].Nodup := by
    decide
  simp only [List.nodup_cons, List.mem_cons, List.not_mem_nil, or_false, not_or] at hkeys
  obtain ⟨⟨h₁, h₂, h₃⟩, ⟨h₄, h₅⟩, h₆, -⟩ := hkeys
  cases hroute : data.httpRoute with
  | none =>
      -- the route label is none of those that are written
      have hstale :
          (Labels.read labelset).httpRoute = (labelset.getD ∅).lookup HTTP_ROUTE_LABEL := by
        cases labelset with
        | none => rfl
        | some labels => rfl
      rw [hstale]
      simp only [Labels.read, CustomLabelsWriter.writeLabels, hroute, Option.bind_some,
        HashMap.lookup_insert_eq, h₁, h₂, h₄, Ne.symm h₃, Ne.symm h₅, Ne.symm h₆, if_true, if_false,
        Option.map_none, Option.none_or]
  | some route =>
      simp only [Labels.read, CustomLabelsWriter.writeLabels, hroute, Option.bind_some,
        HashMap.lookup_insert_eq, h₁, h₂, h₃, h₄, h₅, h₆, if_true, if_false, Option.map_some,
        Option.some_or]

/-- Clearing deletes the four labels. -/
theorem read_clearLabels : Labels.read (CustomLabelsWriter.clearLabels labelset) = .empty := by
  cases labelset with
  | none => rfl
  | some labels =>
      simp [Labels.read, CustomLabelsWriter.clearLabels, HashMap.lookup_erase_eq, Labels.empty]

/-- The observer writes the labels of a valid, sampled span and clears them otherwise. -/
theorem observe_eq :
    event.observe labelset =
      match event.active with
      | some span =>
          CustomLabelsWriter.writeLabels
            { traceId := span.traceId
              spanId := span.spanId
              localRootSpanId := (event.registry.getLocalRootSpanId span.traceId).getD span.spanId
              httpRoute := event.registry.httpRoute span.traceId span.spanId } labelset
      | none => CustomLabelsWriter.clearLabels labelset := by
  -- entering and leaving a context do the same
  have hswitch : event.observe labelset =
      ContextLabelObserver.onContextEnter event.registry .new event.switch.target labelset := by
    rcases event with ⟨registry, switch⟩
    cases switch with
    | enter source target => rfl
    | exit source target => rfl
  rw [hswitch]
  obtain ⟨span, hspan⟩ : ∃ span, event.switch.target.activeSpan = span := ⟨_, rfl⟩
  unfold ContextLabelObserver.onContextEnter ContextLabelObserver.writeTraceContext
  cases span with
  | none =>
      have hactive : event.active = none := by simp [ContextEvent.active, hspan]
      rw [hactive]
      simp [Context.hasActiveSpan, hspan]
  | some span =>
      by_cases hlive : span.isValid = true ∧ span.traceFlags.isSampled = true
      · have hactive : event.active = some span := by
          simp [ContextEvent.active, hspan, Option.filter, hlive]
        rw [hactive]
        simp [Context.hasActiveSpan, Context.spanContext, hspan, hlive,
          ActiveRegistry.withExtractedSpanData]
      · have hactive : event.active = none := by
          simpa [ContextEvent.active, hspan, Option.filter] using hlive
        have hwrite : (!span.isValid || !span.traceFlags.isSampled) = true := by
          simpa [imp_iff_not_or] using hlive
        rw [hactive]
        simp [Context.hasActiveSpan, Context.spanContext, hspan, hwrite]

/-- What a switch does to the labels: those of the new span, but for a route that is left over. -/
theorem read_observe :
    Labels.read (event.observe labelset) =
      { Labels.ofEvent event with
        httpRoute :=
          if event.active.isSome then
            (event.route.map Text.bytes).or (Labels.read labelset).httpRoute
          else none } := by
  rw [observe_eq]
  cases hactive : event.active with
  | none => simp [read_clearLabels, Labels.ofEvent, hactive, Labels.empty]
  | some span =>
      simp [read_writeLabels, Labels.ofEvent, hactive, ContextEvent.route]

/-- The labels after a switch are right unless the new span has no route and an old one is left. -/
theorem read_observe_eq_iff :
    Labels.read (event.observe labelset) = .ofEvent event ↔
      (event.active.isSome → event.route = none → (Labels.read labelset).httpRoute = none) := by
  rw [read_observe]
  cases hactive : event.active with
  | none => simp [Labels.ofEvent, hactive, Labels.empty]
  | some span =>
      have hroute : event.route = event.registry.httpRoute span.traceId span.spanId := by
        simp [ContextEvent.route, hactive]
      cases hheld : event.registry.httpRoute span.traceId span.spanId with
      | none => simp [Labels.ofEvent, hactive, hroute, hheld]
      | some route => simp [Labels.ofEvent, hactive, hroute, hheld]

end Switch

/-! ## Whole runs -/

/-- After every switch of a run, the labels are those of the context that became active. -/
def Labels.Follow (start : Labelset) (events : List ContextEvent) : Prop :=
  ∀ seen event, seen ++ [event] <+: events →
    Labels.read (ContextEvent.observeAll start (seen ++ [event])) = .ofEvent event

/-- A switch from a span with a route directly to a span without one. -/
def ContextEvent.leavesRoute (previous event : ContextEvent) : Bool :=
  previous.route.isSome && event.active.isSome && event.route.isNone

section Runs

variable {start : Labelset}

theorem Labels.follow_snoc {events : List ContextEvent} {event : ContextEvent} :
    Labels.Follow start (events ++ [event]) ↔
      Labels.Follow start events ∧
        Labels.read (ContextEvent.observe (ContextEvent.observeAll start events) event) =
          .ofEvent event := by
  have hlast : ContextEvent.observeAll start (events ++ [event]) =
      ContextEvent.observe (ContextEvent.observeAll start events) event := by
    simp [ContextEvent.observeAll]
  rw [← hlast]
  exact atEach_snoc

/-- Where the labels followed so far, the route label is that of the last switch. -/
theorem Labels.Follow.httpRoute (hstart : Labels.read start = .empty) {events : List ContextEvent}
    (h : Labels.Follow start events) :
    (Labels.read (ContextEvent.observeAll start events)).httpRoute =
      (events.getLast?.bind (·.route)).map Text.bytes := by
  induction events using List.reverseRecOn with
  | nil => simp [ContextEvent.observeAll, hstart, Labels.empty]
  | append_singleton events event _ =>
      rw [h events event (List.prefix_refl _)]
      cases hactive : event.active with
      | none => simp [Labels.ofEvent, ContextEvent.route, hactive, Labels.empty]
      | some span => simp [Labels.ofEvent, ContextEvent.route, hactive]

/-- The labels follow the active context along a run if and only if no switch of it goes from a span
with a route directly to a span without one. -/
theorem labels_follow_iff (hstart : Labels.read start = .empty) (events : List ContextEvent) :
    Labels.Follow start events ↔
      events.IsChain fun previous event => ContextEvent.leavesRoute previous event = false := by
  -- from the end: the labels before the last switch decide whether it leaves a route behind
  induction events using List.reverseRecOn with
  | nil => simp [Labels.Follow]
  | append_singleton events event ih =>
      rw [Labels.follow_snoc, ih, List.isChain_append, ← ih]
      apply and_congr_right
      intro hfollow
      rw [read_observe_eq_iff, hfollow.httpRoute hstart]
      cases hlast : events.getLast? with
      | none => simp
      | some previous =>
          cases hroute : previous.route with
          | none => simp [ContextEvent.leavesRoute, hroute]
          | some route => simp [ContextEvent.leavesRoute, hroute, Option.ne_none_iff_isSome]

end Runs

section Example

/-- A registry of one trace, with a route for its root span only. -/
def routedRegistry : ActiveRegistry :=
  { inner := fun _ =>
      AList.insert 1
        { localRootSpanId := 1
          finishedSpans := []
          openSpanCount := 2
          propagationData := emptyPropagationData
          activeSpans := AList.insert 1 { httpRoute := some "/users".toList } ∅ } ∅
    hasher := fun _ => 0 }

/-- The context of a span of that trace. -/
def routedContext (spanId : SpanId) : Context :=
  Context.new.withSpanContext
    { traceId := 1
      spanId := spanId
      traceFlags := .sampled
      isRemote := false
      traceState := none }

/-- Entering the root span, then its child. -/
def routedEntries : List ContextEvent :=
  [{ registry := routedRegistry, switch := .enter .new (routedContext 1) },
    { registry := routedRegistry, switch := .enter (routedContext 1) (routedContext 2) }]

/-- Entering the root span and leaving it. -/
def routedVisit : List ContextEvent :=
  [{ registry := routedRegistry, switch := .enter .new (routedContext 1) },
    { registry := routedRegistry, switch := .exit (routedContext 1) .new }]

theorem labels_follow_routedVisit : Labels.Follow none routedVisit :=
  (labels_follow_iff rfl routedVisit).2 (by decide)

/-- The child span has no route, and is labelled with that of the root span. -/
theorem not_follow_routedEntries : ¬ Labels.Follow none routedEntries := by
  intro hfollow
  have hchild := hfollow (routedEntries.take 1)
    { registry := routedRegistry, switch := .enter (routedContext 1) (routedContext 2) }
    (List.prefix_refl _)
  revert hchild
  decide

end Example

end Otel
end DdTrace
