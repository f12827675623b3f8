import DdTrace.Core.ExtraServices
import DdTrace.Otel.Pipeline
import DdTrace.Otel.ServiceName

/-!
# DiscoveredServices — the services that remote configuration is told

When the queue takes a chunk, the services that its spans name go to the configuration, which keeps them
for the requests of remote configuration.  The service of the process is none of them, but which one that
is may change while spans are exported.

`services_discovered` says what a request is told, in any order of resources, chunks, the steps of the
worker and requests: the services of the chunks that were taken, other than the service of the process at
the time, up to the limit.
-/

namespace DdTrace
namespace Otel

open DdTrace.Lib DdTrace.Core DdTrace.Mappings

/-! ## The names of spans -/

namespace ConfigItems

/-- Without remote configuration nobody asks for the services. -/
def addExtraService (self : ConfigItems) (serviceName : Str) (tracker : ExtraServicesTracker) :
    ExtraServicesTracker :=
  if !self.value .remoteConfigEnabled then tracker
  else tracker.addExtraService serviceName self.service.value.asStr

def getExtraServices (self : ConfigItems) (removed : List Str) (tracker : ExtraServicesTracker) :
    Option (ExtraServicesTracker × Finset Str) :=
  if !self.value .remoteConfigEnabled then
    if removed.isEmpty then some (tracker, ∅) else none
  else tracker.getExtraServices removed

end ConfigItems

namespace Batch

variable (api : MappingApi)

/-- The service that a span names, unless it is empty or the one that stands for none. -/
def namedService (span : SpanData) : Option Str :=
  ((span.attributes.find? fun kv => kv.key = "service.name".toList).map fun kv =>
      api.valueToString kv.value).filter fun serviceName =>
    serviceName ≠ [] ∧ serviceName ≠ "otlpresourcenoservicename".toList

def extractAndAddServiceFromSpan (config : ConfigItems) (tracker : ExtraServicesTracker)
    (span : SpanData) : ExtraServicesTracker :=
  match namedService api span with
  | some serviceName => config.addExtraService serviceName tracker
  | none => tracker

end Batch

/-! ## The system -/

/-- The process with its queue and worker, and the services that were found. -/
structure DiscoveryState where
  process : ResourceState
  extraServicesTracker : ExtraServicesTracker

inductive DiscoveryEvent
  | process (event : ResourceEvent)
  /-- A request asks for the services.  Those in `removed` go, where there are too many. -/
  | getExtraServices (removed : List Str)

inductive DiscoveryOutput
  | process (output : ChannelOutput Resource)
  | services (services : Finset Str)

namespace DiscoveryState

variable (api : MappingApi)

def init (config : ConfigItems) (maxNumberOfSpans : Nat) : DiscoveryState :=
  { process := .init config maxNumberOfSpans
    extraServicesTracker := .new }

/-- The spans of a chunk that the batch takes. -/
def takenSpans : ResourceEvent → ChannelOutput Resource → List SpanData
  | .channel (.addTraceChunk chunk), .sent (.ok ()) => chunk
  | _, _ => []

def machine (tx : Sender) : Machine DiscoveryState DiscoveryEvent DiscoveryOutput :=
  fun self event =>
    match event with
    | .process event =>
        (ResourceState.machine api tx self.process event).map fun (process, output) =>
          -- a chunk that is refused is not looked at
          ({ process := process
             extraServicesTracker :=
              (takenSpans event output).foldl
                (Batch.extractAndAddServiceFromSpan api self.process.config)
                self.extraServicesTracker }, .process output)
    | .getExtraServices removed =>
        (self.process.config.getExtraServices removed self.extraServicesTracker).map
          fun (tracker, services) =>
            ({ self with extraServicesTracker := tracker }, .services services)

/-! ## What there is to be found -/

/-- The names that spans bring, other than that of the process. -/
def others (config : ConfigItems) (spans : List SpanData) : List Str :=
  (spans.filterMap (Batch.namedService api)).filter (· ≠ config.service.value.asStr)

/-- The configuration after an event. -/
def configAfter (config : ConfigItems) : DiscoveryEvent → ConfigItems
  | .process (.setResource resource) =>
      config.updateServiceName
        (ResourceState.serviceOf api (createDdResource api resource config.tagging))
  | _ => config

/-- The configuration after a history. -/
def configOf (config : ConfigItems) (l : List (DiscoveryEvent × DiscoveryOutput)) : ConfigItems :=
  l.foldl (fun config x => configAfter api config x.1) config

/-- The names in a step. -/
def found (config : ConfigItems) : DiscoveryEvent × DiscoveryOutput → List Str
  | (.process event, .process output) => others api config (takenSpans event output)
  | _ => []

/-- The names in a history that starts with this configuration, each against the service that the process
has at the time. -/
def discovered : ConfigItems → List (DiscoveryEvent × DiscoveryOutput) → List Str
  | _, [] => []
  | config, x :: l => found api config x ++ discovered (configAfter api config x.1) l

variable {api}

theorem discovered_snoc (config : ConfigItems) (l : List (DiscoveryEvent × DiscoveryOutput))
    (x : DiscoveryEvent × DiscoveryOutput) :
    discovered api config (l ++ [x]) =
      discovered api config l ++
        found api (configOf api config l) x := by
  induction l generalizing config with
  | nil => simp [discovered, configOf]
  | cons y l ih =>
      rw [List.cons_append, discovered, ih, discovered, List.append_assoc]
      rfl

/-- A span without a name names no service. -/
theorem ne_nil_of_mem_others {config : ConfigItems} {spans : List SpanData} {name : Str}
    (h : name ∈ others api config spans) : name ≠ [] := by
  rcases List.mem_filterMap.1 (List.mem_filter.1 h).1 with ⟨span, -, hname⟩
  have hfilter := (Option.mem_filter_iff.1 hname).2
  exact (of_decide_eq_true hfilter).1

theorem ne_nil_of_mem_discovered {config : ConfigItems}
    {l : List (DiscoveryEvent × DiscoveryOutput)} {name : Str}
    (h : name ∈ discovered api config l) : name ≠ [] := by
  induction l generalizing config with
  | nil => cases h
  | cons x l ih =>
      rcases List.mem_append.1 h with hfirst | hrest
      · rcases x with ⟨_ | _, _ | _⟩
        · exact ne_nil_of_mem_others hfirst
        all_goals cases hfirst
      · exact ih hrest

/-! ## The tracker -/

/-- What is known to the tracker: some calls for these names, which are not that of the process. -/
def Knows (names : List Str) (tracker : ExtraServicesTracker) : Prop :=
  ∃ calls : ExtraServicesHistory,
    Machine.Run (ExtraServicesTracker.machine []) .new calls tracker ∧ calls.added = names

theorem Knows.append {names more : List Str} {tracker after : ExtraServicesTracker}
    (h : Knows names tracker) {calls : ExtraServicesHistory}
    (hrun : Machine.Run (ExtraServicesTracker.machine []) tracker calls after)
    (hadded : calls.added = more) : Knows (names ++ more) after := by
  rcases h with ⟨before, hbefore, rfl⟩
  refine ⟨before ++ calls, hbefore.append hrun, ?_⟩
  rw [ExtraServicesHistory.added, List.filterMap_append, ← hadded]
  rfl

/-- The name of a span. -/
theorem Knows.span {names : List Str} {tracker : ExtraServicesTracker} (h : Knows names tracker)
    {config : ConfigItems} (henabled : config.value .remoteConfigEnabled = true) (span : SpanData) :
    Knows (names ++ others api config [span])
      (Batch.extractAndAddServiceFromSpan api config tracker span) := by
  cases hname : Batch.namedService api span with
  | none =>
      simp only [others, Batch.extractAndAddServiceFromSpan, hname, List.filterMap_cons,
        List.filterMap_nil, List.filter_nil, List.append_nil]
      exact h
  | some name =>
      simp only [others, Batch.extractAndAddServiceFromSpan, hname, List.filterMap_cons,
        List.filterMap_nil, ConfigItems.addExtraService, henabled, Bool.not_true,
        Bool.false_eq_true, if_false]
      by_cases hmain : name = config.service.value.asStr
      · -- the service of the process is not sent
        rw [List.filter_cons_of_neg (by simpa using hmain), List.filter_nil, List.append_nil,
          ExtraServicesTracker.addExtraService, if_pos hmain]
        exact h
      · rw [List.filter_cons_of_pos (by simpa using hmain), List.filter_nil]
        have hmem : name ∈ others api config [span] := by simp [others, hname, hmain]
        have hnil : name ≠ [] := ne_nil_of_mem_others hmem
        -- any other name is sent as it would be by a process without a name
        have hsame : tracker.addExtraService name config.service.value.asStr =
            tracker.addExtraService name [] := by
          unfold ExtraServicesTracker.addExtraService
          rw [if_neg hmain, if_neg hnil]
        rw [hsame]
        exact h.append (Machine.Run.single (e := .addExtraService name) rfl) rfl

/-- The names of a chunk. -/
theorem Knows.spans {names : List Str} {tracker : ExtraServicesTracker} (h : Knows names tracker)
    {config : ConfigItems} (henabled : config.value .remoteConfigEnabled = true)
    (spans : List SpanData) :
    Knows (names ++ others api config spans)
      (spans.foldl (Batch.extractAndAddServiceFromSpan api config) tracker) := by
  induction spans generalizing names tracker with
  | nil => simpa [others] using h
  | cons span spans ih =>
      have hsplit : others api config (span :: spans) =
          others api config [span] ++ others api config spans := by
        rw [others, ← List.singleton_append, List.filterMap_append, List.filter_append]
        rfl
      rw [hsplit, ← List.append_assoc]
      exact ih (h.span henabled span)

/-- A request. -/
theorem Knows.get {names : List Str} {tracker after : ExtraServicesTracker} (h : Knows names tracker)
    {removed : List Str} {services : Finset Str}
    (hget : tracker.getExtraServices removed = some (after, services)) : Knows names after := by
  have hmove : ExtraServicesTracker.machine [] tracker (.getExtraServices removed) =
      some (after, .services services) := by
    rw [ExtraServicesTracker.machine, hget]
    rfl
  have hafter : Knows (names ++ []) after := h.append (Machine.Run.single hmove) rfl
  rwa [List.append_nil] at hafter

/-- What a request is told, when these names are known. -/
theorem Knows.services {names : List Str} {tracker after : ExtraServicesTracker}
    (h : Knows names tracker) (hnil : [] ∉ names) {removed : List Str} {services : Finset Str}
    (hget : tracker.getExtraServices removed = some (after, services)) :
    services.card ≤ 64 ∧ services ⊆ names.toFinset ∧
      (names.toFinset.card ≤ 64 → services = names.toFinset) := by
  rcases h with ⟨calls, hrun, rfl⟩
  have hanswers := (ExtraServicesTracker.tracks_of_run hrun).answers hget
  have hothers : calls.others [] = calls.added.toFinset :=
    Finset.erase_eq_of_notMem (by simpa using hnil)
  refine ⟨hanswers.limit, ?_, ?_⟩
  · intro name hname
    exact List.mem_toFinset.2 (hanswers.added name hname).1
  · rw [← hothers]
    exact hanswers.complete

/-! ## Every run -/

/-- What a history says about the state that it leads to. -/
structure Discovers (api : MappingApi) (config : ConfigItems)
    (l : List (DiscoveryEvent × DiscoveryOutput)) (s : DiscoveryState) : Prop where
  process : s.process.config = configOf api config l
  enabled : s.process.config.value .remoteConfigEnabled = config.value .remoteConfigEnabled
  knows : config.value .remoteConfigEnabled = true →
    Knows (discovered api config l) s.extraServicesTracker

variable {config : ConfigItems} {tx : Sender} {self next : DiscoveryState}
  {l : List (DiscoveryEvent × DiscoveryOutput)} {output : DiscoveryOutput}

/-- A resource is set, or the channel makes a step. -/
theorem process_cases {process after : ResourceState} {event : ResourceEvent}
    {output : ChannelOutput Resource}
    (h : ResourceState.machine api tx process event = some (after, output)) :
    (∃ resource, event = .setResource resource ∧
      process.setResource api resource = (after, output)) ∨
      ∃ e channel, event = .channel e ∧ Channel.machine tx process.channel e = some (channel, output) ∧
        after = { process with channel := channel } := by
  cases event with
  | setResource resource => exact .inl ⟨resource, rfl, Option.some.inj h⟩
  | channel event =>
      cases event with
      | setResource resource => cases h
      | _ =>
          simp only [ResourceState.machine, Option.map_eq_some_iff, Prod.mk.injEq] at h
          rcases h with ⟨⟨channel, answer⟩, hstep, rfl, rfl⟩
          exact .inr ⟨_, channel, rfl, hstep, rfl⟩

/-- Only a resource changes the configuration. -/
theorem config_of_machine {process after : ResourceState} {event : ResourceEvent}
    {output : ChannelOutput Resource}
    (h : ResourceState.machine api tx process event = some (after, output)) :
    after.config = configAfter api process.config (.process event) := by
  rcases process_cases h with ⟨resource, rfl, hset⟩ | ⟨e, channel, rfl, -, rfl⟩
  · cases hset
    rfl
  · rfl

/-- Remote configuration stays as it was set. -/
theorem enabled_configAfter (config : ConfigItems) (event : DiscoveryEvent) :
    (configAfter api config event).value .remoteConfigEnabled =
      config.value .remoteConfigEnabled := by
  rcases event with (resource | event) | removed
  · simp only [configAfter, ConfigItems.updateServiceName]
    split <;> rfl
  · rfl
  · rfl

theorem Discovers.step (h : Discovers api config l self) {event : DiscoveryEvent}
    (hstep : machine api tx self event = some (next, output)) :
    Discovers api config (l ++ [(event, output)]) next := by
  have hnext : next.process.config = configAfter api self.process.config event ∧
      (self.process.config.value .remoteConfigEnabled = true →
        Knows (discovered api config l) self.extraServicesTracker →
          Knows (discovered api config l ++ found api self.process.config (event, output))
            next.extraServicesTracker) := by
    cases event with
    | process event =>
        simp only [machine, Option.map_eq_some_iff, Prod.mk.injEq] at hstep
        rcases hstep with ⟨⟨after, answer⟩, hmove, rfl, rfl⟩
        exact ⟨config_of_machine hmove, fun henabled hknows => hknows.spans henabled _⟩
    | getExtraServices removed =>
        simp only [machine, Option.map_eq_some_iff, Prod.mk.injEq] at hstep
        rcases hstep with ⟨⟨after, services⟩, hget, rfl, rfl⟩
        refine ⟨rfl, ?_⟩
        intro henabled hknows
        rw [ConfigItems.getExtraServices, henabled] at hget
        have hfound : found api self.process.config
            (.getExtraServices removed, .services services) = [] := rfl
        rw [hfound, List.append_nil]
        exact hknows.get hget
  refine ⟨?_, ?_, ?_⟩
  · rw [hnext.1, h.process, configOf, configOf, List.foldl_append]
    rfl
  · rw [hnext.1, enabled_configAfter, h.enabled]
  · intro henabled
    rw [discovered_snoc, ← h.process]
    exact hnext.2 (h.enabled.trans henabled) (h.knows henabled)

theorem discovers_of_run {maxNumberOfSpans : Nat}
    (h : Machine.Run (machine api tx) (init config maxNumberOfSpans) l self) :
    Discovers api config l self := by
  refine h.invariant (I := fun l self => Discovers api config l self) ?_ fun _ ih hstep => ih.step hstep
  exact ⟨rfl, rfl, fun _ => ⟨[], .start, rfl⟩⟩

/-! ## What is exported -/

/-- The chunks that the batch takes in a step. -/
def taken : DiscoveryEvent × DiscoveryOutput → List TraceChunk
  | (.process (.channel event), .process output) => Channel.accepted (event, output)
  | _ => []

/-- The chunks that the worker exports in a step. -/
def exported : DiscoveryEvent × DiscoveryOutput → List TraceChunk
  | (_, .process output) => Channel.exportedChunks output
  | _ => []

/-- What happens to the channel is a step of it, which takes the same chunks. -/
theorem channel_of_machine {process after : ResourceState} {event : ResourceEvent}
    {output : ChannelOutput Resource}
    (h : ResourceState.machine api tx process event = some (after, output)) :
    ∃ e, Channel.machine tx process.channel e = some (after.channel, output) ∧
      taken (.process event, .process output) = Channel.accepted (e, output) := by
  rcases process_cases h with ⟨resource, rfl, hset⟩ | ⟨e, channel, rfl, hstep, rfl⟩
  · cases hset
    exact ⟨.setResource (createDdResource api resource process.config.tagging), rfl, rfl⟩
  · exact ⟨e, hstep, rfl⟩

theorem flatten_taken (event : ResourceEvent) (output : ChannelOutput Resource) :
    (taken (.process event, .process output)).flatten = takenSpans event output := by
  rcases event with resource | event
  · rfl
  · cases event with
    | addTraceChunk chunk =>
        cases output with
        | sent result =>
            cases result with
            | ok answer => cases chunk <;> simp [taken, Channel.accepted, takenSpans]
            | error e => rfl
        | _ => rfl
    | _ => rfl

/-- The chunks in the queue, behind those that the worker has. -/
def held (self : DiscoveryState) : List TraceChunk :=
  self.process.channel.workerChunks ++ self.process.channel.state.batch.chunks

theorem held_step {event : DiscoveryEvent}
    (hstep : machine api tx self event = some (next, output)) :
    self.held ++ taken (event, output) = exported (event, output) ++ next.held := by
  cases event with
  | process event =>
      simp only [machine, Option.map_eq_some_iff, Prod.mk.injEq] at hstep
      rcases hstep with ⟨⟨after, answer⟩, hmove, rfl, rfl⟩
      rcases channel_of_machine hmove with ⟨e, hchannel, htaken⟩
      -- first into the batch, then from the batch to the worker
      rw [held, htaken, List.append_assoc, Channel.chunks_step hchannel, ← List.append_assoc,
        Channel.workerChunks_step hchannel, List.append_assoc]
      rfl
  | getExtraServices removed =>
      simp only [machine, Option.map_eq_some_iff, Prod.mk.injEq] at hstep
      rcases hstep with ⟨_, -, rfl, rfl⟩
      exact List.append_nil _

/-- What is exported was taken, in this order. -/
theorem taken_of_run {maxNumberOfSpans : Nat}
    (h : Machine.Run (machine api tx) (init config maxNumberOfSpans) l self) :
    l.flatMap exported <+: l.flatMap taken := by
  have hsequence := h.sequence held taken exported held_step
  exact ⟨self.held, hsequence.symm⟩

/-- The service of a span that was taken was found, if the process never had it. -/
theorem mem_discovered {l : List (DiscoveryEvent × DiscoveryOutput)} {config : ConfigItems}
    {chunk : TraceChunk} (hchunk : chunk ∈ l.flatMap taken) {span : SpanData} (hspan : span ∈ chunk)
    {name : Str} (hname : name ∈ Batch.namedService api span)
    (hother : ∀ before, before <+: l → name ≠ (configOf api config before).service.value.asStr) :
    name ∈ discovered api config l := by
  induction l generalizing config with
  | nil => cases hchunk
  | cons x l ih =>
      rcases List.mem_append.1 hchunk with hfirst | hrest
      · refine List.mem_append_left _ ?_
        -- the service that the process has when the span is taken
        have hmain : name ≠ config.service.value.asStr := hother [] List.nil_prefix
        rcases x with ⟨event | removed, output | services⟩
        · have hmem : span ∈ takenSpans event output := by
            rw [← flatten_taken]
            exact List.mem_flatten.2 ⟨chunk, hfirst, hspan⟩
          exact List.mem_filter.2 ⟨List.mem_filterMap.2 ⟨span, hmem, hname⟩, by simpa using hmain⟩
        · cases event <;> cases hfirst
        all_goals cases hfirst
      · refine List.mem_append_right _ (ih hrest ?_)
        intro before hbefore
        exact hother (x :: before) (List.cons_prefix_cons.2 ⟨rfl, hbefore⟩)

/-- In any order of resources, chunks, the steps of the worker and requests: a request is told at most 64
services, all of them named by spans of chunks that were taken before, other than the service that the
process had then; and all there are, as long as there are no more.  Among these is every service that a
span names that was exported before, unless the process had it itself.  Without remote configuration a
request is told nothing. -/
theorem services_discovered {maxNumberOfSpans : Nat}
    (h : Machine.Run (machine api tx) (init config maxNumberOfSpans) l self)
    {before rest : List (DiscoveryEvent × DiscoveryOutput)} {removed : List Str}
    {services : Finset Str}
    (hl : l = before ++ (.getExtraServices removed, .services services) :: rest) :
    (config.value .remoteConfigEnabled = true →
      services.card ≤ 64 ∧ services ⊆ (discovered api config before).toFinset ∧
        ((discovered api config before).toFinset.card ≤ 64 →
          services = (discovered api config before).toFinset)) ∧
      (∀ chunk ∈ before.flatMap exported, ∀ span ∈ chunk, ∀ name ∈ Batch.namedService api span,
        (∀ past, past <+: before → name ≠ (configOf api config past).service.value.asStr) →
          name ∈ discovered api config before) ∧
      (config.value .remoteConfigEnabled = false → services = ∅) := by
  subst hl
  -- the request was answered in the state that the calls before it lead to
  rw [List.append_cons] at h
  rcases h.split with ⟨after, hfirst, -⟩
  rcases Machine.Run.snoc_iff.1 hfirst with ⟨asked, hbefore, hstep⟩
  have hdiscovers := discovers_of_run hbefore
  simp only [machine, Option.map_eq_some_iff, Prod.mk.injEq, DiscoveryOutput.services.injEq] at hstep
  rcases hstep with ⟨⟨tracker, told⟩, hget, -, rfl⟩
  rw [ConfigItems.getExtraServices, hdiscovers.enabled] at hget
  refine ⟨?_, ?_, ?_⟩
  · intro henabled
    rw [henabled] at hget
    have hnil : [] ∉ discovered api config before := fun hmem => ne_nil_of_mem_discovered hmem rfl
    exact (hdiscovers.knows henabled).services hnil hget
  · -- what was exported was taken, and so it was looked at
    intro chunk hchunk span hspan name hname hother
    have htaken := (taken_of_run hbefore).subset hchunk
    exact mem_discovered htaken hspan hname hother
  · intro hdisabled
    rw [hdisabled, Bool.not_false, if_pos rfl] at hget
    split_ifs at hget
    cases hget
    rfl

/-- A span with the name of a service. -/
def spanOf (service : Str) : SpanData :=
  { SpanData.ofIds 1 1 with
    attributes := [{ key := "service.name".toList, value := .string service }] }

/-- Spans of the process and of another service are exported. -/
def twoNames : List DiscoveryEvent :=
  [.process (.setResource (ResourceState.named "main".toList)),
    .process (.channel (.addTraceChunk [spanOf "main".toList, spanOf "db".toList, .ofIds 1 1])),
    .process (.channel (.receive false)), .process (.channel .handle),
    .process (.channel (.receive false)), .process (.channel .handle)]

/-- A request is told the other one. -/
theorem services_discovered_twoNames :
    ∃ before services self,
      Machine.Run (machine .plain { flushTriggerNumberOfSpans := 1 })
        (init (ConfigItems.configured noJson { sources := [] } []) 10)
        (before ++ [(.getExtraServices [], .services services)]) self ∧
      before.map Prod.fst = twoNames ∧ services = {"db".toList} := by
  have hbefore := Machine.run_of_exec (m := machine .plain { flushTriggerNumberOfSpans := 1 })
    (s := init (ConfigItems.configured noJson { sources := [] } []) 10) twoNames rfl
  have hrun := hbefore.append
    (Machine.Run.single (e := .getExtraServices []) (o := .services _) rfl)
  have htold := (services_discovered hrun rfl).1 (by decide +kernel)
  refine ⟨_, _, _, hrun, rfl, ?_⟩
  exact (htold.2.2 (by decide +kernel)).trans (by decide +kernel)

end DiscoveryState

end Otel
end DdTrace
