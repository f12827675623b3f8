import DdTrace.Otel.ConfigBuilder
import DdTrace.Otel.ResourceChange
import DdTrace.Otel.RulesSeeExported

/-!
# ServiceName — the service that a process has

The processor completes each resource it is given with the configuration, sends the result to the worker,
shares it with the sampler, and makes its service the configured one.  From then on the service is no
default any more, and replaces that of every later resource: `service_sticks` says that the first resource
decides, whatever the worker does in between.
-/

namespace DdTrace
namespace Otel

open DdTrace.Lib DdTrace.Core DdTrace.Mappings

/-! ## Configuration -/

namespace ConfigItems

/-- The settings that describe every span. -/
def tagging (self : ConfigItems) : TaggingConfig :=
  { service := self.service.value
    env := self.value .env
    version := self.value .version
    globalTags := self.value .globalTags }

def updateServiceName (self : ConfigItems) (serviceName : Option Str) : ConfigItems :=
  match serviceName with
  | some serviceName =>
      { self with service := self.service.setOverrideValue (.configured serviceName) .code }
  | none => self

/-- Only the service changes. -/
theorem tagging_updateServiceName (self : ConfigItems) (serviceName : Option Str) :
    (self.updateServiceName serviceName).tagging =
      { self.tagging with service := (self.updateServiceName serviceName).service.value } := by
  cases serviceName <;> rfl

/-- The service may be overridden by the code. -/
theorem overrideOrigin_configured (api : ConfigApi) (sources : CompositeSource)
    (calls : List BuilderCall) :
    (configured api sources calls).service.overrideOrigin = .code := by
  have hset (item : ConfigItemWithOverride ServiceName) (value : ServiceName)
      (origin : ConfigSourceOrigin) :
      (item.setValueSource value origin).overrideOrigin = item.overrideOrigin := by
    unfold ConfigItemWithOverride.setValueSource
    split_ifs
    · exact item.overrideOrigin_setOverrideValue value origin
    · rfl
  have hsources : (fromSources api sources).service.overrideOrigin = .code := by
    simp only [fromSources, applyResult]
    split
    · exact hset _ _ _
    · rfl
  have hcall (self : ConfigItems) (c : BuilderCall) :
      (self.call c).service.overrideOrigin = self.service.overrideOrigin := by
    cases c with
    | setService service => exact hset _ _ _
    | _ => rfl
  have hbuild (self : ConfigItems) : self.build.service = self.service := by
    unfold build resolveDogstatsdAgentUrl resolveTraceAgentUrl
    split_ifs <;> rfl
  rw [configured, hbuild]
  induction calls using List.reverseRecOn with
  | nil => exact hsources
  | append_singleton calls c ih =>
      rw [List.foldl_append, List.foldl_cons, List.foldl_nil, hcall, ih]

end ConfigItems

/-! ## The processor's part -/

/-- What `set_resource` of the processor changes. -/
structure ResourceState where
  config : ConfigItems
  /-- Shared with the sampler. -/
  resource : Resource
  channel : Channel Resource

inductive ResourceEvent
  | setResource (resource : Resource)
  /-- What the other senders and the worker do. -/
  | channel (event : ChannelEvent Resource)

namespace ResourceState

variable (api : MappingApi)

/-- Sampler and worker start with an empty resource. -/
def init (config : ConfigItems) (maxNumberOfSpans : Nat) : ResourceState :=
  { config := config
    resource := ∅
    channel := .init maxNumberOfSpans ∅ }

/-- The service of a resource, as a text. -/
def serviceOf (resource : Resource) : Option Str :=
  (resource.lookup SERVICE_NAME.key).map api.valueAsStr

/-- That the worker is gone is only logged. -/
def setResource (self : ResourceState) (resource : Resource) :
    ResourceState × ChannelOutput Resource :=
  let ddResource := createDdResource api resource self.config.tagging
  let (channel, output) := self.channel.send (Sender.setResource ddResource self.channel.state)
  ({ config := self.config.updateServiceName (serviceOf api ddResource)
     resource := ddResource
     channel := channel }, output)

def machine (tx : Sender) : Machine ResourceState ResourceEvent (ChannelOutput Resource) :=
  fun self event =>
    match event with
    | .setResource resource => some (self.setResource api resource)
    | .channel (.setResource _) => none
    | .channel event =>
        (Channel.machine tx self.channel event).map fun (channel, output) =>
          ({ self with channel := channel }, output)

end ResourceState

/-! ## The resources that a channel holds -/

namespace Channel

variable {R : Type*} {tx : Sender} {s u : Channel R} {e : ChannelEvent R} {o : ChannelOutput R}

/-- Every resource of a channel: in the slot, in a message, and with the worker. -/
structure AllResources (P : R → Prop) (s : Channel R) : Prop where
  slot : ∀ resource ∈ s.state.setResource, P resource
  message : ∀ resource data, s.worker = .received (.setResource resource) data → P resource
  worker : P s.otelResource

/-- The exports of a step are mapped with the resource of the worker. -/
def ExportsWith (P : R → Prop) : ChannelOutput R → Prop
  | .exported resource _ => P resource
  | _ => True

variable {P : R → Prop}

theorem AllResources.mono {Q : R → Prop} (h : AllResources P s) (hPQ : ∀ resource, P resource → Q resource) :
    AllResources Q s :=
  { slot := fun resource hmem => hPQ _ (h.slot resource hmem)
    message := fun resource data hworker => hPQ _ (h.message resource data hworker)
    worker := hPQ _ h.worker }

/-- What a pass hands over or leaves in the slot was in the slot before. -/
theorem slot_pass (deadlinePassed : Bool) (state : SharedState R) :
    (∀ resource ∈ (Receiver.pass deadlinePassed state).2.setResource, resource ∈ state.setResource) ∧
      ∀ resource data, (Receiver.pass deadlinePassed state).1 = some (.setResource resource, data) →
        resource ∈ state.setResource := by
  unfold Receiver.pass
  cases hslot : state.setResource with
  | some set =>
      refine ⟨fun resource hmem => (nomatch hmem), fun resource data hpass => ?_⟩
      cases hpass
      rfl
  | none =>
      simp only
      split_ifs
      all_goals
        refine ⟨fun resource hmem => ?_, fun resource data hpass => (nomatch hpass)⟩
        first | exact hmem | (rw [← hslot]; exact hmem)

theorem slot_flushOnTimeout (state : SharedState R) :
    (∀ resource ∈ (Receiver.flushOnTimeout state).2.setResource, resource ∈ state.setResource) ∧
      ∀ resource data, (Receiver.flushOnTimeout state).1 ≠ (.setResource resource, data) :=
  ⟨fun _ hmem => hmem, fun _ _ heq => nomatch heq⟩

/-- A critical section of a sender that sets no resource. -/
theorem AllResources.send (h : AllResources P s) (cs : Except SenderError Unit × SharedState R)
    (hslot : ∀ resource ∈ cs.2.setResource, P resource) : AllResources P (s.send cs).1 :=
  { slot := hslot, message := h.message, worker := h.worker }

theorem AllResources.recv (h : AllResources P s) (cs : Option (Received R) × SharedState R)
    (hslot : ∀ resource ∈ cs.2.setResource, resource ∈ s.state.setResource)
    (hmessage : ∀ resource data, cs.1 = some (.setResource resource, data) →
      resource ∈ s.state.setResource) : AllResources P (s.recv cs).1 := by
  obtain ⟨received, state⟩ := cs
  refine { slot := fun resource hmem => h.slot resource (hslot resource hmem),
           message := fun resource data hworker => ?_, worker := h.worker }
  cases received with
  | none => cases hworker
  | some received =>
      obtain ⟨message, data'⟩ := received
      cases hworker
      exact h.slot resource (hmessage resource data rfl)

/-- A step brings no resource into the channel but the one it sets, and exports with one that is
there. -/
theorem AllResources.step (h : AllResources P s)
    (hevent : ∀ resource, e = .setResource resource → P resource)
    (hstep : machine tx s e = some (u, o)) : AllResources P u ∧ ExportsWith P o := by
  cases steps_of_machine hstep with
  | addTraceChunk chunk =>
      refine ⟨h.send _ ?_, trivial⟩
      rw [setResource_addTraceChunk]
      exact h.slot
  | setResource resource =>
      refine ⟨h.send _ ?_, trivial⟩
      unfold Sender.setResource Sender.getRunningState
      split
      · exact h.slot
      · intro set hmem
        cases hmem
        exact hevent resource rfl
  | triggerFlush =>
      refine ⟨h.send _ ?_, trivial⟩
      rw [Sender.triggerFlush, setResource_getRunningState _ rfl]
      exact h.slot
  | triggerShutdown =>
      refine ⟨h.send _ ?_, trivial⟩
      rw [Sender.triggerShutdown, setResource_getRunningState _ rfl]
      exact h.slot
  | getMetrics => exact ⟨{ slot := h.slot, message := h.message, worker := h.worker }, trivial⟩
  | receive deadlinePassed hworker =>
      obtain ⟨hslot, hmessage⟩ := slot_pass deadlinePassed s.state
      exact ⟨h.recv _ hslot hmessage, trivial⟩
  | wake timedOut deadlinePassed hworker =>
      cases timedOut with
      | true =>
          obtain ⟨hslot, hmessage⟩ := slot_flushOnTimeout s.state
          exact ⟨h.recv _ hslot fun resource data heq =>
            absurd (Option.some.inj heq) (hmessage resource data), trivial⟩
      | false =>
          obtain ⟨hslot, hmessage⟩ := slot_pass deadlinePassed s.state
          exact ⟨h.recv _ hslot hmessage, trivial⟩
  | handle message data hworker =>
      refine ⟨{ slot := h.slot, message := ?_, worker := ?_ }, ?_⟩
      · intro resource data' heq
        cases message with
        | shutdown => cases heq
        | _ => cases heq
      · cases message with
        | setResource resource => exact h.message resource data hworker
        | _ => exact h.worker
      · unfold Channel.handle
        split_ifs
        · trivial
        · exact h.worker
  | drop hworker =>
      exact ⟨{ slot := h.slot, message := fun _ _ heq => (nomatch heq), worker := h.worker }, trivial⟩

end Channel

/-! ## The first resource decides -/

namespace ResourceState

variable (api : MappingApi) (config : ConfigItems)

/-- The resource of the first call of a history. -/
def firstBase (l : List (ResourceEvent × ChannelOutput Resource)) : Option Resource :=
  (l.filterMap fun x =>
    match x.1 with
    | .setResource base => some base
    | .channel _ => none).head?

/-- The service that the first call of a history gives to the process. -/
def decidedName (l : List (ResourceEvent × ChannelOutput Resource)) : Option Str :=
  (firstBase l).map fun base => api.valueAsStr (resourceService api base config.tagging)

/-- A resource that the worker maps with: the empty one of the start, or one of the decided service. -/
def Exportable (l : List (ResourceEvent × ChannelOutput Resource)) (resource : Resource) : Prop :=
  resource = ∅ ∨ ∃ name ∈ decidedName api config l, serviceOf api resource = some name

/-- What a history says about the state that it leads to. -/
structure Decides (l : List (ResourceEvent × ChannelOutput Resource)) (s : ResourceState) : Prop where
  origin : s.config.service.overrideOrigin = .code
  tagging : s.config.tagging =
    { config.tagging with
      service := ((decidedName api config l).map ServiceName.configured).getD config.tagging.service }
  source : ∀ name ∈ decidedName api config l, s.config.service.source = .code
  resource : ∀ name ∈ decidedName api config l, serviceOf api s.resource = some name
  channel : s.channel.AllResources (Exportable api config l)
  exports : ∀ x ∈ l, Channel.ExportsWith (Exportable api config l) x.2

variable {api} {config} {l : List (ResourceEvent × ChannelOutput Resource)} {s u : ResourceState}
variable {output : ChannelOutput Resource}

theorem firstBase_snoc_setResource (base : Resource) :
    firstBase (l ++ [(.setResource base, output)]) = some ((firstBase l).getD base) := by
  unfold firstBase
  rw [List.filterMap_append]
  cases l.filterMap _ with
  | nil => rfl
  | cons first rest => rfl

theorem firstBase_snoc_channel (event : ChannelEvent Resource) :
    firstBase (l ++ [(.channel event, output)]) = firstBase l := by
  unfold firstBase
  rw [List.filterMap_append]
  simp

theorem serviceOf_createDdResource (base : Resource) (cfg : TaggingConfig) :
    serviceOf api (createDdResource api base cfg) =
      some (api.valueAsStr (resourceService api base cfg)) := by
  rw [serviceOf, lookup_service_eq]
  rfl

/-- A configured service replaces that of every resource. -/
theorem resourceService_of_configured {cfg : TaggingConfig} {name : Str}
    (h : cfg.service = .configured name) (base : Resource) :
    resourceService api base cfg = .string name := by
  have hnone : (base.lookup SERVICE_NAME.key).filter (fun value =>
      api.valueAsStr value ≠ UNKNOWN_SERVICE ∧ (ServiceName.configured name).isDefault) = none := by
    refine Option.filter_eq_none_iff.2 fun value _ => ?_
    simp [ServiceName.isDefault]
  rw [resourceService, h, hnone]
  rfl

/-- A call decides the service, or finds it decided. -/
theorem decidedName_snoc (hstr : ∀ text, api.valueAsStr (.string text) = text)
    (h : Decides api config l s) (base : Resource) :
    decidedName api config (l ++ [(.setResource base, output)]) =
      some (api.valueAsStr (resourceService api base s.config.tagging)) := by
  rw [decidedName, firstBase_snoc_setResource, h.tagging]
  cases hfirst : firstBase l with
  | none => simp [decidedName, hfirst]
  | some first =>
      have hname : decidedName api config l =
          some (api.valueAsStr (resourceService api first config.tagging)) := by
        rw [decidedName, hfirst]
        rfl
      have hservice := @resourceService_of_configured api
        { config.tagging with
          service := ((decidedName api config l).map ServiceName.configured).getD
            config.tagging.service } _ (by rw [hname]; rfl) base
      rw [hservice, hstr]
      rfl

theorem exportable_snoc_channel (event : ChannelEvent Resource) :
    Exportable api config (l ++ [(.channel event, output)]) = Exportable api config l := by
  unfold Exportable decidedName
  rw [firstBase_snoc_channel]

/-- What could be exported before can be exported after a call. -/
theorem Exportable.snoc {resource : Resource} (h : Exportable api config l resource)
    (x : ResourceEvent × ChannelOutput Resource) : Exportable api config (l ++ [x]) resource := by
  rcases h with hempty | ⟨name, hname, hservice⟩
  · exact .inl hempty
  · refine .inr ⟨name, ?_, hservice⟩
    obtain ⟨first, hfirst, hread⟩ := Option.map_eq_some_iff.1 hname
    obtain ⟨event, output⟩ := x
    cases event with
    | channel event =>
        unfold decidedName
        rw [firstBase_snoc_channel]
        exact hname
    | setResource base =>
        rw [decidedName, firstBase_snoc_setResource, hfirst]
        exact congrArg some hread

theorem Exportable.exportsWith {o : ChannelOutput Resource}
    (h : Channel.ExportsWith (Exportable api config l) o)
    (x : ResourceEvent × ChannelOutput Resource) :
    Channel.ExportsWith (Exportable api config (l ++ [x])) o := by
  cases o with
  | exported resource chunks => exact Exportable.snoc h x
  | _ => trivial

theorem Decides.setResource (hstr : ∀ text, api.valueAsStr (.string text) = text)
    (h : Decides api config l s) (base : Resource) :
    Decides api config (l ++ [(.setResource base, (s.setResource api base).2)])
      (s.setResource api base).1 := by
  generalize hx : (ResourceEvent.setResource base, (s.setResource api base).2) = x
  have hname : decidedName api config (l ++ [x]) =
      some (api.valueAsStr (resourceService api base s.config.tagging)) := by
    rw [← hx]
    exact decidedName_snoc hstr h base
  have hservice := @serviceOf_createDdResource api base s.config.tagging
  have hoverride : (s.setResource api base).1.config.service =
      { s.config.service with
        overrideValue := some (.configured
          (api.valueAsStr (resourceService api base s.config.tagging))) } := by
    simp only [ResourceState.setResource, ConfigItems.updateServiceName, hservice,
      ConfigItemWithOverride.setOverrideValue, h.origin, if_true]
  have hsend : (Channel.machine { flushTriggerNumberOfSpans := 0 } s.channel
      (.setResource (createDdResource api base s.config.tagging))) =
      some ((s.setResource api base).1.channel, (s.setResource api base).2) := rfl
  obtain ⟨hchannel, hexports⟩ := (h.channel.mono fun resource hresource =>
    Exportable.snoc hresource x).step (by
      rintro resource ⟨⟩
      exact .inr ⟨_, hname, hservice⟩) hsend
  refine
    { origin := ?_, tagging := ?_, source := ?_, resource := ?_, channel := hchannel,
      exports := ?_ }
  · rw [hoverride]
    exact h.origin
  · have hrest : (s.setResource api base).1.config.tagging =
        { s.config.tagging with service := (s.setResource api base).1.config.service.value } :=
      ConfigItems.tagging_updateServiceName s.config _
    rw [hrest, hoverride, hname, h.tagging]
    rfl
  · intro name _
    rw [hoverride]
    exact h.origin
  · intro name hmem
    rw [hname] at hmem
    cases hmem
    exact hservice
  · intro y hy
    rcases List.mem_append.1 hy with hy | hy
    · exact Exportable.exportsWith (h.exports y hy) x
    · rw [List.mem_singleton.1 hy, ← hx]
      rw [← hx] at hexports
      exact hexports

theorem Decides.channelStep {tx : Sender} {event : ChannelEvent Resource} {channel : Channel Resource}
    (h : Decides api config l s) (hevent : ∀ resource, event ≠ .setResource resource)
    (hstep : Channel.machine tx s.channel event = some (channel, output)) :
    Decides api config (l ++ [(.channel event, output)]) { s with channel := channel } := by
  obtain ⟨hchannel, hexports⟩ := h.channel.step
    (fun resource heq => absurd heq (hevent resource)) hstep
  have hname : decidedName api config (l ++ [(.channel event, output)]) =
      decidedName api config l := by
    unfold decidedName
    rw [firstBase_snoc_channel]
  refine
    { origin := h.origin, tagging := ?_, source := ?_, resource := ?_, channel := ?_, exports := ?_ }
  · rw [hname]
    exact h.tagging
  · rw [hname]
    exact h.source
  · rw [hname]
    exact h.resource
  · rw [exportable_snoc_channel]
    exact hchannel
  · rw [exportable_snoc_channel]
    intro y hy
    rcases List.mem_append.1 hy with hy | hy
    · exact h.exports y hy
    · rw [List.mem_singleton.1 hy]
      exact hexports

theorem Decides.step {tx : Sender} {event : ResourceEvent}
    (hstr : ∀ text, api.valueAsStr (.string text) = text) (h : Decides api config l s)
    (hstep : machine api tx s event = some (u, output)) :
    Decides api config (l ++ [(event, output)]) u := by
  cases event with
  | setResource base =>
      cases hstep
      exact h.setResource hstr base
  | channel event =>
      cases event with
      | setResource resource => cases hstep
      | _ =>
          simp only [machine, Option.map_eq_some_iff, Prod.mk.injEq] at hstep
          obtain ⟨⟨channel, output'⟩, hchannel, rfl, rfl⟩ := hstep
          exact h.channelStep (fun resource heq => nomatch heq) hchannel

theorem decides_init (horigin : config.service.overrideOrigin = .code) (maxNumberOfSpans : Nat) :
    Decides api config [] (init config maxNumberOfSpans) :=
  { origin := horigin
    tagging := rfl
    source := fun _ hname => nomatch hname
    resource := fun _ hname => nomatch hname
    channel :=
      { slot := fun _ hmem => nomatch hmem
        message := fun _ _ hworker => nomatch hworker
        worker := .inl rfl }
    exports := fun _ hmem => nomatch hmem }

/-- Whatever resources the application sets and whatever the worker does in between, the first resource
decides the service of the process: it is the configured service from then on, the sampler sees no other,
and every batch that is exported is mapped with it, or with the empty resource of the start. -/
theorem service_sticks {capi : ConfigApi} {sources : CompositeSource} {calls : List BuilderCall}
    {tx : Sender} {maxNumberOfSpans : Nat} {base : Resource}
    (hstr : ∀ text, api.valueAsStr (.string text) = text)
    (h : Machine.Run (machine api tx)
      (init (ConfigItems.configured capi sources calls) maxNumberOfSpans) l s)
    (hfirst : firstBase l = some base) :
    ∃ name, name = api.valueAsStr (resourceService api base
        (ConfigItems.configured capi sources calls).tagging) ∧
      s.config.service.value = .configured name ∧ s.config.service.source = .code ∧
      serviceOf api s.resource = some name ∧
      ∀ x ∈ l, ∀ resource chunks, x.2 = .exported resource chunks →
        resource = ∅ ∨ serviceOf api resource = some name := by
  have hdecides := h.invariant
    (I := fun l s => Decides api (ConfigItems.configured capi sources calls) l s)
    (decides_init (ConfigItems.overrideOrigin_configured capi sources calls) maxNumberOfSpans)
    (fun _ hI hstep => hI.step hstr hstep)
  have hname : decidedName api (ConfigItems.configured capi sources calls) l =
      some (api.valueAsStr (resourceService api base
        (ConfigItems.configured capi sources calls).tagging)) := by
    rw [decidedName, hfirst]
    rfl
  refine ⟨_, rfl, ?_, hdecides.source _ hname, hdecides.resource _ hname, ?_⟩
  · have hservice := congrArg TaggingConfig.service hdecides.tagging
    rw [hname] at hservice
    exact hservice
  · intro x hx resource chunks hexported
    have hwith := hdecides.exports x hx
    rw [hexported] at hwith
    rcases hwith with hempty | ⟨name, hmem, hservice⟩
    · exact .inl hempty
    · rw [hname] at hmem
      cases hmem
      exact .inr hservice

/-- A resource with a service. -/
def named (service : Str) : Resource := AList.insert SERVICE_NAME.key (.string service) ∅

/-- A second service comes too late. -/
def twoServices : List ResourceEvent :=
  [.setResource (named "first".toList), .channel (.receive false), .channel .handle,
    .setResource (named "second".toList), .channel (.receive false), .channel .handle,
    .channel (.addTraceChunk [.ofIds 1 1]), .channel .triggerFlush, .channel (.receive false),
    .channel .handle]

theorem service_sticks_twoServices :
    ∃ l s, Machine.Run (machine .plain { flushTriggerNumberOfSpans := 1 })
        (init (ConfigItems.configured noJson { sources := [] } []) 10) l s ∧
      l.map Prod.fst = twoServices ∧
      serviceOf .plain s.resource = some "first".toList ∧
      s.config.service.value = .configured "first".toList := by
  have hrun := Machine.run_of_exec (m := machine .plain { flushTriggerNumberOfSpans := 1 })
    (s := init (ConfigItems.configured noJson { sources := [] } []) 10) twoServices rfl
  obtain ⟨name, hname, hservice, -, hresource, -⟩ :=
    service_sticks (fun _ => rfl) hrun (rfl : _ = some (named "first".toList))
  have hfirst : name = "first".toList := hname.trans (by decide +kernel)
  subst hfirst
  exact ⟨_, _, hrun, rfl, hresource, hservice⟩

end ResourceState

end Otel
end DdTrace
