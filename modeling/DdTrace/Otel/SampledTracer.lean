import DdTrace.Otel.SamplerRuns
import DdTrace.Otel.Tracer

/-!
# SampledTracer — the tracer with its sampler

In the runs of `Tracer` what rules, rates and limiter answer for a span is given with the call.  Here the
sampler answers: a call of `should_sample` reads the rules, concludes, and then tells the registry, and
other threads sample, end spans and replace rules, rates and resource in between.

`refines_tracer` says that every such run is one of `Tracer`, with the same results;
`decision_survives` that no change of the configuration changes a decision that is stored.
-/

namespace DdTrace
namespace Otel

open DdTrace.Lib DdTrace.Core DdTrace.Mappings DdTrace.TraceSampling

namespace Sampler

/-- The second half of `should_sample`: what was decided is stored with the trace, unless something is
stored already. -/
def register (registry : TraceRegistry) (parentContext : Option Context) (traceId : TraceId)
    (result : DdSamplingResult) : SamplingResult × TraceRegistry :=
  let decided : SamplingResult :=
    { decision := result.toOtelDecision
      attributes := result.toDdSamplingTags
      traceState := parentTraceState parentContext }
  match tracePropagationData parentContext result with
  | none => (decided, registry)
  | some propagationData =>
      match registry.registerLocalRootTracePropagationData traceId propagationData with
      | (.new, registry) => (decided, registry)
      | (.existing samplingDecision, registry) =>
          ({ decision :=
              if samplingDecision.priority.all (·.isKeep) then .recordAndSample else .recordOnly
             attributes := []
             traceState := parentTraceState parentContext }, registry)

theorem shouldSample_eq_register {cfg : Config} (henabled : cfg.enabled = true)
    (registry : TraceRegistry) (parentContext : Option Context) (traceId : TraceId)
    (answers : RootAnswers) :
    shouldSample cfg registry parentContext traceId answers =
      register registry parentContext traceId
        (DatadogSampler.sample (isParentSampled parentContext) answers) := by
  unfold shouldSample register
  rw [henabled]
  rfl

end Sampler

/-! ## The machine -/

/-- A call of `should_sample` that is not done. -/
inductive SampleCall
  /-- It has read the rules. -/
  | looking (parentContext : Option Context) (lookup : RootLookup)
  /-- It has a decision; the answers are kept for the history. -/
  | decided (parentContext : Option Context) (traceId : TraceId) (answers : RootAnswers)
      (result : DdSamplingResult)

structure SampledTracer where
  sampler : RootSampler
  calls : HashMap Nat SampleCall
  registry : TraceRegistry

inductive SampledTracerEvent
  | onRulesUpdate (ruleConfigs : List SamplingRuleConfig)
  | onAgentResponse (response : Str)
  | setResource (resource : Resource)
  | shouldSample (thread : Nat) (parentContext : Option Context) (request : RootRequest)
  | conclude (thread : Nat) (now : Instant)
  | register (thread : Nat)
  | tracer (event : TracerEvent)

inductive SampledTracerOutput
  | silent
  /-- A disabled tracer drops every span. -/
  | dropped (result : SamplingResult)
  | sampled (parentContext : Option Context) (traceId : TraceId) (answers : RootAnswers)
      (result : SamplingResult)
  | tracer (output : TracerOutput)

namespace SampledTracer

variable (config : Config) (ord : IterOrder Str Str) (traceApi : TraceStateApi) (api : SamplerApi)

def init (sampler : RootSampler) (registry : TraceRegistry) : SampledTracer :=
  { sampler := sampler, calls := ∅, registry := registry }

/-- The first part of `should_sample`. -/
def begin (self : SampledTracer) (thread : Nat) (parentContext : Option Context)
    (request : RootRequest) : SampledTracer × SampledTracerOutput :=
  if !config.enabled then
    (self, .dropped { decision := .drop, attributes := [], traceState := none })
  else
    match Sampler.isParentSampled parentContext with
    | some isParentSampled =>
        -- the sampler returns the decision of the parent
        ({ self with
            calls := AList.insert thread
              (.decided parentContext request.traceId
                { matchingRule := none, isAllowed := true, effectiveRate := 0, serviceSampler := none }
                { isKeep := isParentSampled, traceRootInfo := none }) self.calls }, .silent)
    | none =>
        ({ self with
            calls := AList.insert thread (.looking parentContext (self.sampler.lookUp api request))
              self.calls }, .silent)

def machine : Machine SampledTracer SampledTracerEvent SampledTracerOutput := fun self event =>
  match event with
  | .onRulesUpdate ruleConfigs =>
      some ({ self with sampler := self.sampler.updateRules api ruleConfigs }, .silent)
  | .onAgentResponse response =>
      some ({ self with sampler := self.sampler.onAgentResponse api response }, .silent)
  | .setResource resource =>
      some ({ self with sampler := { self.sampler with resource := resource } }, .silent)
  | .shouldSample thread parentContext request =>
      match self.calls.lookup thread with
      | some _ => none
      | none => some (self.begin config api thread parentContext request)
  | .conclude thread now =>
      match self.calls.lookup thread with
      | some (.looking parentContext lookup) =>
          let (result, sampler) := self.sampler.conclude now lookup
          let answers :=
            (rootAnswers self.sampler.rateLimiter
              (lookup.rootSpan self.sampler.serviceSamplers now)).1
          some
            ({ self with
                sampler := sampler
                calls := AList.insert thread (.decided parentContext lookup.traceId answers result)
                  self.calls }, .silent)
      | _ => none
  | .register thread =>
      match self.calls.lookup thread with
      | some (.decided parentContext traceId answers decision) =>
          let (result, registry) :=
            Sampler.register self.registry parentContext traceId decision
          some
            ({ self with calls := AList.erase thread self.calls, registry := registry },
              .sampled parentContext traceId answers result)
      | _ => none
  | .tracer (.shouldSample _ _ _) => none
  | .tracer event =>
      (Tracer.machine config ord traceApi self.registry event).map fun (registry, output) =>
        ({ self with registry := registry }, .tracer output)

/-! ## Refinement -/

/-- What an event is for `Tracer`: a call that is told to the registry, or nothing. -/
def tracerPart : SampledTracerEvent × SampledTracerOutput → List (TracerEvent × TracerOutput)
  | (_, .sampled parentContext traceId answers result) =>
      [(.shouldSample parentContext traceId answers, .sampled result)]
  | (.tracer event, .tracer output) => [(event, output)]
  | _ => []

/-- The decision of a call is what the sampler makes of the answers. -/
def Answered : SampleCall → Prop
  | .looking parentContext _ => Sampler.isParentSampled parentContext = none
  | .decided parentContext _ answers result =>
      result = DatadogSampler.sample (Sampler.isParentSampled parentContext) answers

/-- Every call that is not done has its decision from its answers. -/
def AllAnswered (self : SampledTracer) : Prop :=
  ∀ thread call, self.calls.lookup thread = some call → Answered call

variable {config ord traceApi api} {self next last : SampledTracer} {event : SampledTracerEvent}
  {output : SampledTracerOutput} {l : List (SampledTracerEvent × SampledTracerOutput)}

theorem answered_insert (h : self.AllAnswered) {thread : Nat} {call : SampleCall}
    (hcall : Answered call) :
    ∀ t c, (AList.insert thread call self.calls).lookup t = some c → Answered c := by
  intro t c hlookup
  rw [HashMap.lookup_insert_eq] at hlookup
  by_cases ht : t = thread
  · rw [if_pos ht, Option.some.injEq] at hlookup
    rw [← hlookup]
    exact hcall
  · rw [if_neg ht] at hlookup
    exact h t c hlookup

theorem answered_erase (h : self.AllAnswered) (thread : Nat) :
    ∀ t c, (AList.erase thread self.calls).lookup t = some c → Answered c := by
  intro t c hlookup
  rw [HashMap.lookup_erase_eq] at hlookup
  by_cases ht : t = thread
  · rw [if_pos ht] at hlookup
    cases hlookup
  · rw [if_neg ht] at hlookup
    exact h t c hlookup

/-- A call begins without the registry. -/
theorem begin_cases (self : SampledTracer) (thread : Nat) (parentContext : Option Context)
    (request : RootRequest) :
    ((self.begin config api thread parentContext request).1 = self ∧
      ∃ result, (self.begin config api thread parentContext request).2 = .dropped result) ∨
    ((self.begin config api thread parentContext request).2 = .silent ∧
      ∃ call, (self.begin config api thread parentContext request).1 =
        { self with calls := AList.insert thread call self.calls } ∧ Answered call) := by
  unfold begin
  split
  · exact .inl ⟨rfl, _, rfl⟩
  · refine .inr ?_
    cases hsampled : Sampler.isParentSampled parentContext with
    | some isParentSampled =>
        refine ⟨rfl, _, rfl, ?_⟩
        simp only [Answered, hsampled, DatadogSampler.sample]
    | none => exact ⟨rfl, _, rfl, hsampled⟩

/-- Each step is one of `Tracer`, or none. -/
theorem refines_step (henabled : config.enabled = true) (h : self.AllAnswered)
    (hstep : machine config ord traceApi api self event = some (next, output)) :
    Machine.Run (Tracer.machine config ord traceApi) self.registry (tracerPart (event, output))
        next.registry ∧ next.AllAnswered := by
  cases event with
  | onRulesUpdate ruleConfigs =>
      cases hstep
      exact ⟨.start, h⟩
  | onAgentResponse response =>
      cases hstep
      exact ⟨.start, h⟩
  | setResource resource =>
      cases hstep
      exact ⟨.start, h⟩
  | shouldSample thread parentContext request =>
      simp only [machine] at hstep
      split at hstep
      · cases hstep
      · simp only [Option.some.injEq] at hstep
        have hnext := congrArg Prod.fst hstep
        have houtput := congrArg Prod.snd hstep
        rcases begin_cases self thread parentContext request with
          ⟨hsame, result, hdropped⟩ | ⟨hsilent, call, hcalls, hanswered⟩
        · rw [hsame] at hnext
          rw [hdropped] at houtput
          subst hnext houtput
          exact ⟨.start, h⟩
        · rw [hcalls] at hnext
          rw [hsilent] at houtput
          subst hnext houtput
          exact ⟨.start, answered_insert h hanswered⟩
  | conclude thread now =>
      simp only [machine] at hstep
      split at hstep
      · rename_i parentContext lookup hlookup
        simp only [Option.some.injEq, Prod.mk.injEq] at hstep
        obtain ⟨rfl, rfl⟩ := hstep
        refine ⟨.start, answered_insert h ?_⟩
        have hroot : Sampler.isParentSampled parentContext = none := h thread _ hlookup
        -- rules, rates and limiter matter for their answers alone
        simp only [Answered, hroot, DatadogSampler.sample, RootSampler.conclude_eq,
          sampleWithLimiter]
      · cases hstep
  | register thread =>
      simp only [machine] at hstep
      split at hstep
      · rename_i parentContext traceId answers decision hlookup
        simp only [Option.some.injEq, Prod.mk.injEq] at hstep
        obtain ⟨rfl, rfl⟩ := hstep
        have hdecision : decision =
            DatadogSampler.sample (Sampler.isParentSampled parentContext) answers :=
          h thread _ hlookup
        refine ⟨.single ?_, answered_erase h thread⟩
        simp only [Tracer.machine]
        rw [Sampler.shouldSample_eq_register henabled, hdecision]
      · cases hstep
  | tracer event =>
      cases event with
      | shouldSample parent traceId answers => cases hstep
      | _ =>
          simp only [machine, Option.map_eq_some_iff, Prod.mk.injEq] at hstep
          obtain ⟨⟨after, answer⟩, htracer, rfl, rfl⟩ := hstep
          exact ⟨.single htracer, h⟩

/-- Every run of the tracer with its sampler is a run of `Tracer`, event by event with the same results:
for whatever rules, rates and limiter answer, there are calls with these answers. -/
theorem refines_tracer (henabled : config.enabled = true) {sampler : RootSampler}
    {registry : TraceRegistry}
    (h : Machine.Run (machine config ord traceApi api) (init sampler registry) l last) :
    Machine.Run (Tracer.machine config ord traceApi) registry (l.flatMap tracerPart)
      last.registry := by
  obtain ⟨t, hrun, hsame, -⟩ := h.simulation (n := Tracer.machine config ord traceApi)
    (r := registry) (R := fun _ self registry => registry = self.registry ∧ self.AllAnswered)
    tracerPart ⟨rfl, by simp [AllAnswered, init]⟩ (by
      rintro l self after next event output ⟨rfl, hanswered⟩ hstep
      obtain ⟨hsteps, hnext⟩ := refines_step henabled hanswered hstep
      exact ⟨next.registry, hsteps, rfl, hnext⟩)
  rw [← hsame]
  exact hrun

/-! ## A stored decision -/

/-- The machine while the entry of a trace lives. -/
def lifetime (config : Config) (ord : IterOrder Str Str) (traceApi : TraceStateApi)
    (api : SamplerApi) (traceId : TraceId) :
    Machine SampledTracer SampledTracerEvent SampledTracerOutput :=
  Machine.guard (machine config ord traceApi api) fun self _ =>
    self.registry.isRegistered traceId = true

/-- The event agrees with the priority of the trace. -/
def Agrees (config : Config) (traceId : TraceId) (p : SamplingPriority)
    (x : SampledTracerEvent × SampledTracerOutput) : Prop :=
  ∀ y ∈ tracerPart x, Tracer.Agrees config traceId p y

/-- The parent of the event is empty, local or extracted. -/
def HasParentContext (ord : IterOrder Str Str) (traceApi : TraceStateApi)
    (x : SampledTracerEvent × SampledTracerOutput) : Prop :=
  ∀ y ∈ tracerPart x, Tracer.HasParentContext ord traceApi y.1

theorem tracerPart_cases (x : SampledTracerEvent × SampledTracerOutput) :
    tracerPart x = [] ∨ ∃ y, tracerPart x = [y] := by
  unfold tracerPart
  split
  · exact .inr ⟨_, rfl⟩
  · exact .inr ⟨_, rfl⟩
  · exact .inl rfl

variable {traceId : TraceId} {p : SamplingPriority}

/-- A step agrees with what is stored, and keeps it. -/
theorem survives_step (henabled : config.enabled = true) (h : self.AllAnswered)
    (hparent : HasParentContext ord traceApi (event, output))
    (hstep : machine config ord traceApi api self event = some (next, output))
    (hstored : self.registry.storedPriority traceId = some p) :
    Agrees config traceId p (event, output) ∧
      (next.registry.isRegistered traceId = true →
        next.registry.storedPriority traceId = some p) := by
  obtain ⟨hrun, -⟩ := refines_step henabled h hstep
  unfold Agrees
  unfold HasParentContext at hparent
  rcases tracerPart_cases (event, output) with hnone | ⟨y, hone⟩
  · rw [hnone] at hrun
    have hsame : self.registry = next.registry := Machine.Run.start.det hrun
    rw [hnone, ← hsame]
    exact ⟨by simp, fun _ => hstored⟩
  · rw [hone] at hrun hparent
    obtain ⟨e, o⟩ := y
    rw [← List.nil_append [(e, o)]] at hrun
    obtain ⟨before, hstart, hcall⟩ := Machine.Run.snoc_iff.1 hrun
    have hsame : self.registry = before := Machine.Run.start.det hstart
    rw [← hsame] at hcall
    have hkeeps := Tracer.step_of_stored henabled (hparent (e, o) (by simp)) hcall hstored
    rw [hone]
    refine ⟨?_, hkeeps.2⟩
    intro y hy
    rw [List.mem_singleton.1 hy]
    exact hkeeps.1

/-- Once a decision is stored with a trace, and as long as the entry of the trace lives, all calls agree
with it: no change of rules, rates, limits or resource, and no call that began before, is seen in
another decision, in a carrier or in a chunk. -/
theorem decision_survives {sampler : RootSampler} {registry : TraceRegistry}
    {first : List (SampledTracerEvent × SampledTracerOutput)} (henabled : config.enabled = true)
    (hfirst : Machine.Run (machine config ord traceApi api) (init sampler registry) first self)
    (hstored : self.registry.storedPriority traceId = some p)
    (hparents : ∀ x ∈ l, HasParentContext ord traceApi x)
    (hrun : Machine.Run (lifetime config ord traceApi api traceId) self l last) :
    (∀ x ∈ l, Agrees config traceId p x) ∧
      (last.registry.isRegistered traceId = true →
        last.registry.storedPriority traceId = some p) := by
  have hanswered : self.AllAnswered :=
    hfirst.preserves (I := AllAnswered) (fun hI hstep => (refines_step henabled hI hstep).2)
      (by simp [AllAnswered, init])
  revert hparents
  -- by induction on the events after the decision was stored
  have hinv : last.AllAnswered ∧ ((∀ x ∈ l, HasParentContext ord traceApi x) →
      (∀ x ∈ l, Agrees config traceId p x) ∧
        (last.registry.isRegistered traceId = true →
          last.registry.storedPriority traceId = some p)) := by
    refine hrun.invariant (I := fun l last => last.AllAnswered ∧
      ((∀ x ∈ l, HasParentContext ord traceApi x) →
        (∀ x ∈ l, Agrees config traceId p x) ∧
          (last.registry.isRegistered traceId = true →
            last.registry.storedPriority traceId = some p))) ?_ ?_
    · exact ⟨hanswered, fun _ => ⟨by simp, fun _ => hstored⟩⟩
    · intro l last next event output _ ih hnext
      rcases Machine.guard_eq_some.1 hnext with ⟨hlives, hmove⟩
      refine ⟨(refines_step henabled ih.1 hmove).2, ?_⟩
      intro hparents
      rcases ih.2 fun x hx => hparents x (by simp [hx]) with ⟨hagree, hkeeps⟩
      rcases survives_step henabled ih.1 (hparents (event, output) (by simp)) hmove
        (hkeeps hlives) with ⟨hlast, hkeeps'⟩
      refine ⟨?_, hkeeps'⟩
      intro x hx
      rcases List.mem_append.1 hx with hold | hnew
      · exact hagree x hold
      · rw [List.mem_singleton.1 hnew]
        exact hlast
  exact hinv.2

/-- The first span of a trace. -/
def rootCall (thread : Nat) : List SampledTracerEvent :=
  [.shouldSample thread none exampleRequest, .conclude thread 5, .register thread]

/-- The rules change, and then a second local root of the trace is sampled. -/
def keptThenChanged : List SampledTracerEvent :=
  [.onRulesUpdate [ruleOfRate 0], .shouldSample 2 none exampleRequest, .conclude 2 6, .register 2]

theorem refines_tracer_rootCall :
    ∃ traceApi l last,
      Machine.Run (machine defaultConfig (.asStored Str Str) traceApi exampleApi)
        (init (.new [] 1 ∅ 0) (.new defaultConfig fun _ => 0)) l last ∧
      l.map Prod.fst = rootCall 1 ∧
      Machine.Run (Tracer.machine defaultConfig (.asStored Str Str) traceApi)
        (.new defaultConfig fun _ => 0) (l.flatMap tracerPart) last.registry := by
  let traceApi : TraceStateApi := { fromKeyValue := fun _ => none, fromStr := fun _ => none }
  have hrun := Machine.run_of_exec
    (m := machine defaultConfig (.asStored Str Str) traceApi exampleApi)
    (s := init (.new [] 1 ∅ 0) (.new defaultConfig fun _ => 0)) (rootCall 1) rfl
  exact ⟨traceApi, _, _, hrun, rfl, refines_tracer rfl hrun⟩

/-- The new rules would drop the second one. -/
theorem decision_survives_keptThenChanged :
    ∃ traceApi first l self last,
      Machine.Run (machine defaultConfig (.asStored Str Str) traceApi exampleApi)
        (init (.new [] 1 ∅ 0) (.new defaultConfig fun _ => 0)) first self ∧
      first.map Prod.fst = rootCall 1 ∧ l.map Prod.fst = keptThenChanged ∧
      Machine.Run (lifetime defaultConfig (.asStored Str Str) traceApi exampleApi 1) self l last ∧
      ∀ x ∈ l, Agrees defaultConfig 1 Priority.autoKeep x := by
  let traceApi : TraceStateApi := { fromKeyValue := fun _ => none, fromStr := fun _ => none }
  obtain ⟨self, first, hfirst, hcall, hstored, last, l, hrun, hchanged, hparents⟩ :
      ∃ self first,
        Machine.exec (machine defaultConfig (.asStored Str Str) traceApi exampleApi)
          (init (.new [] 1 ∅ 0) (.new defaultConfig fun _ => 0)) (rootCall 1) = some (self, first) ∧
        first.map Prod.fst = rootCall 1 ∧
        self.registry.storedPriority 1 = some Priority.autoKeep ∧
        ∃ last l,
          Machine.exec (lifetime defaultConfig (.asStored Str Str) traceApi exampleApi 1) self
            keptThenChanged = some (last, l) ∧
          l.map Prod.fst = keptThenChanged ∧
          ∀ x ∈ l, HasParentContext (.asStored Str Str) traceApi x := by
    refine ⟨_, _, rfl, rfl, rfl, _, _, rfl, rfl, ?_⟩
    intro x hx y hy cx hcx
    simp only [List.mem_cons, List.not_mem_nil, or_false] at hx
    rcases hx with rfl | rfl | rfl | rfl
    · cases hy
    · cases hy
    · cases hy
    · rw [List.mem_singleton.1 hy] at hcx
      cases hcx
  have hfirst' := Machine.run_of_exec _ hfirst
  have hrun' := Machine.run_of_exec _ hrun
  exact ⟨traceApi, first, l, self, last, hfirst', hcall, hchanged, hrun',
    (decision_survives rfl hfirst' hstored hparents hrun').1⟩

end SampledTracer

end Otel
end DdTrace
