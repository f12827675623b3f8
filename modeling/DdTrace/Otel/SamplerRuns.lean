import DdTrace.Lib.Machine
import DdTrace.Otel.DatadogSampler

/-!
# SamplerRuns — the sampler while its configuration changes

Rules, agent rates and resource are replaced while spans are sampled, from other threads.  A call of
`sample_root` reads resource and rules, and later, after whatever happened in between, asks the limiter
or the rates.  The machine of this module interleaves these parts in any order.

`decided_by_latest` says which rules, rates and requests a decision depends on, and no others;
`kept_le_twice` bounds the root spans that rules keep, across all changes of the rules.
-/

namespace DdTrace
namespace Otel

open DdTrace.Lib DdTrace.Core DdTrace.Mappings DdTrace.TraceSampling

/-! ## The machine -/

inductive SamplerEvent
  | onRulesUpdate (ruleConfigs : List SamplingRuleConfig)
  | onAgentResponse (response : Str)
  | setResource (resource : Resource)
  | lookUp (thread : Nat) (request : RootRequest)
  | conclude (thread : Nat) (now : Instant)

/-- What a call decided, and what it had found of the span. -/
structure RootDecision where
  lookup : RootLookup
  result : DdSamplingResult

/-- The sampler, and the calls that have read the rules and are not done yet, by thread. -/
structure SamplerState where
  sampler : RootSampler
  running : HashMap Nat RootLookup

namespace SamplerState

variable (api : SamplerApi)

def start (sampler : RootSampler) : SamplerState := { sampler := sampler, running := ∅ }

/-- A thread begins a call when its last one is done, and concludes the call that it began. -/
def machine : Machine SamplerState SamplerEvent (Option RootDecision) := fun state event =>
  match event with
  | .onRulesUpdate ruleConfigs =>
      some ({ state with sampler := state.sampler.updateRules api ruleConfigs }, none)
  | .onAgentResponse response =>
      some ({ state with sampler := state.sampler.onAgentResponse api response }, none)
  | .setResource resource =>
      some ({ state with sampler := { state.sampler with resource := resource } }, none)
  | .lookUp thread request =>
      match state.running.lookup thread with
      | some _ => none
      | none =>
          let lookup := state.sampler.lookUp api request
          some ({ state with running := AList.insert thread lookup state.running }, none)
  | .conclude thread now =>
      match state.running.lookup thread with
      | none => none
      | some lookup =>
          let (result, sampler) := state.sampler.conclude now lookup
          some
            ({ sampler := sampler, running := AList.erase thread state.running },
              some { lookup := lookup, result := result })

end SamplerState

abbrev SamplerHistory := List (SamplerEvent × Option RootDecision)

/-! ## What a history says -/

section History

variable (api : SamplerApi)

/-- The rules that an event sets. -/
def rulesOf : SamplerEvent × Option RootDecision → Option (List SamplingRule)
  | (.onRulesUpdate ruleConfigs, _) =>
      some (SamplingRule.fromConfigs api.ops api.lower ruleConfigs)
  | _ => none

/-- The rates that an event sets. -/
def ratesOf : SamplerEvent × Option RootDecision → Option (HashMap Str F64)
  | (.onAgentResponse response, _) => (api.parseRates response).bind (·.ratesByService)
  | _ => none

def resourceOf : SamplerEvent × Option RootDecision → Option Resource
  | (.setResource resource, _) => some resource
  | _ => none

/-- The request of the limiter that an event makes, with its answer. -/
def requestOf : SamplerEvent × Option RootDecision → Option (Instant × Bool)
  | (.conclude _ now, some decision) =>
      if decision.lookup.asks then some (now, decision.result.isKeep) else none
  | _ => none

/-- The requests of the limiter, with the answers. -/
def limiterRequests (history : SamplerHistory) : List (Instant × Bool) :=
  history.filterMap requestOf

/-- The samplers of the rates that the agent gave. -/
def servicesOf (rates : HashMap Str F64) : ServicesSampler :=
  ServicesSampler.default.updateRates api.ops rates.toList

/-- The sampler as a history leaves it: what was set last, and the limiter after its requests. -/
def samplerAfter (start : RootSampler) (history : SamplerHistory) : RootSampler :=
  { rules := { inner := (lastSome (rulesOf api) history).getD start.rules.inner }
    serviceSamplers :=
      ((lastSome (ratesOf api) history).map (servicesOf api)).getD start.serviceSamplers
    rateLimiter := start.rateLimiter.serving ((limiterRequests history).map Prod.fst)
    resource := (lastSome resourceOf history).getD start.resource }

/-- The event is one of this thread. -/
def SamplerEvent.isOf (thread : Nat) : SamplerEvent → Prop
  | .lookUp t _ => t = thread
  | .conclude t _ => t = thread
  | _ => False

/-- The call of a thread began with this request, when the history was `before`, and is not done. -/
def Began (thread : Nat) (history before : SamplerHistory) (request : RootRequest) : Prop :=
  ∃ between, history = before ++ (.lookUp thread request, none) :: between ∧
    ∀ x ∈ between, ¬ x.1.isOf thread

/-- A decision is that of the sampler as its history leaves it, about what the sampler found when the
call began. -/
def DecidedByLatest (start : RootSampler) (first : SamplerHistory) :
    SamplerEvent × Option RootDecision → Prop
  | (.conclude thread now, decision) => ∃ before request,
      Began thread first before request ∧
        decision = some
          { lookup := (samplerAfter api start before).lookUp api request
            result := ((samplerAfter api start first).conclude now
              ((samplerAfter api start before).lookUp api request)).1 }
  | _ => True

end History

/-! ## One event -/

variable {api : SamplerApi} {start : RootSampler} {history : SamplerHistory}

theorem limiterRequests_snoc (history : SamplerHistory)
    (x : SamplerEvent × Option RootDecision) :
    limiterRequests (history ++ [x]) = limiterRequests history ++ (requestOf x).toList := by
  cases hx : requestOf x with
  | none => simp [limiterRequests, hx]
  | some request => simp [limiterRequests, hx]

/-- An event that asks the limiter nothing leaves its requests alone. -/
theorem samplerAfter_snoc (x : SamplerEvent × Option RootDecision) (hquiet : requestOf x = none) :
    samplerAfter api start (history ++ [x]) =
      { samplerAfter api start history with
        rules := { inner := (rulesOf api x).getD (samplerAfter api start history).rules.inner }
        serviceSamplers :=
          ((ratesOf api x).map (servicesOf api)).getD
            (samplerAfter api start history).serviceSamplers
        resource := (resourceOf x).getD (samplerAfter api start history).resource } := by
  simp only [samplerAfter, lastSome_snoc, limiterRequests_snoc, hquiet, Option.toList_none,
    List.append_nil]
  cases rulesOf api x <;> cases ratesOf api x <;> cases resourceOf x <;> rfl

/-- A response of the agent counts if it has rates. -/
theorem onAgentResponse_eq (self : RootSampler) (response : Str) (output : Option RootDecision) :
    self.onAgentResponse api response =
      { self with
        serviceSamplers :=
          ((ratesOf api (.onAgentResponse response, output)).map (servicesOf api)).getD
            self.serviceSamplers } := by
  cases hparse : api.parseRates response with
  | none => simp [RootSampler.onAgentResponse, ratesOf, hparse]
  | some newRates =>
      cases hrates : newRates.ratesByService with
      | none => simp [RootSampler.onAgentResponse, ratesOf, hparse, hrates]
      | some rates =>
          simp only [RootSampler.onAgentResponse, ratesOf, hparse, hrates, Option.bind_some,
            Option.map_some, Option.getD_some]
          rfl

theorem samplerAfter_conclude (thread : Nat) (now : Instant) (lookup : RootLookup) :
    samplerAfter api start (history ++
      [(.conclude thread now,
        some
          { lookup := lookup
            result := ((samplerAfter api start history).conclude now lookup).1 })]) =
      ((samplerAfter api start history).conclude now lookup).2 := by
  cases hasks : lookup.asks with
  | false =>
      rw [samplerAfter_snoc _ (by simp [requestOf, hasks]),
        RootSampler.conclude_of_not_asks _ now hasks]
      rfl
  | true =>
      -- the limiter serves one request more, and nothing else changes
      rw [(RootSampler.conclude_of_asks (samplerAfter api start history) now hasks).2]
      simp only [samplerAfter, lastSome_snoc, limiterRequests_snoc]
      simp [rulesOf, ratesOf, resourceOf, requestOf, hasks, RateLimiter.serving_snoc]

theorem Began.snoc {thread : Nat} {before : SamplerHistory} {request : RootRequest}
    (h : Began thread history before request) {x : SamplerEvent × Option RootDecision}
    (hother : ¬ x.1.isOf thread) : Began thread (history ++ [x]) before request := by
  obtain ⟨between, rfl, hbetween⟩ := h
  refine ⟨between ++ [x], by simp, ?_⟩
  intro y hy
  rcases List.mem_append.1 hy with hold | hnew
  · exact hbetween y hold
  · rw [List.mem_singleton.1 hnew]
    exact hother

/-! ## The invariant -/

/-- The sampler is the one that the history leaves, each call that is not done has found what there was
when it began, and each decision was one of these. -/
structure Follows (api : SamplerApi) (start : RootSampler) (history : SamplerHistory)
    (state : SamplerState) : Prop where
  sampler : state.sampler = samplerAfter api start history
  running : ∀ thread lookup, state.running.lookup thread = some lookup →
    ∃ before request, Began thread history before request ∧
      lookup = (samplerAfter api start before).lookUp api request
  decided : AtEach (DecidedByLatest api start) history

theorem follows_start : Follows api start [] (.start start) :=
  { sampler := rfl
    running := fun thread lookup h => by
      simp [SamplerState.start] at h
    decided := atEach_nil }

/-- An event that is no part of a call: only the sampler changes. -/
theorem Follows.configure {state : SamplerState} (h : Follows api start history state)
    {event : SamplerEvent} (hcall : ∀ thread, ¬ event.isOf thread) {sampler : RootSampler}
    (hsampler : sampler = samplerAfter api start (history ++ [(event, none)])) :
    Follows api start (history ++ [(event, none)]) { state with sampler := sampler } := by
  refine
    { sampler := hsampler
      running := fun thread lookup hlookup => ?_
      decided := atEach_snoc.2 ⟨h.decided, ?_⟩ }
  · obtain ⟨before, request, hbegan, hfound⟩ := h.running thread lookup hlookup
    exact ⟨before, request, hbegan.snoc (hcall thread), hfound⟩
  · cases event with
    | conclude thread now => exact absurd rfl (hcall thread)
    | _ => trivial

/-- Each event keeps the invariant. -/
theorem Follows.step {state next : SamplerState} {event : SamplerEvent}
    {output : Option RootDecision} (h : Follows api start history state)
    (hstep : SamplerState.machine api state event = some (next, output)) :
    Follows api start (history ++ [(event, output)]) next := by
  cases event with
  | onRulesUpdate ruleConfigs =>
      cases hstep
      refine h.configure (fun _ => id) ?_
      rw [samplerAfter_snoc _ rfl, ← h.sampler]
      rfl
  | onAgentResponse response =>
      cases hstep
      refine h.configure (fun _ => id) ?_
      rw [samplerAfter_snoc _ rfl, ← h.sampler, onAgentResponse_eq _ _ none]
      rfl
  | setResource resource =>
      cases hstep
      refine h.configure (fun _ => id) ?_
      rw [samplerAfter_snoc _ rfl, ← h.sampler]
      rfl
  | lookUp thread request =>
      simp only [SamplerState.machine] at hstep
      cases hrunning : state.running.lookup thread with
      | some lookup => simp [hrunning] at hstep
      | none =>
          simp only [hrunning, Option.some.injEq, Prod.mk.injEq] at hstep
          obtain ⟨rfl, rfl⟩ := hstep
          refine
            { sampler := ?_
              running := fun t lookup hlookup => ?_
              decided := atEach_snoc.2 ⟨h.decided, trivial⟩ }
          · rw [samplerAfter_snoc _ rfl]
            exact h.sampler
          · rw [HashMap.lookup_insert_eq] at hlookup
            by_cases ht : t = thread
            · -- the call that begins now
              subst ht
              rw [if_pos rfl, Option.some.injEq] at hlookup
              rw [← hlookup, h.sampler]
              exact ⟨history, request, ⟨[], by simp⟩, rfl⟩
            · rw [if_neg ht] at hlookup
              obtain ⟨before, request', hbegan, hfound⟩ := h.running t lookup hlookup
              exact ⟨before, request', hbegan.snoc fun hsame => ht hsame.symm, hfound⟩
  | conclude thread now =>
      simp only [SamplerState.machine] at hstep
      cases hrunning : state.running.lookup thread with
      | none => simp [hrunning] at hstep
      | some lookup =>
          simp only [hrunning, Option.some.injEq, Prod.mk.injEq] at hstep
          obtain ⟨rfl, rfl⟩ := hstep
          obtain ⟨before, request, hbegan, hfound⟩ := h.running thread lookup hrunning
          refine
            { sampler := ?_
              running := fun t lookup' hlookup => ?_
              decided := atEach_snoc.2 ⟨h.decided, before, request, hbegan, ?_⟩ }
          · rw [h.sampler]
            exact (samplerAfter_conclude thread now lookup).symm
          · rw [HashMap.lookup_erase_eq] at hlookup
            by_cases ht : t = thread
            · rw [if_pos ht] at hlookup
              cases hlookup
            · rw [if_neg ht] at hlookup
              obtain ⟨before', request', hbegan', hfound'⟩ := h.running t lookup' hlookup
              exact ⟨before', request', hbegan'.snoc fun hsame => ht hsame.symm, hfound'⟩
          · rw [h.sampler, ← hfound]

theorem follows_of_run {state : SamplerState}
    (h : Machine.Run (SamplerState.machine api) (.start start) history state) :
    Follows api start history state :=
  h.invariant (I := Follows api start) follows_start fun _ hI hstep => hI.step hstep

/-! ## What the limiter is asked -/

/-- The answers in a history are those of the limiter. -/
theorem limiterRequests_eq (h : AtEach (DecidedByLatest api start) history) :
    limiterRequests history =
      start.rateLimiter.served ((limiterRequests history).map Prod.fst) := by
  induction history using List.reverseRecOn with
  | nil => rfl
  | append_singleton history x ih =>
      obtain ⟨hbefore, hlast⟩ := atEach_snoc.1 h
      rw [limiterRequests_snoc]
      cases hx : requestOf x with
      | none => simpa using ih hbefore
      | some request =>
          -- only a decision makes a request
          obtain ⟨⟨now, isKeep⟩, rfl⟩ : ∃ r, r = request := ⟨request, rfl⟩
          have hanswer : isKeep = ((start.rateLimiter.serving
              ((limiterRequests history).map Prod.fst)).isAllowed now).1 := by
            rcases x with ⟨event, decision⟩
            cases event with
            | conclude thread time =>
                obtain ⟨before, began, -, rfl⟩ := hlast
                simp only [requestOf] at hx
                split at hx
                · rename_i hasks
                  cases hx
                  exact (RootSampler.conclude_of_asks _ now hasks).1
                · cases hx
            | _ => cases hx
          rw [Option.toList_some, List.map_append, List.map_singleton, RateLimiter.served_snoc,
            ← ih hbefore, hanswer]

/-- The root spans that a rule kept between two times. -/
def keptByRules (history : SamplerHistory) (s e : Instant) : Nat :=
  history.countP fun
    | (.conclude _ now, some decision) =>
        decision.lookup.matchingRule.isSome && decision.result.isKeep && s ≤ now && now ≤ e
    | _ => false

/-- A span that a rule matches is only kept if the limiter is asked. -/
theorem asks_of_isKeep (self : RootSampler) (now : Instant) {lookup : RootLookup}
    (hrule : lookup.matchingRule.isSome = true) (hkeep : (self.conclude now lookup).1.isKeep = true) :
    lookup.asks = true := by
  cases hasks : lookup.asks with
  | true => rfl
  | false =>
      obtain ⟨rule, hrule⟩ := Option.isSome_iff_exists.1 hrule
      have hsample : rule.rateSampler.sample lookup.traceId = false := by
        simpa [RootLookup.asks, hrule] using hasks
      simp [RootSampler.conclude, hrule, hsample] at hkeep

/-- The spans that rules keep are the requests that the limiter grants. -/
theorem keptByRules_eq (h : AtEach (DecidedByLatest api start) history) (s e : Instant) :
    keptByRules history s e = RateLimiter.granted (limiterRequests history) s e := by
  induction history using List.reverseRecOn with
  | nil => rfl
  | append_singleton history x ih =>
      obtain ⟨hbefore, hlast⟩ := atEach_snoc.1 h
      have hrest := ih hbefore
      unfold keptByRules RateLimiter.granted at hrest ⊢
      rw [limiterRequests_snoc, List.countP_append, List.countP_append, hrest]
      congr 1
      rcases x with ⟨event, decision⟩
      cases event with
      | conclude thread now =>
          obtain ⟨before, began, -, rfl⟩ := hlast
          generalize (samplerAfter api start before).lookUp api began = lookup
          cases hasks : lookup.asks with
          | true =>
              have hrule : lookup.matchingRule.isSome = true := by
                obtain ⟨rule, hrule, -⟩ := (Option.any_eq_true _ _).1 hasks
                rw [hrule]
                rfl
              simp [requestOf, hasks, hrule, List.countP_cons]
          | false =>
              -- nothing is granted, and nothing that a rule matches is kept
              have hdropped : (lookup.matchingRule.isSome &&
                  ((samplerAfter api start history).conclude now lookup).1.isKeep) = false := by
                by_contra hkept
                rw [Bool.not_eq_false, Bool.and_eq_true] at hkept
                rw [asks_of_isKeep _ now hkept.1 hkept.2] at hasks
                cases hasks
              simp [requestOf, hasks, hdropped]
      | _ => rfl

/-! ## Every run -/

section Runs

variable {rules : List SamplingRule} {limit : Int} {resource : Resource} {now : Instant}
  {state : SamplerState}

/-- In whatever order rules, rates and resource are replaced, and calls begin and end: each decision
is that of the rules and the resource that were set last when its call began, of the rates that were set
last before it ended, and of a limiter that has served the requests for the spans that rules kept, in
order, with their answers. -/
theorem decided_by_latest
    (h : Machine.Run (SamplerState.machine api) (.start start) history state) :
    AtEach (DecidedByLatest api start) history ∧
      state.sampler = samplerAfter api start history ∧
      limiterRequests history =
        start.rateLimiter.served ((limiterRequests history).map Prod.fst) :=
  ⟨(follows_of_run h).decided, (follows_of_run h).sampler,
    limiterRequests_eq (follows_of_run h).decided⟩

/-- However often the rules are replaced: between two times rules keep no more root spans than twice the
limit and a continuous refill, if the clock of the limiter does not go back; with a limit of zero they
keep none, and with one below zero the limiter refuses none.  The tokens of the limiter are exact
rationals here, without the rounding of doubles. -/
theorem kept_le_twice
    (h : Machine.Run (SamplerState.machine api) (.start (.new rules limit resource now)) history
      state) :
    (0 < limit → (now :: (limiterRequests history).map Prod.fst).Pairwise (· ≤ ·) →
      ∀ s e : Nat, s ≤ e →
        (keptByRules history s e : ℚ) ≤ 2 * limit + limit * ((e : ℚ) - s) / 1000000000) ∧
    (limit = 0 → ∀ s e, keptByRules history s e = 0) ∧
    (limit < 0 → ∀ request ∈ limiterRequests history, request.2 = true) := by
  have hdecided := (follows_of_run h).decided
  have hrequests := limiterRequests_eq hdecided
  have hnonpos : limit ≤ 0 → ∀ request ∈ limiterRequests history,
      request.2 = decide (limit < 0) := by
    intro hlimit
    rw [hrequests]
    exact @RateLimiter.served_of_nonpos (.new limit none now) hlimit _
  refine ⟨?_, ?_, ?_⟩
  · intro hlimit hsorted s e hs
    rw [keptByRules_eq hdecided, hrequests]
    exact RateLimiter.granted_served_le hlimit (by decide) hsorted hs
  · rintro rfl s e
    rw [keptByRules_eq hdecided]
    apply List.countP_eq_zero.2
    intro request hrequest
    simp [hnonpos (le_refl 0) request hrequest]
  · intro hlimit request hrequest
    rw [hnonpos hlimit.le request hrequest]
    exact decide_eq_true hlimit

end Runs

/-! ## Examples -/

/-- Arithmetic for the rates zero and one, and patterns that match everything. -/
def exampleApi : SamplerApi :=
  { ops :=
      { clamp := fun rate _ _ => rate
        ge := fun rate _ => rate = .one
        mul := fun rate _ => rate
        ofU64 := fun _ => 0x43F0000000000000
        toU64 := fun _ => 0 }
    lower := id
    mapping := .plain
    glob := fun _ _ => true
    parseRates := fun _ => none }

/-- A rule for every span. -/
def ruleOfRate (sampleRate : F64) : SamplingRuleConfig :=
  { sampleRate := sampleRate
    service := none
    name := none
    resource := none
    tags := ∅
    provenance := "customer".toList }

def exampleRequest : RootRequest :=
  { traceId := 1, name := "web".toList, spanKind := .internal, attributes := [] }

/-- The rules change while the first call runs. -/
def changedInBetween : List SamplerEvent :=
  [.lookUp 1 exampleRequest, .onRulesUpdate [ruleOfRate 0], .lookUp 2 exampleRequest,
    .conclude 2 5, .conclude 1 6]

/-- The call that began before the change keeps its span, the other one does not. -/
theorem decided_by_latest_changedInBetween :
    ∃ history state,
      Machine.Run (SamplerState.machine exampleApi)
        (.start (.new (SamplingRule.fromConfigs exampleApi.ops id [ruleOfRate .one]) 1 ∅ 0)) history
        state ∧
      history.map Prod.fst = changedInBetween ∧
      history.filterMap (fun x => x.2.map (·.result.isKeep)) = [false, true] ∧
      limiterRequests history = [(6, true)] ∧
      AtEach (DecidedByLatest exampleApi
        (.new (SamplingRule.fromConfigs exampleApi.ops id [ruleOfRate .one]) 1 ∅ 0)) history := by
  have hrun := Machine.run_of_exec (m := SamplerState.machine exampleApi)
    (s := .start (.new (SamplingRule.fromConfigs exampleApi.ops id [ruleOfRate .one]) 1 ∅ 0))
    changedInBetween rfl
  exact ⟨_, _, hrun, rfl, by decide +kernel, by decide +kernel, (decided_by_latest hrun).1⟩

/-- Two spans at once, under a limit of one. -/
def twoAtOnce : List SamplerEvent :=
  [.lookUp 1 exampleRequest, .conclude 1 5, .lookUp 1 exampleRequest, .conclude 1 5]

theorem kept_le_twice_twoAtOnce :
    ∃ history state,
      Machine.Run (SamplerState.machine exampleApi)
        (.start (.new (SamplingRule.fromConfigs exampleApi.ops id [ruleOfRate .one]) 1 ∅ 0)) history
        state ∧
      history.map Prod.fst = twoAtOnce ∧
      keptByRules history 5 5 = 1 ∧
      (keptByRules history 5 5 : ℚ) ≤ 2 * (1 : Int) + (1 : Int) * (((5 : Nat) : ℚ) - (5 : Nat)) /
        1000000000 := by
  have hrun := Machine.run_of_exec (m := SamplerState.machine exampleApi)
    (s := .start (.new (SamplingRule.fromConfigs exampleApi.ops id [ruleOfRate .one]) 1 ∅ 0))
    twoAtOnce rfl
  exact ⟨_, _, hrun, rfl, by decide +kernel,
    (kept_le_twice hrun).1 (by decide) (by decide +kernel) 5 5 (le_refl 5)⟩

end Otel
end DdTrace
