import DdTrace.Propagation.TagSeparation

/-!
# SamplingReconciliation — the sampled flag against the tracestate

The W3C headers say twice whether a trace is kept: by the sampled bit of `traceparent` and by the
item `s` of the tracestate.  The bit has the last word.  If the item agrees with it, the priority and
the decision maker of the tracestate count; if not, the decision is that of the default mechanism, or
nobody's.
-/

namespace DdTrace
namespace Propagation
namespace TraceContext

open DdTrace.Lib DdTrace.Core

/-! ## What the headers say -/

/-- The lowest bit of the flags. -/
def sampledBit (traceparent : Str) : Bool :=
  (parseTraceparentComponents (Text.trim traceparent)).any fun components =>
    ((Numeral.parseUnsigned 16 (2 ^ 8) components.flags).getD 0).testBit 0

/-- The value of the last `dd` member. -/
def ddValue (tracestate : Str) : Option Str :=
  let members := (tracestate.splitOn ',').filterMap Tracestate.readMember
  ((members.filter fun m => m.1 = Tracestate.TRACESTATE_DD_KEY).getLast?).map Prod.snd

/-- The value of the last item with a key in the last `dd` member. -/
def ddItem (tracestate key : Str) : Option Str :=
  let items := (ddValue tracestate).elim [] fun value =>
    ((Text.trim value).splitOn ';').filterMap Tracestate.readItem
  ((items.filter fun item => item.1 = key).getLast?).map Prod.snd

/-- The priority in the item `s`, if it parses and agrees with the bit. -/
def agreedPriority (isSampled : Bool) (tracestate : Str) : Option SamplingPriority :=
  ((ddItem tracestate Tracestate.TRACESTATE_SAMPLING_PRIORITY_KEY).bind
    SamplingPriority.fromStr).filter fun p => p.isKeep = isSampled

/-- Who made the decision. -/
def decisionMaker (isSampled : Bool) (tracestate : Str) : Option Str :=
  if (agreedPriority isSampled tracestate).isSome then ddItem tracestate "t.dm".toList
  else if isSampled then some "-0".toList
  else none

/-- The tracestate of a carrier, if it parses. -/
def parsedTracestate (carrier : Carrier) : Option Str :=
  (carrier.get TRACESTATE_KEY).filter fun tracestate =>
    (Tracestate.fromStr tracestate).toOption.isSome

/-- The sampling decision of a context is settled between the bit and the tracestate. -/
structure Reconciles (isSampled : Bool) (tracestate : Option Str) (context : SpanContext) :
    Prop where
  keeps : context.sampling.priority.map SamplingPriority.isKeep = some isSampled
  priority : context.sampling.priority =
    some ((tracestate.bind (agreedPriority isSampled)).getD (.fromI8 (if isSampled then 1 else 0)))
  decisionMaker : ∀ header ∈ tracestate,
    context.tags.lookup SAMPLING_DECISION_MAKER_TAG_KEY = decisionMaker isSampled header
  mechanism : ∀ header ∈ tracestate,
    context.sampling.mechanism =
      (TraceContext.decisionMaker isSampled header).bind SamplingMechanism.fromStr

/-! ## The tracestate -/

theorem mapM_eq_filterMap {α β : Type*} {f : α → Option β} {l : List α} {l' : List β}
    (h : l.mapM f = some l') : l.filterMap f = l' := by
  induction l generalizing l' with
  | nil => simpa using h
  | cons a l ih =>
      simp only [List.mapM_cons, Option.bind_eq_bind, Option.bind_eq_some_iff] at h
      obtain ⟨b, hb, rest, hrest, hcons⟩ := h
      rw [List.filterMap_cons, hb, ih hrest]
      simpa using hcons

/-- A tracestate that parses is read member by member, and its last `dd` member item by item. -/
theorem fromStr_spec {header : Str} {tracestate : Tracestate}
    (h : Tracestate.fromStr header = .ok tracestate) :
    ∃ others, tracestate =
      Tracestate.ofParts ((ddValue header).map Tracestate.readItems) others := by
  obtain ⟨members, hmembers, htracestate⟩ := Tracestate.exists_members_of_fromStr h
  refine ⟨members.filter fun m => m.1 ≠ Tracestate.TRACESTATE_DD_KEY, ?_⟩
  rw [htracestate, ddValue, mapM_eq_filterMap hmembers, Option.map_map]
  rfl

/-- The last item with a key counts. -/
theorem lookup_ddItems (header key : Str) :
    ((ddValue header).map Tracestate.readItems).bind (·.lookup key) = ddItem header key := by
  unfold ddItem
  cases ddValue header with
  | none => rfl
  | some value => exact HashMap.lookup_ofPairs _ key

theorem tracestatePriority {header : Str} {tracestate : Tracestate}
    (h : Tracestate.fromStr header = .ok tracestate) :
    (tracestate.sampling.bind fun sampling => sampling.priority) =
      (ddItem header Tracestate.TRACESTATE_SAMPLING_PRIORITY_KEY).bind SamplingPriority.fromStr := by
  obtain ⟨others, rfl⟩ := fromStr_spec h
  rw [← lookup_ddItems]
  cases (ddValue header).map Tracestate.readItems <;> rfl

/-! ## The decision maker -/

theorem lookup_insertAll_of_mem {tags : Tags} {pairs : List (Str × Str)} {key value : Str}
    (hmem : (key, value) ∈ pairs) (hsame : ∀ pair ∈ pairs, pair.1 = key → pair.2 = value) :
    (insertAll tags pairs).lookup key = some value := by
  induction pairs using List.reverseRecOn with
  | nil => cases hmem
  | append_singleton pairs pair ih =>
      have hsnoc : insertAll tags (pairs ++ [pair]) =
          AList.insert pair.1 pair.2 (insertAll tags pairs) := by
        simp [insertAll]
      rw [hsnoc, HashMap.lookup_insert_eq]
      by_cases hkey : key = pair.1
      · rw [if_pos hkey, hsame pair (by simp) hkey.symm]
      · rw [if_neg hkey]
        refine ih ?_ fun other hother => hsame other (List.mem_append_left _ hother)
        rcases List.mem_append.1 hmem with hmem | hmem
        · exact hmem
        · exact absurd (congrArg Prod.fst (List.mem_singleton.1 hmem)) hkey

/-- A propagation tag of the tracestate, among the tags it is inserted into. -/
theorem lookup_insert_propagationTags (ord : IterOrder Str Str) {tracestate : Tracestate}
    {map : Tags} (h : tracestate.propagationTags = some map) (tags : Tags) (name : Str) :
    (insertAll tags (propagationTags ord tracestate)).lookup
        (DATADOG_PROPAGATION_TAG_PREFIX ++ name) =
      (map.lookup (TRACESTATE_DATADOG_PROPAGATION_TAG_PREFIX ++ name)).or
        (tags.lookup (DATADOG_PROPAGATION_TAG_PREFIX ++ name)) := by
  have hpairs : ∀ pair ∈ propagationTags ord tracestate,
      pair.1 = DATADOG_PROPAGATION_TAG_PREFIX ++ name →
        map.lookup (TRACESTATE_DATADOG_PROPAGATION_TAG_PREFIX ++ name) = some pair.2 := by
    rintro ⟨key, value⟩ hmem hkey
    obtain ⟨name', hname, hlookup⟩ := (mem_propagationTags h).1 hmem
    rwa [List.append_cancel_left (hname.symm.trans hkey)] at hlookup
  cases hlookup : map.lookup (TRACESTATE_DATADOG_PROPAGATION_TAG_PREFIX ++ name) with
  | none =>
      apply lookup_insertAll
      intro pair hmem hkey
      rw [hpairs pair hmem hkey] at hlookup
      cases hlookup
  | some value =>
      refine lookup_insertAll_of_mem ((mem_propagationTags h).2 ⟨name, rfl, hlookup⟩) ?_
      intro pair hmem hkey
      rw [hpairs pair hmem hkey] at hlookup
      exact Option.some.inj hlookup

/-- The decision maker that the tracestate puts among the tags is that of its item. -/
theorem lookup_decisionMaker (ord : IterOrder Str Str) {header : Str} {tracestate : Tracestate}
    (h : Tracestate.fromStr header = .ok tracestate) {tags : Tags}
    (htags : tags.lookup SAMPLING_DECISION_MAKER_TAG_KEY = none) :
    (insertAll tags (propagationTags ord tracestate)).lookup SAMPLING_DECISION_MAKER_TAG_KEY =
      ddItem header "t.dm".toList := by
  obtain ⟨others, rfl⟩ := fromStr_spec h
  have hkey : SAMPLING_DECISION_MAKER_TAG_KEY =
      DATADOG_PROPAGATION_TAG_PREFIX ++ "dm".toList := by decide
  have hname : TRACESTATE_DATADOG_PROPAGATION_TAG_PREFIX ++ "dm".toList = "t.dm".toList := by
    decide
  rw [← lookup_ddItems]
  cases (ddValue header).map Tracestate.readItems with
  | none => exact htags
  | some items =>
      have hlookup := lookup_insert_propagationTags ord
        (show (Tracestate.ofParts (some items) others).propagationTags = some _ from rfl) tags
        "dm".toList
      -- the item is none of those that are taken out
      rw [← hkey, hname, htags, Option.or_none, HashMap.lookup_erase_eq, if_neg (by decide),
        HashMap.lookup_erase_eq, if_neg (by decide), HashMap.lookup_erase_eq,
        if_neg (by decide)] at hlookup
      exact hlookup

/-- The last parent id is under another key. -/
theorem lookup_lastParentId (lpid : Option Str) (tags : Tags) :
    (match lpid with
      | some lpid => AList.insert DATADOG_LAST_PARENT_ID_KEY lpid tags
      | none => tags).lookup SAMPLING_DECISION_MAKER_TAG_KEY =
        tags.lookup SAMPLING_DECISION_MAKER_TAG_KEY := by
  cases lpid with
  | none => rfl
  | some lpid => exact (HashMap.lookup_insert_eq _ _ _ _).trans (if_neg (by decide))

/-- The decision that is settled on. -/
theorem defineSamplingPriority_snd (isSampled : Bool) (ts : Option SamplingPriority) (tags : Tags) :
    (defineSamplingPriority (flagPriority isSampled) ts tags).2.lookup
        SAMPLING_DECISION_MAKER_TAG_KEY =
      if (ts.filter fun p => p.isKeep = isSampled).isSome then
        tags.lookup SAMPLING_DECISION_MAKER_TAG_KEY
      else if isSampled then some "-0".toList
      else none := by
  simp only [defineSamplingPriority, agrees_flagPriority]
  cases ts.filter fun p => p.isKeep = isSampled with
  | some p => rfl
  | none =>
      cases isSampled with
      | true => exact (HashMap.lookup_insert_eq _ _ _ _).trans (if_pos rfl)
      | false => exact (HashMap.lookup_erase_eq _ _ _).trans (if_pos rfl)

/-! ## Extraction -/

theorem flagPriority_eq (isSampled : Bool) :
    flagPriority isSampled = .fromI8 (if isSampled then 1 else 0) := by
  cases isSampled <;> rfl

/-- The lowest bit of a byte. -/
theorem and_one_eq_one_iff (n : Nat) : BitVec.ofNat 8 n &&& 1 = 1 ↔ n.testBit 0 = true := by
  rw [← BitVec.toNat_inj, BitVec.toNat_and, BitVec.toNat_ofNat, Nat.testBit_zero, decide_eq_true_eq]
  show n % 2 ^ 8 &&& 1 = 1 ↔ n % 2 = 1
  rw [Nat.and_one_is_mod, Nat.mod_mod_of_dvd n (by decide)]

theorem extractTraceFlags_spec {flags : Str} {traceFlags : BitVec 8}
    (h : extractTraceFlags flags = .ok traceFlags) :
    traceFlags &&& 1 = 1 ↔
      ((Numeral.parseUnsigned 16 (2 ^ 8) flags).getD 0).testBit 0 = true := by
  unfold extractTraceFlags at h
  split at h
  · cases h
  · cases hparse : Numeral.parseUnsigned 16 (2 ^ 8) flags with
    | none =>
        rw [hparse] at h
        cases h
    | some n =>
        simp only [hparse, Except.ok.injEq] at h
        rw [← h]
        exact and_one_eq_one_iff n

/-- A traceparent that is accepted has its parts from the components of the header. -/
theorem extractTraceparent_eq_ok {header : Str} {traceparent : Traceparent}
    (h : extractTraceparent header = .ok traceparent) :
    ∃ components traceFlags, parseTraceparentComponents header = some components ∧
      extractTraceId components.traceId = .ok traceparent.traceId ∧
      extractSpanId components.spanId = .ok traceparent.spanId ∧
      extractTraceFlags components.flags = .ok traceFlags ∧
      traceparent.samplingPriority =
        if traceFlags &&& 1 = 1 then Priority.autoKeep else Priority.autoReject := by
  unfold extractTraceparent at h
  cases hcomponents : parseTraceparentComponents header with
  | none => simp [hcomponents, bind, Except.bind] at h
  | some components =>
      simp only [hcomponents, bind, Except.bind] at h
      -- each of the four fields has been accepted
      split at h
      · cases h
      · rename_i traceId htraceId
        split at h
        · cases h
        · rename_i spanId hspanId
          split at h
          · cases h
          · rename_i traceFlags hflags
            split at h
            · cases h
            · cases h
              exact ⟨components, traceFlags, rfl, htraceId, hspanId, hflags, rfl⟩

/-- The priority of a traceparent is that of its sampled bit. -/
theorem samplingPriority_of_extractTraceparent {header : Str} {traceparent : Traceparent}
    (h : extractTraceparent (Text.trim header) = .ok traceparent) :
    traceparent.samplingPriority = flagPriority (sampledBit header) := by
  obtain ⟨components, traceFlags, hcomponents, -, -, hflags, hpriority⟩ := extractTraceparent_eq_ok h
  have hbit := extractTraceFlags_spec hflags
  rw [hpriority, sampledBit, hcomponents, Option.any_some]
  cases hsampled : ((Numeral.parseUnsigned 16 (2 ^ 8) components.flags).getD 0).testBit 0 with
  | true => exact if_pos (hbit.2 hsampled)
  | false => exact if_neg fun hone => Bool.noConfusion (hsampled.symm.trans (hbit.1 hone))

/-- Without a tracestate the bit decides alone. -/
theorem reconciles_none {isSampled : Bool} {context : SpanContext}
    (h : context.sampling.priority = some (flagPriority isSampled)) :
    Reconciles isSampled none context :=
  { keeps := by rw [h, Option.map_some, isKeep_flagPriority]
    priority := h.trans (congrArg some (flagPriority_eq isSampled))
    decisionMaker := fun _ hmem => by cases hmem
    mechanism := fun _ hmem => by cases hmem }

/-- With a tracestate, the tags that it starts from have no decision maker but that of its item. -/
theorem reconciles_some {isSampled : Bool} {context : SpanContext} {header : Str}
    {tracestate : Tracestate} {tags : Tags}
    (hparse : Tracestate.fromStr header = .ok tracestate)
    (htags : tags.lookup SAMPLING_DECISION_MAKER_TAG_KEY = ddItem header "t.dm".toList)
    (hpriority : context.sampling.priority =
      some (defineSamplingPriority (flagPriority isSampled)
        (tracestate.sampling.bind fun sampling => sampling.priority) tags).1)
    (hcontext : context.tags =
      (defineSamplingPriority (flagPriority isSampled)
        (tracestate.sampling.bind fun sampling => sampling.priority) tags).2)
    (hmechanism : context.sampling.mechanism =
      (context.tags.lookup SAMPLING_DECISION_MAKER_TAG_KEY).bind SamplingMechanism.fromStr) :
    Reconciles isSampled (some header) context := by
  have hmaker : context.tags.lookup SAMPLING_DECISION_MAKER_TAG_KEY =
      decisionMaker isSampled header := by
    rw [hcontext, defineSamplingPriority_snd, tracestatePriority hparse, htags]
    rfl
  exact
    { keeps := by rw [hpriority, Option.map_some, isKeep_defineSamplingPriority]
      priority := by
        rw [hpriority, defineSamplingPriority_fst, tracestatePriority hparse, flagPriority_eq]
        rfl
      decisionMaker := fun other hmem => by
        rw [← Option.mem_some.1 hmem]
        exact hmaker
      mechanism := fun other hmem => by
        rw [← Option.mem_some.1 hmem, ← hmaker]
        exact hmechanism }

/-- Nothing is extracted without a traceparent that is accepted, whose ids count with or without a
tracestate. -/
theorem exists_traceparent_of_extract {ord : IterOrder Str Str} {carrier : Carrier}
    {context : SpanContext} (h : extract ord carrier = some context) :
    ∃ header traceparent, carrier.get TRACEPARENT_KEY = some header ∧
      extractTraceparent (Text.trim header) = .ok traceparent ∧
      context.traceId = traceparent.traceId ∧ context.spanId = traceparent.spanId := by
  unfold extract at h
  cases hheader : carrier.get TRACEPARENT_KEY with
  | none => simp [hheader] at h
  | some header =>
      cases htraceparent : extractTraceparent (Text.trim header) with
      | error _ => simp [hheader, htraceparent, Except.toOption] at h
      | ok traceparent =>
          refine ⟨header, traceparent, rfl, htraceparent, ?_⟩
          simp only [hheader, htraceparent, Except.toOption, Option.bind_eq_bind,
            Option.bind_some] at h
          split at h
          · cases h
            exact ⟨rfl, rfl⟩
          · cases h
            exact ⟨rfl, rfl⟩

/-- The decision of every context that is extracted is settled between the two headers. -/
theorem extract_reconciles (ord : IterOrder Str Str) {carrier : Carrier} {context : SpanContext}
    (h : extract ord carrier = some context) :
    ∃ traceparent, carrier.get TRACEPARENT_KEY = some traceparent ∧
      Reconciles (sampledBit traceparent) (parsedTracestate carrier) context := by
  obtain ⟨header, traceparent, hheader, htraceparent, -, -⟩ := exists_traceparent_of_extract h
  have hflag := samplingPriority_of_extractTraceparent htraceparent
  refine ⟨header, hheader, ?_⟩
  simp only [extract, hheader, htraceparent, Except.toOption, Option.bind_eq_bind,
    Option.bind_some] at h
  unfold parsedTracestate
  cases hstate : carrier.get TRACESTATE_KEY with
  | none =>
      simp only [hstate, Option.bind_none, Option.some.injEq] at h
      subst h
      exact reconciles_none (congrArg some hflag)
  | some state =>
      cases hparse : Tracestate.fromStr state with
      | error _ =>
          simp only [hstate, hparse, Option.bind_some, Option.bind_none,
            Option.some.injEq] at h
          subst h
          have hnone : (some state).filter
              (fun tracestate => (Tracestate.fromStr tracestate).toOption.isSome) = none := by
            simp [hparse, Except.toOption]
          rw [hnone]
          exact reconciles_none (congrArg some hflag)
      | ok tracestate =>
          simp only [hstate, hparse, Option.bind_some, Option.some.injEq] at h
          subst h
          have hsome : (some state).filter
              (fun tracestate => (Tracestate.fromStr tracestate).toOption.isSome) =
                some state := by
            simp [hparse, Except.toOption]
          rw [hsome]
          refine reconciles_some hparse ?_ (by rw [hflag]) (by rw [hflag]) rfl
          refine (lookup_lastParentId _ _).trans (lookup_decisionMaker ord hparse ?_)
          -- the two headers are not under this key
          simp only [HashMap.lookup_insert_eq, AList.lookup_empty]
          rw [if_neg (by decide), if_neg (by decide)]

/-- A sampled trace with two `dd` members, the second one with two items `s`. -/
def sampledCarrier : Carrier :=
  .ofPairs
    [(TRACEPARENT_KEY, "00-80f198ee56343ba864fe8b2a57d3eff7-00f067aa0ba902b7-01".toList),
      (TRACESTATE_KEY, "dd=s:-1;t.dm:-3,dd=s:1;s:2;t.dm:-4".toList)]

theorem extract_reconciles_sampledCarrier :
    ∃ context, extract (.asStored Str Str) sampledCarrier = some context ∧
      context.sampling.priority = some Priority.userKeep ∧
      context.tags.lookup SAMPLING_DECISION_MAKER_TAG_KEY = some "-4".toList := by
  obtain ⟨context, hcontext⟩ :=
    Option.isSome_iff_exists.1 (show (extract (.asStored Str Str) sampledCarrier).isSome by decide)
  obtain ⟨traceparent, htraceparent, hreconciles⟩ := extract_reconciles _ hcontext
  have hbit : (sampledCarrier.get TRACEPARENT_KEY).map sampledBit = some true := by decide
  rw [htraceparent, Option.map_some, Option.some.injEq] at hbit
  rw [hbit] at hreconciles
  refine ⟨context, hcontext, hreconciles.priority.trans (by decide), ?_⟩
  exact (hreconciles.decisionMaker _ (show _ ∈ parsedTracestate sampledCarrier from rfl)).trans
    (by decide)

end TraceContext
end Propagation
end DdTrace
