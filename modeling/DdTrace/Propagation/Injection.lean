import DdTrace.Propagation.Datadog

/-!
# Injection — what the styles set in a carrier

Each style sets its own headers and leaves those of the other alone.  A header of the Datadog style is
read back right after the injection, whatever the tags are; so is each of the two W3C headers.
-/

namespace DdTrace
namespace Propagation

open DdTrace.Lib DdTrace.Core

namespace Carrier

/-- Sets the header if there is a value for it. -/
def setSome (self : Carrier) (key : Str) : Option Str → Carrier
  | some value => self.set key value
  | none => self

theorem get_setSome_ne {key key' : Str} (h : toLowercase key' ≠ toLowercase key) (self : Carrier)
    (value : Option Str) : (self.setSome key value).get key' = self.get key' := by
  cases value with
  | none => rfl
  | some value => exact get_set_ne h self value

end Carrier

namespace TraceContext

/-! ## The W3C headers -/

def sampledFlags (isKeep : Bool) : Str := if isKeep then "01".toList else "00".toList

def traceparentText (traceId : BitVec 128) (spanId : BitVec 64) (isKeep : Bool) : Str :=
  "00-".toList ++ Numeral.hexPadded 32 traceId.toNat ++ "-".toList ++
    Numeral.hexPadded 16 spanId.toNat ++ "-".toList ++ sampledFlags isKeep

/-- The four fields of the header, with `-` between them. -/
theorem traceparentText_eq (traceId : BitVec 128) (spanId : BitVec 64) (isKeep : Bool) :
    traceparentText traceId spanId isKeep =
      "00".toList ++ '-' :: (Numeral.hexPadded 32 traceId.toNat ++
        '-' :: (Numeral.hexPadded 16 spanId.toNat ++ '-' :: (sampledFlags isKeep ++ []))) := by
  -- unfolding by name would generate an equation that is slow to check
  show "00-".toList ++ Numeral.hexPadded 32 traceId.toNat ++ "-".toList ++
    Numeral.hexPadded 16 spanId.toNat ++ "-".toList ++ sampledFlags isKeep = _
  simp

/-- The sampled flag of a context: without a priority it is not set. -/
def keeps (context : InjectSpanContext) : Bool := context.sampling.priority.any (·.isKeep)

theorem injectTraceparent_eq (context : InjectSpanContext) (carrier : Carrier) :
    injectTraceparent context carrier =
      carrier.set TRACEPARENT_KEY
        (traceparentText context.traceId context.spanId (keeps context)) := by
  unfold injectTraceparent keeps
  cases context.sampling.priority with
  | none => rfl
  | some p => rfl

/-- The W3C style sets its two headers and no other. -/
theorem get_inject_of_ne (ord : IterOrder Str Str) (context : InjectSpanContext)
    (carrier : Carrier) {key : Str}
    (htp : Carrier.toLowercase key ≠ Carrier.toLowercase TRACEPARENT_KEY)
    (hts : Carrier.toLowercase key ≠ Carrier.toLowercase TRACESTATE_KEY) :
    (inject ord context carrier).get key = carrier.get key := by
  unfold inject
  split
  · simp only [injectTracestate, injectTraceparent, Carrier.get_set_ne hts,
      Carrier.get_set_ne htp]
  · rfl

theorem get_inject_traceparent (ord : IterOrder Str Str) {context : InjectSpanContext}
    (ht : context.traceId ≠ 0) (hs : context.spanId ≠ 0) (carrier : Carrier) :
    (inject ord context carrier).get TRACEPARENT_KEY =
      some (traceparentText context.traceId context.spanId (keeps context)) := by
  have hkeys : Carrier.toLowercase TRACEPARENT_KEY ≠ Carrier.toLowercase TRACESTATE_KEY := by
    decide
  rw [inject, if_pos ⟨ht, hs⟩, injectTracestate, Carrier.get_set_ne hkeys, injectTraceparent_eq,
    Carrier.get_set_self]

theorem get_inject_tracestate (ord : IterOrder Str Str) {context : InjectSpanContext}
    (ht : context.traceId ≠ 0) (hs : context.spanId ≠ 0) (carrier : Carrier) :
    (inject ord context carrier).get TRACESTATE_KEY = some (tracestateHeader ord context) := by
  rw [inject, if_pos ⟨ht, hs⟩, injectTracestate, Carrier.get_set_self]

end TraceContext

namespace Datadog

/-! ## The Datadog headers -/

/-- The tags of a context, with those that the injector adds. -/
def headerTags (context : InjectSpanContext) : Tags :=
  (injectSampling context.sampling ∅ (injectTraceIdTag context.traceId context.tags)).2

/-- The carrier before the tags are written. -/
def plainHeaders (context : InjectSpanContext) (carrier : Carrier) : Carrier :=
  let carrier :=
    carrier.set DATADOG_TRACE_ID_KEY (Numeral.decimal (splitTraceId context.traceId).2.toNat)
  let carrier := carrier.set DATADOG_PARENT_ID_KEY (Numeral.decimal context.spanId.toNat)
  let carrier := carrier.setSome DATADOG_ORIGIN_KEY context.origin
  carrier.setSome DATADOG_SAMPLING_PRIORITY_KEY (context.sampling.priority.map (·.display))

/-- The headers of the style beside that of the tags. -/
def PLAIN_KEYS : List Str :=
  [DATADOG_TRACE_ID_KEY, DATADOG_PARENT_ID_KEY, DATADOG_ORIGIN_KEY, DATADOG_SAMPLING_PRIORITY_KEY]

/-- The headers of the style. -/
def KEYS : List Str := PLAIN_KEYS ++ [DATADOG_TAGS_KEY]

/-- No header of the style is one of the other. -/
theorem keys_ne_w3c : ∀ key ∈ KEYS, ∀ header ∈ [TRACEPARENT_KEY, TRACESTATE_KEY],
    Carrier.toLowercase key ≠ Carrier.toLowercase header := by
  decide

theorem get_plainHeaders_of_ne {key : Str} (context : InjectSpanContext) (carrier : Carrier)
    (h : ∀ header ∈ PLAIN_KEYS, Carrier.toLowercase key ≠ Carrier.toLowercase header) :
    (plainHeaders context carrier).get key = carrier.get key := by
  simp only [PLAIN_KEYS, List.mem_cons, List.not_mem_nil, or_false, forall_eq_or_imp,
    forall_eq] at h
  rcases h with ⟨htraceId, hparentId, horigin, hpriority⟩
  simp only [plainHeaders, Carrier.get_setSome_ne hpriority, Carrier.get_setSome_ne horigin,
    Carrier.get_set_ne hparentId, Carrier.get_set_ne htraceId]

variable (ord : IterOrder Str Str)

theorem inject_eq (context : InjectSpanContext) (carrier : Carrier) (config : Config) :
    (inject ord context carrier config).2 =
      (injectTags ord (headerTags context) (plainHeaders context carrier)
        config.datadogTagsMaxLength).1 := by
  simp only [inject, plainHeaders, injectSampling, injectTraceId, headerTags]
  cases context.origin with
  | none =>
      cases context.sampling.priority with
      | none => rfl
      | some priority => rfl
  | some origin =>
      cases context.sampling.priority with
      | none => rfl
      | some priority => rfl

theorem get_injectTags_of_ne {key : Str}
    (h : Carrier.toLowercase key ≠ Carrier.toLowercase DATADOG_TAGS_KEY) (tags : Tags)
    (carrier : Carrier) (maxLength : Nat) :
    (injectTags ord tags carrier maxLength).1.get key = carrier.get key := by
  unfold injectTags
  split
  · rfl
  · split
    · simp only
      split
      · rfl
      · exact Carrier.get_set_ne h carrier _
    · rfl

variable (context : InjectSpanContext) (carrier : Carrier) (config : Config)

theorem get_inject_traceId :
    (inject ord context carrier config).2.get DATADOG_TRACE_ID_KEY =
      some (Numeral.decimal (splitTraceId context.traceId).2.toNat) := by
  have hne : ∀ header ∈ [DATADOG_PARENT_ID_KEY, DATADOG_ORIGIN_KEY, DATADOG_SAMPLING_PRIORITY_KEY,
      DATADOG_TAGS_KEY],
      Carrier.toLowercase DATADOG_TRACE_ID_KEY ≠ Carrier.toLowercase header := by decide
  simp only [List.mem_cons, List.not_mem_nil, or_false, forall_eq_or_imp, forall_eq] at hne
  rcases hne with ⟨hparentId, horigin, hpriority, htags⟩
  rw [inject_eq, get_injectTags_of_ne ord htags]
  simp only [plainHeaders, Carrier.get_setSome_ne hpriority, Carrier.get_setSome_ne horigin,
    Carrier.get_set_ne hparentId, Carrier.get_set_self]

theorem get_inject_parentId :
    (inject ord context carrier config).2.get DATADOG_PARENT_ID_KEY =
      some (Numeral.decimal context.spanId.toNat) := by
  have hne : ∀ header ∈ [DATADOG_ORIGIN_KEY, DATADOG_SAMPLING_PRIORITY_KEY, DATADOG_TAGS_KEY],
      Carrier.toLowercase DATADOG_PARENT_ID_KEY ≠ Carrier.toLowercase header := by decide
  simp only [List.mem_cons, List.not_mem_nil, or_false, forall_eq_or_imp, forall_eq] at hne
  rcases hne with ⟨horigin, hpriority, htags⟩
  rw [inject_eq, get_injectTags_of_ne ord htags]
  simp only [plainHeaders, Carrier.get_setSome_ne hpriority, Carrier.get_setSome_ne horigin,
    Carrier.get_set_self]

variable {context}

/-- The priority is set whether the tags can be written or not. -/
theorem get_inject_priority {p : SamplingPriority} (hp : context.sampling.priority = some p) :
    (inject ord context carrier config).2.get DATADOG_SAMPLING_PRIORITY_KEY = some p.display := by
  have htags : Carrier.toLowercase DATADOG_SAMPLING_PRIORITY_KEY ≠
      Carrier.toLowercase DATADOG_TAGS_KEY := by decide
  rw [inject_eq, get_injectTags_of_ne ord htags]
  simp only [plainHeaders, hp, Option.map_some, Carrier.setSome, Carrier.get_set_self]

variable (context)

/-- The style leaves the W3C headers alone. -/
theorem get_inject_of_w3c {key : Str} (hkey : key ∈ [TRACEPARENT_KEY, TRACESTATE_KEY]) :
    (inject ord context carrier config).2.get key = carrier.get key := by
  have hne : ∀ header ∈ KEYS, Carrier.toLowercase key ≠ Carrier.toLowercase header :=
    fun header hheader => (keys_ne_w3c header hheader key hkey).symm
  rw [inject_eq, get_injectTags_of_ne ord (hne _ (by simp [KEYS, PLAIN_KEYS]))]
  exact get_plainHeaders_of_ne context carrier fun header hheader =>
    hne header (List.mem_append_left _ hheader)

/-- The W3C style leaves the headers of this one alone. -/
theorem get_inject_traceContext {key : Str} (hkey : key ∈ KEYS) :
    (TraceContext.inject ord context carrier).get key = carrier.get key :=
  TraceContext.get_inject_of_ne ord context carrier (keys_ne_w3c key hkey _ (by simp))
    (keys_ne_w3c key hkey _ (by simp))

end Datadog

namespace Style

/-- No style changes the ids or the sampling of the context. -/
theorem inject_context (ord : IterOrder Str Str) (style : TracePropagationStyle) (context : InjectSpanContext)
    (carrier : Carrier) (config : Config) :
    (inject ord style context carrier config).1.traceId = context.traceId ∧
      (inject ord style context carrier config).1.spanId = context.spanId ∧
      (inject ord style context carrier config).1.sampling = context.sampling := by
  cases style with
  | datadog => exact ⟨rfl, rfl, rfl⟩
  | traceContext => exact ⟨rfl, rfl, rfl⟩
  | none => exact ⟨rfl, rfl, rfl⟩

end Style

end Propagation
end DdTrace
