import DdTrace.Otel.DdtraceTransform
import DdTrace.Otel.SpanProcessor

/-!
# ExportedLinks — the links of terminated contexts

A context of another trace that was extracted beside the primary one becomes a link of the local
root span.  On its way to the agent the link passes three representations: the pair of halves of
`SpanLink`, the 128 bits of the API, and a pair of halves again.  The main result,
`exported_link_identifies_iff`, says which contexts an agent can tell from their link.
-/

namespace DdTrace
namespace Otel

open DdTrace.Lib DdTrace.Core DdTrace.Mappings
open DdTrace.Propagation.DatadogCompositePropagator (resolveContext resolveContexts
  mergeTraceContext)

/-! ## The contexts that become links -/

/-- A context and the style it was extracted with. -/
abbrev StyledContext := Propagation.SpanContext × TracePropagationStyle

def terminatedLink (c : StyledContext) : Propagation.SpanLink := .terminatedContext c.1 c.2

/-- A valid context of another trace. -/
def isOfOtherTrace (traceId : BitVec 128) (c : StyledContext) : Bool :=
  c.1.spanId ≠ 0 ∧ c.1.traceId ≠ 0 ∧ c.1.traceId ≠ traceId

def linkedContexts (first : StyledContext) (others : List StyledContext) : List StyledContext :=
  others.filter (isOfOtherTrace first.1.traceId)

theorem traceId_mergeTraceContext (contexts : List StyledContext)
    (primary context : Propagation.SpanContext) :
    (mergeTraceContext contexts primary context).traceId = primary.traceId := by
  simp only [mergeTraceContext]
  cases context.tags.lookup Propagation.TRACESTATE_KEY with
  | none =>
      split_ifs
      · rfl
      · rfl
  | some tracestate =>
      split_ifs
      · rfl
      · rfl

/-- One step of the merge keeps the trace of the primary context, and links any other. -/
theorem resolveContext_spec (contexts : List StyledContext) (primary : Propagation.SpanContext)
    (links : List Propagation.SpanLink) (c : StyledContext) :
    (resolveContext contexts (primary, links) c).1.traceId = primary.traceId ∧
    (resolveContext contexts (primary, links) c).2 =
      if isOfOtherTrace primary.traceId c then links ++ [terminatedLink c] else links := by
  simp only [resolveContext, isOfOtherTrace, decide_eq_true_eq]
  split_ifs
  · exact ⟨rfl, rfl⟩
  · exact ⟨traceId_mergeTraceContext contexts primary c.1, rfl⟩
  · exact ⟨rfl, rfl⟩

theorem links_foldl_resolveContext (contexts others : List StyledContext) (first : StyledContext)
    (primary : Propagation.SpanContext) (links : List Propagation.SpanLink)
    (h : primary.traceId = first.1.traceId) :
    (others.foldl (resolveContext contexts) (primary, links)).2 =
      links ++ (linkedContexts first others).map terminatedLink := by
  induction others generalizing primary links with
  | nil => simp [linkedContexts]
  | cons c others ih =>
      obtain ⟨htraceId, hlinks⟩ := resolveContext_spec contexts primary links c
      have hrest := ih (resolveContext contexts (primary, links) c).1
        (resolveContext contexts (primary, links) c).2 (htraceId.trans h)
      rw [List.foldl_cons]
      refine hrest.trans ?_
      rw [hlinks, h]
      cases hother : isOfOtherTrace first.1.traceId c with
      | false => simp [linkedContexts, hother]
      | true => simp [linkedContexts, hother]

/-- The links are those of the contexts of another trace, in order. -/
theorem links_resolveContexts (first : StyledContext) (others : List StyledContext) :
    (resolveContexts first others).links =
      (linkedContexts first others).map terminatedLink := by
  have hfold := links_foldl_resolveContext (first :: others) others first first.1 [] rfl
  rw [List.nil_append] at hfold
  exact hfold

/-! ## The exported link -/

variable (ord : IterOrder Str Str) (traceStateApi : TraceStateApi) (api : MappingApi)

/-- The link of a terminated context, as it is exported. -/
def exportedLink (c : StyledContext) : DdSpanLink :=
  toDdSpanLink api (DatadogSpanProcessor.toLink ord traceStateApi (terminatedLink c))

theorem traceId_exportedLink (c : StyledContext) :
    (exportedLink ord traceStateApi api c).traceId = c.1.traceId.setWidth 64 := by
  calc
    (exportedLink ord traceStateApi api c).traceId
        = ((c.1.traceId.setWidth 64).setWidth 128).setWidth 64 := rfl
    _ = c.1.traceId.setWidth 64 := by simp

/-- The higher half is lost on the way through the API. -/
theorem traceIdHigh_exportedLink (c : StyledContext) :
    (exportedLink ord traceStateApi api c).traceIdHigh = 0 := by
  have hlow : (c.1.traceId.setWidth 64).toNat < 2 ^ 64 := (c.1.traceId.setWidth 64).isLt
  have hzero : ((c.1.traceId.setWidth 64).setWidth 128 >>> 64 : BitVec 128) = 0 := by
    apply BitVec.eq_of_toNat_eq
    simp only [BitVec.toNat_ushiftRight, BitVec.toNat_setWidth]
    simp
    omega
  calc
    (exportedLink ord traceStateApi api c).traceIdHigh
        = ((c.1.traceId.setWidth 64).setWidth 128 >>> 64).setWidth 64 := rfl
    _ = 0 := by
      rw [hzero]
      rfl

theorem spanId_exportedLink (c : StyledContext) :
    (exportedLink ord traceStateApi api c).spanId = c.1.spanId := rfl

/-- The flag of a keep priority, which a missing one is not. -/
def hasKeepPriority (context : Propagation.SpanContext) : Bool :=
  context.sampling.priority.any SamplingPriority.isKeep

theorem flags_exportedLink (c : StyledContext) :
    (exportedLink ord traceStateApi api c).flags = if hasKeepPriority c.1 then 1 else 0 := by
  rcases c with ⟨context, style⟩
  have hflags : (exportedLink ord traceStateApi api (context, style)).flags =
      (((context.sampling.priority.map fun priority : SamplingPriority =>
        if priority.isKeep then (1 : BitVec 32) else 0).getD 0).setWidth 8).setWidth 32 := rfl
  rw [hflags, hasKeepPriority]
  cases context.sampling.priority with
  | none => rfl
  | some priority =>
      cases hkeep : priority.isKeep with
      | false => simp [hkeep]
      | true => simp [hkeep]

/-! ## Identification -/

/-- A link has the ids of a context, and its sampling decision as a flag. -/
structure Identifies (link : DdSpanLink) (context : Propagation.SpanContext) : Prop where
  traceIdHigh : link.traceIdHigh = (context.traceId >>> 64).setWidth 64
  traceId : link.traceId = context.traceId.setWidth 64
  spanId : link.spanId = context.spanId
  sampled : link.flags.getLsbD 0 = hasKeepPriority context

theorem identifies_exportedLink_iff (c : StyledContext) :
    Identifies (exportedLink ord traceStateApi api c) c.1 ↔ c.1.traceId.toNat < 2 ^ 64 := by
  have hhigh : (c.1.traceId >>> 64).setWidth 64 = 0 ↔ c.1.traceId.toNat < 2 ^ 64 := by
    have hlt : c.1.traceId.toNat < 2 ^ 128 := c.1.traceId.isLt
    rw [← BitVec.toNat_inj]
    simp only [BitVec.toNat_setWidth, BitVec.toNat_ushiftRight, Nat.shiftRight_eq_div_pow]
    simp
    omega
  constructor
  · intro h
    rw [← hhigh, ← h.traceIdHigh]
    exact traceIdHigh_exportedLink ord traceStateApi api c
  · intro h
    refine
      { traceIdHigh := ?_
        traceId := traceId_exportedLink ord traceStateApi api c
        spanId := spanId_exportedLink ord traceStateApi api c
        sampled := ?_ }
    · rw [traceIdHigh_exportedLink, hhigh.2 h]
    · rw [flags_exportedLink]
      cases hasKeepPriority c.1 with
      | false => rfl
      | true => rfl

/-! ## The exported root span -/

theorem addRemoteLinks_fromSpanContext (cx : Context) (first : StyledContext)
    (others : List StyledContext) :
    DatadogSpanProcessor.addRemoteLinks ord traceStateApi
        (cx.withValue (.fromSpanContext ord (resolveContexts first others))) =
      (linkedContexts first others).map fun c =>
        DatadogSpanProcessor.toLink ord traceStateApi (terminatedLink c) := by
  have hlinks := links_resolveContexts first others
  calc
    DatadogSpanProcessor.addRemoteLinks ord traceStateApi
        (cx.withValue (.fromSpanContext ord (resolveContexts first others)))
        = (resolveContexts first others).links.map
            (DatadogSpanProcessor.toLink ord traceStateApi) := rfl
    _ = (linkedContexts first others).map fun c =>
          DatadogSpanProcessor.toLink ord traceStateApi (terminatedLink c) := by
        rw [hlinks, List.map_map]
        rfl

variable (cachedConfig : CachedConfig) (otelResource : Resource)

theorem spanLinks_otelSpanToExportedSpan (span : SpanData) :
    (otelSpanToExportedSpan api cachedConfig otelResource span).spanLinks =
      span.links.map (toDdSpanLink api) := by
  have hconfig : Frame.Keeps DdSpan.spanLinks (addConfigMetadata api cachedConfig otelResource) :=
    keeps_addConfigMetadata api cachedConfig ignoresPublicTags_spanLinks (fun _ _ => rfl)
      (fun _ _ _ => rfl) otelResource
  have hsampling : Frame.Keeps DdSpan.spanLinks
      (otelSamplingToDdSampling span.spanContext.traceFlags) :=
    keeps_otelSamplingToDdSampling _ fun _ _ _ => rfl
  calc
    (otelSpanToExportedSpan api cachedConfig otelResource span).spanLinks
        = (otelSpanToDdSpan api span otelResource).spanLinks := hconfig.comp hsampling _
    _ = span.links.map (toDdSpanLink api) := spanLinks_otelSpanToDdSpan api span otelResource

/-- Each context that becomes a link is told by the exported link that stands for it, if and only if
its trace id fits in 64 bits.  The application may have added links of its own, before or after. -/
theorem exported_link_identifies_iff (cx : Context) (first : StyledContext)
    (others : List StyledContext) (earlier later : List Link) (span : SpanData)
    (hspan : span.links = earlier ++
      DatadogSpanProcessor.addRemoteLinks ord traceStateApi
        (cx.withValue (.fromSpanContext ord (resolveContexts first others))) ++ later)
    {i : Nat} {c : StyledContext} (hc : (linkedContexts first others)[i]? = some c) :
    ∃ link,
      (otelSpanToExportedSpan api cachedConfig otelResource span).spanLinks[earlier.length + i]? =
        some link ∧
      (Identifies link c.1 ↔ c.1.traceId.toNat < 2 ^ 64) := by
  refine ⟨exportedLink ord traceStateApi api c, ?_,
    identifies_exportedLink_iff ord traceStateApi api c⟩
  have hbound : i < (linkedContexts first others).length := (List.getElem?_eq_some_iff.1 hc).1
  rw [spanLinks_otelSpanToExportedSpan, hspan, addRemoteLinks_fromSpanContext, List.append_assoc,
    List.map_append, List.map_append, List.map_map]
  rw [List.getElem?_append_right (by simp), List.length_map, Nat.add_sub_cancel_left,
    List.getElem?_append_left (by simpa using hbound), List.getElem?_map, hc]
  rfl

/-! Two contexts in one carrier, the second of a trace with a higher half. -/

def sampleContext (traceId : BitVec 128) (spanId : BitVec 64) : Propagation.SpanContext :=
  { traceId := traceId
    spanId := spanId
    sampling := { priority := some Priority.autoKeep, mechanism := none }
    origin := none
    tags := ∅
    links := []
    isRemote := true
    tracestate := none }

def samplePrimary : StyledContext := (sampleContext 1 1, .datadog)

def sampleTerminated (traceIdHigh : BitVec 128) : StyledContext :=
  (sampleContext (traceIdHigh <<< 64 + 2) 7, .traceContext)

def sampleTraceStateApi : TraceStateApi :=
  { fromKeyValue := fun members => some (some members)
    fromStr := fun _ => none }

/-- The local root span that continues the primary context. -/
def sampleRoot (traceIdHigh : BitVec 128) : SpanData :=
  { SpanData.ofIds 1 3 with
    links := DatadogSpanProcessor.addRemoteLinks (.asStored Str Str) sampleTraceStateApi
      (Context.new.withValue (.fromSpanContext (.asStored Str Str)
        (resolveContexts samplePrimary [sampleTerminated traceIdHigh]))) }

def sampleCachedConfig : CachedConfig :=
  { service := "my-service".toList, globalTags := [], version := none }

/-- The context of the trace `2` is told by its link. -/
theorem exported_link_identifies_iff_low :
    ∃ link,
      (otelSpanToExportedSpan .plain sampleCachedConfig ∅ (sampleRoot 0)).spanLinks[0]? =
        some link ∧
      Identifies link (sampleTerminated 0).1 := by
  have hspan : (sampleRoot 0).links = [] ++
      DatadogSpanProcessor.addRemoteLinks (.asStored Str Str) sampleTraceStateApi
        (Context.new.withValue (.fromSpanContext (.asStored Str Str)
          (resolveContexts samplePrimary [sampleTerminated 0]))) ++ [] := by
    rw [List.nil_append, List.append_nil]
    rfl
  have hc : (linkedContexts samplePrimary [sampleTerminated 0])[0]? =
      some (sampleTerminated 0) := rfl
  obtain ⟨link, hlink, hiff⟩ := exported_link_identifies_iff (.asStored Str Str)
    sampleTraceStateApi .plain sampleCachedConfig ∅ Context.new samplePrimary [sampleTerminated 0]
    [] [] (sampleRoot 0) hspan hc
  exact ⟨link, hlink, hiff.2 (by decide)⟩

/-- The context of the trace `2 ^ 64 + 2` is linked as one of the trace `2`. -/
theorem terminated_context_loses_its_high_half :
    linkedContexts samplePrimary [sampleTerminated 1] = [sampleTerminated 1] ∧
    ∃ link,
      (otelSpanToExportedSpan .plain sampleCachedConfig ∅ (sampleRoot 1)).spanLinks = [link] ∧
      link.traceIdHigh = 0 ∧ ¬ Identifies link (sampleTerminated 1).1 := by
  have hlinked : linkedContexts samplePrimary [sampleTerminated 1] = [sampleTerminated 1] := rfl
  refine ⟨hlinked,
    exportedLink (.asStored Str Str) sampleTraceStateApi .plain (sampleTerminated 1), ?_,
    traceIdHigh_exportedLink _ _ _ _, ?_⟩
  · rw [spanLinks_otelSpanToExportedSpan, sampleRoot, addRemoteLinks_fromSpanContext, hlinked]
    rfl
  · rw [identifies_exportedLink_iff]
    decide

end Otel
end DdTrace
