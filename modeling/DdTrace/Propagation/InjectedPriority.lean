import DdTrace.Propagation.Injection
import DdTrace.Propagation.TracestateHeader

/-!
# InjectedPriority — where the sampling priority stands in a carrier

Each style writes the priority of the context, in its own headers, whatever the tags are and whichever
styles were injected before (`inject_carriesPriority`).
-/

namespace DdTrace
namespace Propagation

open DdTrace.Lib DdTrace.Core

/-- The priority in the headers of the styles: the Datadog header, the sampled flag, and the first
item of the `dd` member, which comes first in the tracestate. -/
structure CarriesPriority (styles : List TracePropagationStyle) (traceId : BitVec 128)
    (spanId : BitVec 64) (p : SamplingPriority) (carrier : Carrier) : Prop where
  datadog : .datadog ∈ styles →
    carrier.get Datadog.DATADOG_SAMPLING_PRIORITY_KEY = some p.display
  traceparent : .traceContext ∈ styles →
    carrier.get TRACEPARENT_KEY = some (TraceContext.traceparentText traceId spanId p.isKeep)
  tracestate : .traceContext ∈ styles →
    ∃ header value, carrier.get TRACESTATE_KEY = some header ∧
      (header.splitOn ',').head? = some ("dd=".toList ++ value) ∧
      (value.splitOn ';').head? = some ("s:".toList ++ p.display)

namespace TraceContext

/-- After the priority the header goes on with a separator, or ends. -/
theorem tracestateHeader_eq (ord : IterOrder Str Str) (context : InjectSpanContext) :
    ∃ rest, tracestateHeader ord context = "dd=".toList ++ (samplingPart context ++ rest) ∧
      ∀ c ∈ rest.head?, c = ';' ∨ c = ',' := by
  -- the origin, the parent id and the tags each start with `;`, the other members with `,`
  have horigin : ∃ rest, appendOrigin context (samplingPart context) = samplingPart context ++ rest ∧
      ∀ c ∈ rest.head?, c = ';' := by
    unfold appendOrigin
    cases context.origin with
    | none => exact ⟨[], by simp, by simp⟩
    | some origin =>
        simp only
        split
        · exact ⟨";o:".toList ++ sanitizedOrigin origin, by simp, by simp⟩
        · exact ⟨[], by simp, by simp⟩
  have happend : ∀ first second : Str, (∀ c ∈ first.head?, c = ';') →
      (∀ c ∈ second.head?, c = ';' ∨ c = ',') →
      ∀ c ∈ (first ++ second).head?, c = ';' ∨ c = ',' := by
    intro first second hfirst hsecond c hc
    cases first with
    | nil => exact hsecond c hc
    | cons d first => exact .inl (hfirst c (by simpa using hc))
  have hparentId : ∃ rest, ddPartsBeforeTags context = samplingPart context ++ rest ∧
      ∀ c ∈ rest.head?, c = ';' := by
    rcases horigin with ⟨rest, hrest, hhead⟩
    rw [ddPartsBeforeTags_eq_ite, hrest]
    split
    · refine ⟨rest ++ (";p:".toList ++ lastParentId context), by simp, ?_⟩
      intro c hc
      cases rest with
      | nil => simpa [eq_comm] using hc
      | cons d rest => exact hhead c (by simpa using hc)
    · exact ⟨rest, rfl, hhead⟩
  rcases hparentId with ⟨rest, hrest, hhead⟩
  refine ⟨rest ++ (tagsText (writtenTags ord context) ++
    (otherMembers context).flatMap fun part => ',' :: part), ?_, ?_⟩
  · rw [tracestateHeader, ddParts_eq, hrest]
    simp
  · refine happend _ _ hhead ?_
    have htags : ∀ tags : List (Str × Str), ∀ c ∈ (tagsText tags).head?, c = ';' := by
      intro tags c hc
      cases tags with
      | nil => cases hc
      | cons tag tags => simpa [tagsText, tagEntry, eq_comm] using hc
    refine happend _ _ (htags _) ?_
    intro c hc
    cases hothers : otherMembers context with
    | nil => simp [hothers] at hc
    | cons part parts =>
        right
        simpa [hothers, eq_comm] using hc

/-- The first item of the first member is the priority. -/
theorem firstItem_tracestateHeader (ord : IterOrder Str Str) {context : InjectSpanContext}
    {p : SamplingPriority} (hp : context.sampling.priority = some p) :
    ∃ value, ((tracestateHeader ord context).splitOn ',').head? = some ("dd=".toList ++ value) ∧
      (value.splitOn ';').head? = some ("s:".toList ++ p.display) := by
  have hpart : samplingPart context = "s:".toList ++ p.display := by
    simp [samplingPart, hp]
  have hplain : ∀ c ∈ "s:".toList ++ p.display, (c != ',') = true ∧ (c != ';') = true := by
    intro c hc
    rcases List.mem_append.1 hc with hname | hdigit
    · have hall : ("s:".toList.all fun c => c != ',' && c != ';') = true := by decide
      exact Bool.and_eq_true_iff.1 (List.all_eq_true.1 hall c hname)
    · rcases Numeral.of_mem_intDecimal hdigit with rfl | hhex
      · decide
      · exact Numeral.forall_isHexDigit (P := fun c => (c != ',') = true ∧ (c != ';') = true)
          (by decide) hhex
  rcases tracestateHeader_eq ord context with ⟨rest, hheader, hhead⟩
  refine ⟨"s:".toList ++ p.display ++ rest.takeWhile fun x => x != ',', ?_, ?_⟩
  · have hdd : ∀ c ∈ "dd=".toList, (c != ',') = true := List.all_eq_true.1 (by decide)
    rw [hheader, hpart, Text.head?_splitOn, List.takeWhile_append_of_pos hdd,
      List.takeWhile_append_of_pos fun c hc => (hplain c hc).1]
  · -- the separator behind the priority ends the first item, whichever it is
    have hrest : (rest.takeWhile fun x => x != ',').takeWhile (fun x => x != ';') = [] := by
      cases rest with
      | nil => rfl
      | cons c rest =>
          rcases hhead c rfl with rfl | rfl
          · simp
          · simp
    rw [Text.head?_splitOn, List.takeWhile_append_of_pos fun c hc => (hplain c hc).2, hrest,
      List.append_nil]

end TraceContext

/-! ## All styles -/

namespace Style

variable (ord : IterOrder Str Str)

/-- A style writes the priority in its headers, and leaves it in those of the other. -/
theorem inject_carriesPriority {styles : List TracePropagationStyle} {context : InjectSpanContext}
    {p : SamplingPriority} {carrier : Carrier} (ht : context.traceId ≠ 0) (hs : context.spanId ≠ 0)
    (hp : context.sampling.priority = some p)
    (h : CarriesPriority styles context.traceId context.spanId p carrier)
    (style : TracePropagationStyle) (config : Config) :
    CarriesPriority (style :: styles) context.traceId context.spanId p
      (inject ord style context carrier config).2 := by
  cases style with
  | datadog =>
      -- the Datadog headers are new, the W3C headers stay
      refine ⟨fun _ => Datadog.get_inject_priority ord carrier config hp, ?_, ?_⟩
      · intro hmem
        have hrest := h.traceparent (by simpa using hmem)
        exact (Datadog.get_inject_of_w3c ord context carrier config (by simp)).trans hrest
      · intro hmem
        rcases h.tracestate (by simpa using hmem) with ⟨header, value, hget, hfirst⟩
        exact ⟨header, value,
          (Datadog.get_inject_of_w3c ord context carrier config (by simp)).trans hget, hfirst⟩
  | traceContext =>
      have hkeeps : TraceContext.keeps context = p.isKeep := by
        simp [TraceContext.keeps, hp]
      refine ⟨?_, ?_, ?_⟩
      · intro hmem
        have hrest := h.datadog (by simpa using hmem)
        have hkey : Datadog.DATADOG_SAMPLING_PRIORITY_KEY ∈ Datadog.KEYS := by
          simp [Datadog.KEYS, Datadog.PLAIN_KEYS]
        exact (Datadog.get_inject_traceContext ord context carrier hkey).trans hrest
      · intro _
        rw [← hkeeps]
        exact TraceContext.get_inject_traceparent ord ht hs carrier
      · intro _
        rcases TraceContext.firstItem_tracestateHeader ord hp with ⟨value, hfirst, hitem⟩
        exact ⟨_, value, TraceContext.get_inject_tracestate ord ht hs carrier, hfirst, hitem⟩
  | none =>
      -- nothing is written, and nothing is asked of this style
      exact ⟨fun hmem => h.datadog (by simpa using hmem),
        fun hmem => h.traceparent (by simpa using hmem),
        fun hmem => h.tracestate (by simpa using hmem)⟩

end Style

namespace DatadogCompositePropagator

/-- After all injectors, each style that is among them carries the priority. -/
theorem inject_carriesPriority (ord : IterOrder Str Str) (self : DatadogCompositePropagator)
    {context : InjectSpanContext} {p : SamplingPriority} (ht : context.traceId ≠ 0)
    (hs : context.spanId ≠ 0) (hp : context.sampling.priority = some p) (carrier : Carrier) :
    CarriesPriority self.injectors context.traceId context.spanId p
      (self.inject ord context carrier).2 := by
  -- the styles that were injected already are those in front of the rest of the list
  have hfold : ∀ (styles done : List TracePropagationStyle) (c : InjectSpanContext)
      (carrier : Carrier), c.traceId = context.traceId → c.spanId = context.spanId →
      c.sampling = context.sampling →
      CarriesPriority done context.traceId context.spanId p carrier →
      CarriesPriority (styles.reverse ++ done) context.traceId context.spanId p
        (styles.foldl (fun injected style =>
          Style.inject ord style injected.1 injected.2 self.config) (c, carrier)).2 := by
    intro styles
    induction styles with
    | nil =>
        intro done c carrier _ _ _ h
        simpa using h
    | cons style styles ih =>
        intro done c carrier hct hcs hcsampling h
        rcases Style.inject_context ord style c carrier self.config with ⟨ht', hs', hsampling'⟩
        -- an injector passes the ids and the sampling state on to the next one
        have hstep : CarriesPriority (style :: done) context.traceId context.spanId p
            (Style.inject ord style c carrier self.config).2 := by
          rw [← hct, ← hcs] at h ⊢
          exact Style.inject_carriesPriority ord (hct ▸ ht) (hcs ▸ hs) (hcsampling ▸ hp) h style
            self.config
        have hrest := ih (style :: done) _ _ (ht'.trans hct) (hs'.trans hcs)
          (hsampling'.trans hcsampling) hstep
        simpa using hrest
  have hall := hfold self.injectors [] context carrier rfl rfl rfl
    ⟨by simp, by simp, by simp⟩
  exact ⟨fun hmem => hall.datadog (by simpa using hmem),
    fun hmem => hall.traceparent (by simpa using hmem),
    fun hmem => hall.tracestate (by simpa using hmem)⟩

end DatadogCompositePropagator

end Propagation
end DdTrace
