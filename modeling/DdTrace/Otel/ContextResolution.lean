import DdTrace.Otel.ExportedLinks
import DdTrace.Propagation.SamplingReconciliation

/-!
# ContextResolution — what the other contexts add to the first one

Of the contexts that are extracted beside the first one, those of another trace become links, and the
W3C context of the same trace, if there is one, gives its span id, its tracestate and the id of the
last parent.  Nothing of a context of another trace gets into the first one.  The laws are about every
list of contexts that extraction can produce; `resolves_of_extract` has them for a carrier.
-/

namespace DdTrace
namespace Otel

open DdTrace.Lib DdTrace.Core
open DdTrace.Propagation.DatadogCompositePropagator (resolveContext resolveContexts
  mergeTraceContext)

/-! ## The contexts that are extracted -/

def isTraceContext (c : StyledContext) : Bool := c.2 = .traceContext

/-- Contexts of the two styles, of the W3C style at most one, which then has ids that are not zero. -/
structure Extractable (contexts : List StyledContext) : Prop where
  styles : ∀ c ∈ contexts, c.2 = .datadog ∨ c.2 = .traceContext
  single : (contexts.filter isTraceContext).length ≤ 1
  ids : ∀ c ∈ contexts, c.2 = .traceContext → c.1.traceId ≠ 0 ∧ c.1.spanId ≠ 0

theorem Extractable.sublist {contexts contexts' : List StyledContext} (h : Extractable contexts)
    (hsub : contexts'.Sublist contexts) : Extractable contexts' :=
  { styles := fun c hc => h.styles c (hsub.subset hc)
    single := (hsub.filter _).length_le.trans h.single
    ids := fun c hc => h.ids c (hsub.subset hc) }

/-- Beside a W3C context there is no other one. -/
theorem Extractable.not_traceContext_of_mem {c c' : StyledContext} {others : List StyledContext}
    (h : Extractable (c :: others)) (hstyle : c.2 = .traceContext) (hmem : c' ∈ others) :
    ¬ c'.2 = .traceContext := by
  intro hstyle'
  have hc : isTraceContext c = true := decide_eq_true hstyle
  have hc' : c' ∈ others.filter isTraceContext :=
    List.mem_filter.2 ⟨hmem, decide_eq_true hstyle'⟩
  have hsingle := h.single
  rw [List.filter_cons_of_pos hc, List.length_cons] at hsingle
  have hpos := List.length_pos_of_mem hc'
  omega

def isOfTrace (traceId : BitVec 128) (c : StyledContext) : Bool := c.1.traceId = traceId

/-- The W3C context of a trace. -/
def continues (traceId : BitVec 128) (c : StyledContext) : Bool :=
  c.2 = .traceContext ∧ c.1.traceId = traceId

theorem continues_eq_true {traceId : BitVec 128} {c : StyledContext} :
    continues traceId c = true ↔ c.2 = .traceContext ∧ c.1.traceId = traceId :=
  decide_eq_true_iff

section

open Propagation

theorem ne_zero_of_parseUnsigned {w n : Nat} {s : Str}
    (h : Numeral.parseUnsigned 16 (2 ^ w) s = some n) (hn : n ≠ 0) : BitVec.ofNat w n ≠ 0 := by
  have hlt : n < 2 ^ w := of_decide_eq_true (Option.filter_eq_some_iff.1 h).2
  intro hzero
  have hnat := congrArg BitVec.toNat hzero
  rw [BitVec.toNat_ofNat, Nat.mod_eq_of_lt hlt] at hnat
  exact hn (hnat.trans (by simp))

theorem extractTraceId_ne_zero {text : Str} {traceId : BitVec 128}
    (h : TraceContext.extractTraceId text = .ok traceId) : traceId ≠ 0 := by
  unfold TraceContext.extractTraceId at h
  split at h
  · cases h
  · rename_i n hparse
    split_ifs at h with hn
    cases h
    exact ne_zero_of_parseUnsigned hparse hn

theorem extractSpanId_ne_zero {text : Str} {spanId : BitVec 64}
    (h : TraceContext.extractSpanId text = .ok spanId) : spanId ≠ 0 := by
  unfold TraceContext.extractSpanId at h
  split at h
  · cases h
  · rename_i n hparse
    split_ifs at h with hn
    cases h
    exact ne_zero_of_parseUnsigned hparse hn

/-- The W3C extractor accepts no zero ids. -/
theorem ids_extract {ord : IterOrder Str Str} {carrier : Carrier}
    {context : Propagation.SpanContext} (h : TraceContext.extract ord carrier = some context) :
    context.traceId ≠ 0 ∧ context.spanId ≠ 0 := by
  obtain ⟨header, traceparent, -, htraceparent, htraceId, hspanId⟩ :=
    TraceContext.exists_traceparent_of_extract h
  obtain ⟨components, traceFlags, -, htrace, hspan, -⟩ :=
    TraceContext.extractTraceparent_eq_ok htraceparent
  rw [htraceId, hspanId]
  exact ⟨extractTraceId_ne_zero htrace, extractSpanId_ne_zero hspan⟩

theorem mem_extractAvailableContexts {ord : IterOrder Str Str} {self : DatadogCompositePropagator}
    {carrier : Carrier} {c : StyledContext} (h : c ∈ self.extractAvailableContexts ord carrier) :
    c.2 ∈ self.extractors ∧ Style.extract ord c.2 carrier self.config = some c.1 := by
  obtain ⟨style, hstyle, hc⟩ := List.mem_filterMap.1 h
  obtain ⟨context, hcontext, rfl⟩ := Option.map_eq_some_iff.1 hc
  exact ⟨hstyle, hcontext⟩

/-- The contexts keep the order of the extractors they come from. -/
theorem styles_extractAvailableContexts (ord : IterOrder Str Str)
    (self : DatadogCompositePropagator) (carrier : Carrier) :
    ((self.extractAvailableContexts ord carrier).map Prod.snd).Sublist self.extractors := by
  unfold DatadogCompositePropagator.extractAvailableContexts
  induction self.extractors with
  | nil => exact List.Sublist.slnil
  | cons style extractors ih =>
      cases hextract : Style.extract ord style carrier self.config with
      | none =>
          rw [List.filterMap_cons_none (by rw [hextract]; rfl)]
          exact ih.cons style
      | some context =>
          rw [List.filterMap_cons_some (by rw [hextract]; rfl), List.map_cons]
          exact ih.cons_cons style

theorem single_extractAvailableContexts (ord : IterOrder Str Str)
    (self : DatadogCompositePropagator) (carrier : Carrier) :
    ((self.extractAvailableContexts ord carrier).filter isTraceContext).length ≤
      (self.extractors.filter (· = .traceContext)).length := by
  have hsub := (styles_extractAvailableContexts ord self carrier).filter (· = .traceContext)
  rw [List.filter_map] at hsub
  have hlength := hsub.length_le
  rw [List.length_map] at hlength
  exact hlength

/-- Extractors with the W3C style at most once give contexts of this kind. -/
theorem extractable_extractAvailableContexts (ord : IterOrder Str Str)
    {self : DatadogCompositePropagator} (carrier : Carrier)
    (hsingle : (self.extractors.filter (· = .traceContext)).length ≤ 1) :
    Extractable (self.extractAvailableContexts ord carrier) := by
  refine { styles := fun c hc => ?_, single := ?_, ids := fun c hc hstyle => ?_ }
  · obtain ⟨-, hextract⟩ := mem_extractAvailableContexts hc
    cases hstyle : c.2 with
    | datadog => exact .inl rfl
    | traceContext => exact .inr rfl
    | none =>
        rw [hstyle] at hextract
        cases hextract
  · exact (single_extractAvailableContexts ord self carrier).trans hsingle
  · obtain ⟨-, hextract⟩ := mem_extractAvailableContexts hc
    rw [hstyle] at hextract
    exact ids_extract hextract

end

/-! ## The primary context -/

section

variable {contexts others : List StyledContext} {primary : Propagation.SpanContext}
  {c : StyledContext}

theorem resolveContext_of_continues (h : continues primary.traceId c = true)
    (links : List Propagation.SpanLink) :
    resolveContext contexts (primary, links) c =
      (mergeTraceContext contexts primary c.1, links) := by
  obtain ⟨hstyle, hsame⟩ := continues_eq_true.1 h
  simp [resolveContext, hstyle, hsame]

/-- Any other context becomes a link, or is ignored. -/
theorem resolveContext_of_not_continues
    (hids : c.2 = .traceContext → c.1.traceId ≠ 0 ∧ c.1.spanId ≠ 0)
    (h : ¬ continues primary.traceId c = true) (links : List Propagation.SpanLink) :
    ∃ links', resolveContext contexts (primary, links) c = (primary, links') := by
  by_cases hstyle : c.2 = .traceContext
  · obtain ⟨htrace, hspan⟩ := hids hstyle
    have hother : c.1.traceId ≠ primary.traceId := fun hsame =>
      h (continues_eq_true.2 ⟨hstyle, hsame⟩)
    exact ⟨_, if_pos ⟨hspan, htrace, hother⟩⟩
  · simp only [resolveContext, if_neg hstyle]
    split_ifs
    · exact ⟨_, rfl⟩
    · exact ⟨_, rfl⟩

/-- The primary context takes in the W3C context of its trace, and no other. -/
theorem primary_foldl (h : Extractable others) (links : List Propagation.SpanLink) :
    (others.foldl (resolveContext contexts) (primary, links)).1 =
      ((others.find? (continues primary.traceId)).map fun c =>
        mergeTraceContext contexts primary c.1).getD primary := by
  induction others generalizing primary links with
  | nil => rfl
  | cons c others ih =>
      have hrest := h.sublist (List.sublist_cons_self c others)
      rw [List.foldl_cons]
      by_cases hcontinues : continues primary.traceId c = true
      · have hstyle := (continues_eq_true.1 hcontinues).1
        have hnone : others.find? (continues primary.traceId) = none := by
          apply List.find?_eq_none.2
          intro c' hc' hc
          exact h.not_traceContext_of_mem hstyle hc' (continues_eq_true.1 hc).1
        have hfold := @ih (mergeTraceContext contexts primary c.1) hrest links
        rw [traceId_mergeTraceContext, hnone] at hfold
        rw [resolveContext_of_continues hcontinues, hfold, List.find?_cons_of_pos hcontinues]
        rfl
      · obtain ⟨links', hlinks⟩ := @resolveContext_of_not_continues contexts primary c
          (h.ids c (List.mem_cons_self ..)) hcontinues links
        rw [hlinks, ih hrest, List.find?_cons_of_neg hcontinues]

end

/-! ## The merge -/

section

variable (contexts : List StyledContext) (primary context : Propagation.SpanContext)

/-- The primary context with the tracestate of another one. -/
def withTracestateOf : Propagation.SpanContext :=
  match context.tags.lookup Propagation.TRACESTATE_KEY with
  | some tracestate =>
      { primary with
        tags := AList.insert Propagation.TRACESTATE_KEY tracestate primary.tags
        tracestate := context.tracestate }
  | none => primary

/-- The id of the last parent: that of the other context, else that of the Datadog context. -/
def lastParentIdOf : Option Str :=
  (context.tags.lookup Propagation.DATADOG_LAST_PARENT_ID_KEY).or
    ((contexts.find? fun c => c.2 = .datadog).map fun c =>
      Numeral.hexPadded 16 c.1.spanId.toNat)

theorem traceId_withTracestateOf :
    (withTracestateOf primary context).traceId = primary.traceId := by
  unfold withTracestateOf
  split <;> rfl

theorem spanId_withTracestateOf : (withTracestateOf primary context).spanId = primary.spanId := by
  unfold withTracestateOf
  split <;> rfl

/-- The merge, its two parts named. -/
theorem mergeTraceContext_eq (h : context.traceId = primary.traceId) :
    mergeTraceContext contexts primary context =
      if primary.spanId = context.spanId then withTracestateOf primary context
      else
        { withTracestateOf primary context with
          spanId := context.spanId
          tags := (lastParentIdOf contexts context).elim (withTracestateOf primary context).tags
            fun id => AList.insert Propagation.DATADOG_LAST_PARENT_ID_KEY id
              (withTracestateOf primary context).tags } := by
  have htrace : (withTracestateOf primary context).traceId = context.traceId :=
    (traceId_withTracestateOf primary context).trans h.symm
  have hspan := spanId_withTracestateOf primary context
  show (if (withTracestateOf primary context).traceId = context.traceId ∧
      (withTracestateOf primary context).spanId ≠ context.spanId then _
    else withTracestateOf primary context) = _
  rw [hspan]
  by_cases hsame : primary.spanId = context.spanId
  · rw [if_neg fun hand => hand.2 hsame, if_pos hsame]
  · rw [if_pos ⟨htrace, hsame⟩, if_neg hsame, lastParentIdOf]
    cases context.tags.lookup Propagation.DATADOG_LAST_PARENT_ID_KEY with
    | some parentId => rfl
    | none =>
        cases contexts.find? fun c => c.2 = .datadog with
        | none => rfl
        | some c => rfl

theorem keeps_mergeTraceContext :
    (mergeTraceContext contexts primary context).sampling = primary.sampling ∧
      (mergeTraceContext contexts primary context).origin = primary.origin ∧
      (mergeTraceContext contexts primary context).isRemote = primary.isRemote := by
  unfold mergeTraceContext
  cases context.tags.lookup Propagation.TRACESTATE_KEY <;>
    (dsimp only; split_ifs <;> exact ⟨rfl, rfl, rfl⟩)

theorem spanId_mergeTraceContext (h : context.traceId = primary.traceId) :
    (mergeTraceContext contexts primary context).spanId = context.spanId := by
  rw [mergeTraceContext_eq contexts primary context h]
  split_ifs with hsame
  · exact (spanId_withTracestateOf primary context).trans hsame
  · rfl

/-- The tags of a merge are those of the two contexts, and the id of the last parent. -/
theorem lookup_mergeTraceContext (h : context.traceId = primary.traceId) (key : Str) :
    (mergeTraceContext contexts primary context).tags.lookup key =
        (withTracestateOf primary context).tags.lookup key ∨
      key = Propagation.DATADOG_LAST_PARENT_ID_KEY ∧
        (mergeTraceContext contexts primary context).tags.lookup key =
          lastParentIdOf contexts context := by
  rw [mergeTraceContext_eq contexts primary context h]
  split_ifs
  · exact .inl rfl
  · cases hparent : lastParentIdOf contexts context with
    | none => exact .inl rfl
    | some id =>
        have hlookup := HashMap.lookup_insert_eq (withTracestateOf primary context).tags
          Propagation.DATADOG_LAST_PARENT_ID_KEY key id
        by_cases hkey : key = Propagation.DATADOG_LAST_PARENT_ID_KEY
        · exact .inr ⟨hkey, hlookup.trans (if_pos hkey)⟩
        · exact .inl (hlookup.trans (if_neg hkey))

theorem lookup_withTracestateOf (key : Str) :
    (withTracestateOf primary context).tags.lookup key = primary.tags.lookup key ∨
      key = Propagation.TRACESTATE_KEY ∧
        (withTracestateOf primary context).tags.lookup key = context.tags.lookup key := by
  unfold withTracestateOf
  cases hstate : context.tags.lookup Propagation.TRACESTATE_KEY with
  | none => exact .inl rfl
  | some tracestate =>
      have hlookup :=
        HashMap.lookup_insert_eq primary.tags Propagation.TRACESTATE_KEY key tracestate
      by_cases hkey : key = Propagation.TRACESTATE_KEY
      · refine .inr ⟨hkey, (hlookup.trans (if_pos hkey)).trans ?_⟩
        rw [hkey, hstate]
      · exact .inl (hlookup.trans (if_neg hkey))

theorem tracestate_mergeTraceContext (h : context.traceId = primary.traceId) :
    (mergeTraceContext contexts primary context).tracestate = primary.tracestate ∨
      (mergeTraceContext contexts primary context).tracestate = context.tracestate := by
  have hstate : (mergeTraceContext contexts primary context).tracestate =
      (withTracestateOf primary context).tracestate := by
    rw [mergeTraceContext_eq contexts primary context h]
    split_ifs <;> rfl
  rw [hstate]
  unfold withTracestateOf
  cases context.tags.lookup Propagation.TRACESTATE_KEY with
  | none => exact .inl rfl
  | some tracestate => exact .inr rfl

end

/-! ## The resolution -/

/-- What the contexts resolve to: the first context with the links of the contexts of other traces,
and with the data of the W3C context of its own. -/
structure Resolves (first : StyledContext) (others : List StyledContext)
    (result : Propagation.SpanContext) : Prop where
  traceId : result.traceId = first.1.traceId
  sampling : result.sampling = first.1.sampling
  origin : result.origin = first.1.origin
  isRemote : result.isRemote = first.1.isRemote
  links : result.links = (linkedContexts first others).map terminatedLink
  spanId : result.spanId =
    ((others.find? (continues first.1.traceId)).map fun c => c.1.spanId).getD first.1.spanId
  tags : ∀ key, key ≠ Propagation.TRACESTATE_KEY → key ≠ Propagation.DATADOG_LAST_PARENT_ID_KEY →
    result.tags.lookup key = first.1.tags.lookup key

/-- The tags and the tracestate of a context are those of contexts of its trace, and the id of the
last parent is that of one of them. -/
structure OfSameTrace (contexts : List StyledContext) (result : Propagation.SpanContext) :
    Prop where
  tags : ∀ key value, result.tags.lookup key = some value →
    ∃ c ∈ contexts, isOfTrace result.traceId c = true ∧
      (c.1.tags.lookup key = some value ∨
        key = Propagation.DATADOG_LAST_PARENT_ID_KEY ∧
          value = Numeral.hexPadded 16 c.1.spanId.toNat)
  tracestate : ∃ c ∈ contexts, isOfTrace result.traceId c = true ∧
    result.tracestate = c.1.tracestate

section

variable {first : StyledContext} {others : List StyledContext}

/-- The resolution in one step. -/
theorem resolveContexts_eq (h : Extractable (first :: others)) :
    resolveContexts first others =
      { ((others.find? (continues first.1.traceId)).map fun c =>
          mergeTraceContext (first :: others) first.1 c.1).getD first.1 with
        links := (linkedContexts first others).map terminatedLink } := by
  have hprimary := @primary_foldl (first :: others) others first.1
    (h.sublist (List.sublist_cons_self first others)) []
  have hlinks := links_resolveContexts first others
  rw [← hprimary, ← hlinks]
  rfl

/-- Beside a later W3C context the first one is of the Datadog style. -/
theorem datadog_of_continues (h : Extractable (first :: others)) {c : StyledContext}
    (hmem : c ∈ others) (hstyle : c.2 = .traceContext) : first.2 = .datadog := by
  apply (h.styles first (List.mem_cons_self ..)).resolve_right
  intro hfirst
  exact h.not_traceContext_of_mem hfirst hmem hstyle

theorem resolveContexts_resolves (h : Extractable (first :: others)) :
    Resolves first others (resolveContexts first others) := by
  rw [resolveContexts_eq h]
  cases hfind : others.find? (continues first.1.traceId) with
  | none =>
      exact
        { traceId := rfl
          sampling := rfl
          origin := rfl
          isRemote := rfl
          links := rfl
          spanId := by
            rw [hfind]
            rfl
          tags := fun _ _ _ => rfl }
  | some c =>
      have hsame := (continues_eq_true.1 (List.find?_some hfind)).2
      obtain ⟨hsampling, horigin, hremote⟩ :=
        keeps_mergeTraceContext (first :: others) first.1 c.1
      exact
        { traceId := traceId_mergeTraceContext _ _ _
          sampling := hsampling
          origin := horigin
          isRemote := hremote
          links := rfl
          spanId := by
            rw [hfind]
            exact spanId_mergeTraceContext _ _ _ hsame
          tags := fun key hstate hparent => by
            have hmerge := (lookup_mergeTraceContext (first :: others) first.1 c.1 hsame
              key).resolve_right fun hand => hparent hand.1
            have hwith := (lookup_withTracestateOf first.1 c.1 key).resolve_right
              fun hand => hstate hand.1
            exact hmerge.trans hwith }

theorem resolveContexts_ofSameTrace (h : Extractable (first :: others)) :
    OfSameTrace (first :: others) (resolveContexts first others) := by
  have htraceId := (resolveContexts_resolves h).traceId
  have hfirst : isOfTrace (resolveContexts first others).traceId first = true :=
    decide_eq_true htraceId.symm
  rw [resolveContexts_eq h] at hfirst ⊢
  cases hfind : others.find? (continues first.1.traceId) with
  | none =>
      rw [hfind] at hfirst
      exact
        { tags := fun key value hlookup =>
            ⟨first, List.mem_cons_self .., hfirst, .inl hlookup⟩
          tracestate := ⟨first, List.mem_cons_self .., hfirst, rfl⟩ }
  | some c =>
      rw [hfind] at hfirst
      obtain ⟨hstyle, hsame⟩ := continues_eq_true.1 (List.find?_some hfind)
      have hmem := List.mem_of_find?_eq_some hfind
      have hc : isOfTrace (mergeTraceContext (first :: others) first.1 c.1).traceId c = true := by
        rw [traceId_mergeTraceContext]
        exact decide_eq_true hsame
      have hdatadog : (first :: others).find? (fun c => c.2 = .datadog) = some first :=
        List.find?_cons_of_pos (decide_eq_true (datadog_of_continues h hmem hstyle))
      refine { tags := fun key value hlookup => ?_, tracestate := ?_ }
      · rcases lookup_mergeTraceContext (first :: others) first.1 c.1 hsame key with
          hmerge | ⟨hkey, hparent⟩
        · rcases lookup_withTracestateOf first.1 c.1 key with hwith | ⟨hkey, hstate⟩
          · exact ⟨first, List.mem_cons_self .., hfirst,
              .inl (hwith.symm.trans (hmerge.symm.trans hlookup))⟩
          · exact ⟨c, List.mem_cons_of_mem _ hmem, hc,
              .inl (hstate.symm.trans (hmerge.symm.trans hlookup))⟩
        · have hvalue := hparent.symm.trans hlookup
          rw [lastParentIdOf, hdatadog] at hvalue
          rcases Option.or_eq_some_iff.1 hvalue with hown | ⟨-, hspan⟩
          · exact ⟨c, List.mem_cons_of_mem _ hmem, hc, .inl (hkey ▸ hown)⟩
          · exact ⟨first, List.mem_cons_self .., hfirst, .inr ⟨hkey, (Option.some.inj hspan).symm⟩⟩
      · rcases tracestate_mergeTraceContext (first :: others) first.1 c.1 hsame with
          hstate | hstate
        · exact ⟨first, List.mem_cons_self .., hfirst, hstate⟩
        · exact ⟨c, List.mem_cons_of_mem _ hmem, hc, hstate⟩

/-- Without the contexts of other traces the tags and the tracestate are the same. -/
theorem resolveContexts_filter (h : Extractable (first :: others)) :
    (resolveContexts first (others.filter (isOfTrace first.1.traceId))).tags =
        (resolveContexts first others).tags ∧
      (resolveContexts first (others.filter (isOfTrace first.1.traceId))).tracestate =
        (resolveContexts first others).tracestate := by
  have hown := h.sublist
    ((@List.filter_sublist _ (isOfTrace first.1.traceId) others).cons_cons first)
  have hfind : (others.filter (isOfTrace first.1.traceId)).find? (continues first.1.traceId) =
      others.find? (continues first.1.traceId) := by
    rw [List.find?_filter]
    refine congrArg (fun p => others.find? p) (funext fun c => ?_)
    rw [Bool.eq_iff_iff, decide_eq_true_eq]
    exact ⟨fun hand => hand.2, fun hc => ⟨decide_eq_true (continues_eq_true.1 hc).2, hc⟩⟩
  rw [resolveContexts_eq h, resolveContexts_eq hown, hfind]
  cases hfound : others.find? (continues first.1.traceId) with
  | none => exact ⟨rfl, rfl⟩
  | some c =>
      have hstyle := (continues_eq_true.1 (List.find?_some hfound)).1
      have hdatadog := datadog_of_continues h (List.mem_of_find?_eq_some hfound) hstyle
      have hmerge :
          mergeTraceContext (first :: others.filter (isOfTrace first.1.traceId)) first.1 c.1 =
            mergeTraceContext (first :: others) first.1 c.1 := by
        simp only [mergeTraceContext, List.find?_cons, hdatadog, decide_true]
      exact ⟨congrArg (·.tags) hmerge, congrArg (·.tracestate) hmerge⟩

/-- The contexts resolve to the first one, with links to other traces and the data of its own. -/
theorem resolveContexts_spec (h : Extractable (first :: others)) :
    Resolves first others (resolveContexts first others) ∧
      OfSameTrace (first :: others) (resolveContexts first others) ∧
      (resolveContexts first (others.filter (isOfTrace first.1.traceId))).tags =
        (resolveContexts first others).tags ∧
      (resolveContexts first (others.filter (isOfTrace first.1.traceId))).tracestate =
        (resolveContexts first others).tracestate :=
  ⟨resolveContexts_resolves h, resolveContexts_ofSameTrace h, resolveContexts_filter h⟩

end

/-- What is extracted from a carrier is what the contexts of its extractors resolve to.  This is what the
condition `Extractable` stands for: with at most one W3C extractor every carrier meets it, so the laws of
this module are laws of `extract`. -/
theorem resolves_of_extract {ord : IterOrder Str Str}
    {self : Propagation.DatadogCompositePropagator} {carrier : Propagation.Carrier}
    {result : Propagation.SpanContext}
    (hsingle : (self.extractors.filter (· = .traceContext)).length ≤ 1)
    (h : self.extract ord carrier = some result) :
    ∃ first others, self.extractAvailableContexts ord carrier = first :: others ∧
      Resolves first others result ∧ OfSameTrace (first :: others) result := by
  have hextractable := extractable_extractAvailableContexts ord carrier hsingle
  unfold Propagation.DatadogCompositePropagator.extract at h
  cases hcontexts : self.extractAvailableContexts ord carrier with
  | nil => simp [hcontexts] at h
  | cons first others =>
      rw [hcontexts] at h hextractable
      cases h
      exact ⟨first, others, rfl, resolveContexts_resolves hextractable,
        resolveContexts_ofSameTrace hextractable⟩

/-! A Datadog context, the W3C context of its trace, and a context of another trace. -/

def resolvedContext : StyledContext :=
  ({ sampleContext 1 2 with
      tags := AList.insert Propagation.TRACESTATE_KEY "foo=1".toList ∅ }, .traceContext)

def unrelatedContext : StyledContext :=
  ({ sampleContext 5 7 with
      tags := AList.insert Propagation.TRACESTATE_KEY "bar=1".toList ∅ }, .datadog)

/-- The span id is the one of the W3C context, and the last parent that of the Datadog context. -/
theorem resolveContexts_spec_sample :
    let result := resolveContexts samplePrimary [unrelatedContext, resolvedContext]
    result.traceId = 1 ∧ result.spanId = 2 ∧
      result.links = [terminatedLink unrelatedContext] ∧
      (resolveContexts samplePrimary [resolvedContext]).tags = result.tags ∧
      ∀ value, result.tags.lookup Propagation.TRACESTATE_KEY = some value →
        value = "foo=1".toList := by
  have h : Extractable [samplePrimary, unrelatedContext, resolvedContext] :=
    { styles := by decide
      single := by decide
      ids := by decide }
  obtain ⟨hresolves, hsame, htags, -⟩ := resolveContexts_spec h
  refine ⟨hresolves.traceId, hresolves.spanId, hresolves.links, htags, ?_⟩
  intro value hlookup
  obtain ⟨c, hmem, htrace, howned⟩ := hsame.tags _ value hlookup
  have hkey : Propagation.TRACESTATE_KEY ≠ Propagation.DATADOG_LAST_PARENT_ID_KEY := by decide
  have hvalue := howned.resolve_right fun hand => hkey hand.1
  rcases List.mem_cons.1 hmem with rfl | hmem
  · cases hvalue
  · rcases List.mem_cons.1 hmem with rfl | hmem
    · cases htrace
    · cases List.mem_singleton.1 hmem
      exact (Option.some.inj hvalue).symm

end Otel
end DdTrace
