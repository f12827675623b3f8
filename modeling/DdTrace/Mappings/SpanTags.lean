import DdTrace.Mappings.ExplicitTags

/-!
# SpanTags — the tags that the attributes of a span set

An attribute is exported as a tag under its own key, or looked up for a tag with another one.
`spanText` is the text that the attributes of a span give a tag, were they the only ones to write it.
The resource, the scope, the description of the span and the exception events write to the same tags;
`tag_eq_iff_keepsSpanText` says when what the span sets is what the mapping gives.
-/

namespace DdTrace
namespace Mappings

open DdTrace.Lib DdTrace.Core DdTrace.Otel

variable (api : MappingApi) (s : SpanData)

/-! ## What the attributes say -/

/-- The texts of the attributes that are exported under a key. -/
def spanTexts (k : Str) : List Str := s.attributes.filterMap (attributeText api k)

/-- The status code of the attributes; zero if there is none. -/
def statusCode (view : OtelSpan) : UInt32 :=
  match view.getAttrNum u32TryFrom DATADOG_HTTP_STATUS_CODE with
  | some httpStatusCode => httpStatusCode
  | none => getOtelStatusCode view

def statusCodeText (view : OtelSpan) (k : Str) : Option Str :=
  if k = "http.status_code".toList ∧ statusCode view ≠ 0 then
    some (Numeral.decimal (statusCode view).toNat)
  else none

/-- The text of the attributes that are looked up for a key. -/
def lookedUpText (k : Str) : Option Str :=
  let view := viewOf api s ∅
  (explicitText view k).or ((statusCodeText view k).or
    (if k = "span.kind".toList then view.getAttrStrOpt DATADOG_SPAN_KIND else none))

/-- The text that the attributes give a tag. -/
def spanText (k : Str) : Option Str := (spanTexts api s k).foldl (writeText k) (lookedUpText api s k)

/-- The attributes of the span set a tag. -/
def SpanSets (k v : Str) : Prop := IsTagKey k ∧ spanText api s k = some v

/-! ## The other writers -/

variable (otelResource : Resource)

/-- The texts that the scope has for a key. -/
abbrev scopeTexts (k : Str) : List Str := s.instrumentationScope.attributes.filterMap (scopeText api k)

/-- The texts that the resource has for a key. -/
abbrev resourceTexts (k : Str) : List Str :=
  (api.resourceOrder.iter otelResource).filterMap (resourceText api k)

/-- The text of the resource that keeps the attributes out: the first one that is not empty, and
without any the version of the service. -/
def resourceTag (k : Str) : Option Str :=
  ((resourceTexts api otelResource k).find? fun text => !text.isEmpty).or
    (if resourceTexts api otelResource k = [] then
      defaultText "version".toList (serviceVersion api otelResource) k
    else none)

/-- For the keys of `isMetaKey`: what the scope has written is the same text, or it has written
nothing and the text was looked up, or the resource has written nothing else. -/
def ScopeAgrees (k v : Str) : Option Str → Prop
  | some [] =>
      -- an empty text of the scope lets the attributes in, but not the ones that are looked up
      ((spanTexts api s k).find? fun text => !text.isEmpty).getD [] = v
  | some (c :: written) => c :: written = v
  | none => (lookedUpText api s k).isSome ∨ ∀ written ∈ resourceTag api otelResource k, written = v

/-- The scope and the resource, which write before the attributes, leave a text alone or write the
same. -/
def EarlierAgree (k v : Str) : Prop :=
  if isMetaKey k then ScopeAgrees api s otelResource k v (scopeTexts api s k).getLast?
  else
    spanTexts api s k ≠ [] ∨
      ∀ written ∈ (scopeTexts api s k).getLast?.or (resourceTexts api otelResource k).getLast?,
        written = v

/-- What is written after the attributes: the description of the span, and the exception events. -/
def laterText (k : Str) : Option Str :=
  (exceptionWrite api s otelResource k).or (descriptionText s k)

/-- The other writers leave a text of the span alone, or write the same. -/
def KeepsSpanText (k v : Str) : Prop :=
  if (laterText api s otelResource k).isSome then laterText api s otelResource k = some v
  else EarlierAgree api s otelResource k v

instance (k v : Str) : ∀ written, Decidable (ScopeAgrees api s otelResource k v written)
  | some [] =>
      inferInstanceAs
        (Decidable (((spanTexts api s k).find? fun text => !text.isEmpty).getD [] = v))
  | some (c :: written) => inferInstanceAs (Decidable (c :: written = v))
  | none =>
      inferInstanceAs (Decidable ((lookedUpText api s k).isSome ∨
        ∀ written ∈ resourceTag api otelResource k, written = v))

instance (k v : Str) : Decidable (EarlierAgree api s otelResource k v) :=
  inferInstanceAs (Decidable (if isMetaKey k then _ else _))

instance (k v : Str) : Decidable (KeepsSpanText api s otelResource k v) :=
  inferInstanceAs (Decidable (if (laterText api s otelResource k).isSome then _ else _))

variable {api s otelResource} {k v : Str}

/-! ## What is looked up -/

theorem tag_minimal :
    (otelSpanToDdSpanMinimal api (.new s otelResource) false).tag k =
      (statusCodeText (viewOf api s otelResource) k).or
        (if k = "span.kind".toList then
          some (((viewOf api s ∅).getAttrStrOpt DATADOG_SPAN_KIND).getD (spanKindStr s.spanKind))
        else none) := by
  have hmetric : ∀ (ddSpan : DdSpan) (p : Prop) [Decidable p] key v,
      (if p then ddSpan.insertMetric key v else ddSpan).tag k = ddSpan.tag k := by
    intro ddSpan p _ key v
    split_ifs <;> rfl
  have hkind : ∀ ddSpan : DdSpan, ∀ kind, ddSpan.tag k = none →
      (ddSpan.insertMeta "span.kind".toList kind).tag k =
        if k = "span.kind".toList then some kind else none := by
    intro ddSpan kind hnone
    rw [tag_insertMeta, hnone, Option.or_none]
    exact if_congr eq_comm rfl rfl
  simp only [otelSpanToDdSpanMinimal, hmetric]
  rw [apply_ite (DdSpan.tag k), tag_insertMeta, hkind _ _ rfl]
  change (if statusCode (viewOf api s otelResource) ≠ 0 then
    (if "http.status_code".toList = k then
      some (Numeral.decimal (statusCode (viewOf api s otelResource)).toNat) else none).or _ else _) =
        _
  by_cases hcode : statusCode (viewOf api s otelResource) = 0
  · have hnone : statusCodeText (viewOf api s otelResource) k = none := if_neg fun h => h.2 hcode
    rw [if_neg (not_not.2 hcode), hnone, Option.none_or]
    rfl
  · rw [if_pos hcode]
    refine congrArg (Option.or · _) (if_congr ?_ rfl rfl)
    exact ⟨fun hkey => ⟨hkey.symm, hcode⟩, fun h => h.1.symm⟩

theorem lookedUpText_eq (h : k ≠ "span.kind".toList) :
    lookedUpText api s k = (explicitText (viewOf api s otelResource) k).or
      ((otelSpanToDdSpanMinimal api (.new s otelResource) false).tag k) := by
  rw [tag_minimal, if_neg h]
  simp only [lookedUpText, if_neg h]
  rfl

/-- A text that is looked up for a key of `isMetaKey` is not empty. -/
theorem lookedUpText_ne_nil (h : isMetaKey k) (hlook : lookedUpText api s k = some v) : v ≠ [] := by
  have hkind : k ≠ "span.kind".toList := ne_of_isMetaKey h rfl
  simp only [lookedUpText, if_neg hkind, Option.or_none, Option.or_eq_some_iff] at hlook
  rcases hlook with hexplicit | ⟨-, hcode⟩
  · have hmem := List.mem_of_getLast? hexplicit
    obtain ⟨keys, -, htext⟩ := List.mem_filterMap.1 hmem
    split_ifs at htext
    rintro rfl
    unfold nonemptyText at htext
    split_ifs at htext with hempty
    exact hempty (Option.some.inj htext)
  · unfold statusCodeText at hcode
    split_ifs at hcode
    rw [← Option.some.inj hcode]
    exact Nat.toDigits_ne_nil

theorem explicitText_of_not_isMetaKey (h : isMetaKey k = false) (view : OtelSpan) :
    explicitText view k = none := by
  rw [explicitText, List.getLast?_eq_none_iff, List.filterMap_eq_nil_iff]
  intro keys hmem
  exact if_neg (ne_of_isMetaKey (keys_isMetaKey keys hmem) h)

theorem lookedUpText_of_not_isMetaKey (h : isMetaKey k = false)
    (hlook : lookedUpText api s k = some v) :
    k = "span.kind".toList ∧ (viewOf api s ∅).getAttrStrOpt DATADOG_SPAN_KIND = some v := by
  have hcode : statusCodeText (viewOf api s ∅) k = none := by
    have hne : k ≠ "http.status_code".toList := by
      rintro rfl
      cases h
    exact if_neg fun hboth => hne hboth.1
  simp only [lookedUpText, explicitText_of_not_isMetaKey h, hcode, Option.none_or] at hlook
  split_ifs at hlook with hkind
  exact ⟨hkind, hlook⟩

/-- The keys for which the span may have a text. -/
def spanKeys (s : SpanData) : List Str :=
  "span.kind".toList :: DD_SEMANTICS_KEY_TO_META_KEY.map Prod.snd ++
    s.attributes.map fun kv => getDdKeyForOtlpAttribute kv.key

theorem mem_semantics_of_isMetaKey (h : isMetaKey k) :
    k ∈ DD_SEMANTICS_KEY_TO_META_KEY.map Prod.snd := by
  simp only [isMetaKey, Bool.or_eq_true, decide_eq_true_eq] at h
  rcases h with ((((rfl | rfl) | rfl) | rfl) | rfl) | rfl <;> decide

theorem mem_spanKeys_of_spanSets (h : SpanSets api s k v) : k ∈ spanKeys s := by
  by_cases htexts : spanTexts api s k = []
  · -- nothing is exported under the key, so the text is looked up
    have hlook : lookedUpText api s k = some v := by
      have htext := h.2
      rwa [spanText, htexts] at htext
    refine List.mem_append_left _ ?_
    by_cases hmeta : isMetaKey k
    · exact List.mem_cons_of_mem _ (mem_semantics_of_isMetaKey hmeta)
    · obtain ⟨rfl, -⟩ := lookedUpText_of_not_isMetaKey (by simpa using hmeta) hlook
      exact List.mem_cons_self ..
  · obtain ⟨text, htext⟩ := List.exists_mem_of_ne_nil _ htexts
    obtain ⟨kv, hmem, hattribute⟩ := List.mem_filterMap.1 htext
    unfold attributeText at hattribute
    split_ifs at hattribute with hkey
    rw [← hkey]
    exact List.mem_append_right _ (List.mem_map_of_mem hmem)

/-! ## What the mapping gives -/

/-- Where nothing is looked up and the scope has no text, the resource counts before the attributes. -/
theorem foldl_resource (h : spanTexts api s k ≠ []) :
    (spanTexts api s k).foldl fillEmpty (((resourceTexts api otelResource k).foldl fillEmpty none).or
        (defaultText "version".toList (serviceVersion api otelResource) k)) =
      some ((resourceTag api otelResource k).getD
        (((spanTexts api s k).find? fun text => !text.isEmpty).getD [])) := by
  unfold resourceTag
  by_cases hempty : resourceTexts api otelResource k = []
  · -- the version of the service is not empty
    rw [hempty, if_pos rfl]
    simp only [List.foldl_nil, List.find?_nil, Option.none_or]
    cases hversion : defaultText "version".toList (serviceVersion api otelResource) k with
    | none => exact foldl_fillEmpty_none h
    | some version =>
        have hne : version ≠ [] := by
          unfold defaultText nonemptyText at hversion
          split_ifs at hversion with hkey hnil
          rw [← Option.some.inj hversion]
          exact hnil
        exact foldl_fillEmpty_of_ne_nil hne _
  · rw [foldl_fillEmpty_none hempty, if_neg hempty, Option.some_or, Option.or_none]
    cases hfind : (resourceTexts api otelResource k).find? fun text => !text.isEmpty with
    | none => exact foldl_fillEmpty_nil _
    | some written =>
        have hne : written ≠ [] := by
          have hnonempty := List.find?_some hfind
          simpa using hnonempty
        exact foldl_fillEmpty_of_ne_nil hne _

theorem tagAfterAttributes_of_isMetaKey (hmeta : isMetaKey k) (h : spanText api s k = some v) :
    ∃ text, tagAfterAttributes api s otelResource k = some text ∧
      (text = v ↔ ScopeAgrees api s otelResource k v (scopeTexts api s k).getLast?) := by
  have htraceId : "otel.trace_id".toList ≠ k := Ne.symm (ne_of_isMetaKey hmeta rfl)
  rw [spanText, writeText_of_isMetaKey hmeta] at h
  have hafter : tagAfterAttributes api s otelResource k =
      (spanTexts api s k).foldl fillEmpty (((scopeTexts api s k).getLast?.or
        ((resourceTexts api otelResource k).foldl fillEmpty (lookedUpText api s k))).or
          (defaultText "version".toList (serviceVersion api otelResource) k)) := by
    rw [lookedUpText_eq (ne_of_isMetaKey hmeta rfl)]
    simp only [tagAfterAttributes, tagBeforeAttributes, writeText_of_isMetaKey hmeta,
      if_neg htraceId, Option.none_or]
    rfl
  rw [hafter]
  cases hscope : (scopeTexts api s k).getLast? with
  | some written =>
      cases written with
      | nil => exact ⟨_, foldl_fillEmpty_nil _, Iff.rfl⟩
      | cons c written => exact ⟨_, foldl_fillEmpty_of_ne_nil (List.cons_ne_nil c written) _, Iff.rfl⟩
  | none =>
      rw [Option.none_or]
      cases hlook : lookedUpText api s k with
      | some text =>
          have hne : text ≠ [] := lookedUpText_ne_nil hmeta hlook
          rw [hlook, foldl_fillEmpty_of_ne_nil hne] at h
          rw [foldl_fillEmpty_of_ne_nil hne, Option.some_or, foldl_fillEmpty_of_ne_nil hne]
          exact ⟨text, rfl, fun _ => .inl (by rw [hlook]; rfl), fun _ => Option.some.inj h⟩
      | none =>
          have htexts : spanTexts api s k ≠ [] := by
            intro hempty
            rw [hlook, hempty] at h
            cases h
          rw [hlook, foldl_fillEmpty_none htexts] at h
          refine ⟨_, foldl_resource htexts, ?_⟩
          rw [Option.some.inj h]
          simp only [ScopeAgrees, hlook]
          cases resourceTag api otelResource k with
          | none => simp
          | some written => simp

theorem tagAfterAttributes_of_not_isMetaKey (hmeta : isMetaKey k = false)
    (h : spanText api s k = some v) :
    ∃ text, tagAfterAttributes api s otelResource k = some text ∧
      (text = v ↔ spanTexts api s k ≠ [] ∨
        ∀ written ∈ (scopeTexts api s k).getLast?.or (resourceTexts api otelResource k).getLast?,
          written = v) := by
  rw [spanText, foldl_writeText hmeta] at h
  have hafter : tagAfterAttributes api s otelResource k = (spanTexts api s k).getLast?.or
      (tagBeforeAttributes api s otelResource k
        ((otelSpanToDdSpanMinimal api (.new s otelResource) false).tag k)) :=
    foldl_writeText hmeta _ _
  rw [hafter]
  cases hlast : (spanTexts api s k).getLast? with
  | some last =>
      rw [hlast] at h
      have htexts : spanTexts api s k ≠ [] := by
        intro hempty
        rw [hempty] at hlast
        cases hlast
      exact ⟨last, rfl, fun _ => .inl htexts, fun _ => Option.some.inj h⟩
  | none =>
      -- only the kind of the span is looked up
      rw [hlast, Option.none_or] at h
      obtain ⟨rfl, hkind⟩ := lookedUpText_of_not_isMetaKey hmeta h
      have hminimal : (otelSpanToDdSpanMinimal api (.new s otelResource) false).tag
          "span.kind".toList = some v := by
        rw [tag_minimal, hkind]
        rfl
      have hbefore : tagBeforeAttributes api s otelResource "span.kind".toList (some v) =
          ((scopeTexts api s "span.kind".toList).getLast?.or
            (resourceTexts api otelResource "span.kind".toList).getLast?).or (some v) := by
        have htraceId : "otel.trace_id".toList ≠ "span.kind".toList := by decide
        have hversion : "span.kind".toList ≠ "version".toList := by decide
        simp only [tagBeforeAttributes, if_neg htraceId, foldl_writeText hmeta,
          explicitText_of_not_isMetaKey hmeta, defaultText_of_ne hversion, Option.none_or,
          Option.or_none, Option.or_assoc]
      have htexts : spanTexts api s "span.kind".toList = [] := List.getLast?_eq_none_iff.1 hlast
      rw [hminimal, Option.none_or, hbefore, htexts]
      cases (scopeTexts api s "span.kind".toList).getLast?.or
          (resourceTexts api otelResource "span.kind".toList).getLast? with
      | none => simp
      | some written => simp

theorem tagAfterAttributes_of_spanSets (h : SpanSets api s k v) :
    ∃ text, tagAfterAttributes api s otelResource k = some text ∧
      (text = v ↔ EarlierAgree api s otelResource k v) := by
  unfold EarlierAgree
  split_ifs with hmeta
  · exact tagAfterAttributes_of_isMetaKey hmeta h.2
  · exact tagAfterAttributes_of_not_isMetaKey (by simpa using hmeta) h.2

theorem tag_eq_iff_keepsSpanText (h : SpanSets api s k v) :
    (otelSpanToDdSpan api s otelResource).tag k = some v ↔ KeepsSpanText api s otelResource k v := by
  obtain ⟨text, htext, hagree⟩ := @tagAfterAttributes_of_spanSets api s otelResource k v h
  have hbefore : (beforeError api s otelResource).tag k =
      (descriptionText s k).or (some text) := by
    rw [tag_beforeError api s otelResource h.1, htext]
    rfl
  have hsome : ((beforeError api s otelResource).tag k).isSome := by
    rw [hbefore, Option.isSome_or]
    simp
  have htag : (otelSpanToDdSpan api s otelResource).tag k =
      (laterText api s otelResource k).or (some text) := by
    rw [otelSpanToDdSpan_eq, tag_setError api hsome, spanEvents_beforeError, hbefore]
    simp only [hasErrorTags_beforeError, exceptionWrite, laterText]
    split_ifs
    · rw [Option.none_or]
    · rw [Option.or_assoc]
  rw [htag, KeepsSpanText]
  cases laterText api s otelResource k with
  | none => simpa using hagree
  | some written => simp

end Mappings
end DdTrace
