import DdTrace.Mappings.Transform

/-!
# TagWrites — who writes the tags of a span

A tag has several writers, each with its own rule.  Resource and attributes write over what is there,
but to the keys of `isMetaKey` only until a nonempty text stands there (`fillEmpty`); the scope, what
describes the span and the exception events overwrite, the defaults of version and environment only
fill a gap.  For each stage of the mapping a lemma says what it does to the value of one key.
-/

namespace DdTrace
namespace Mappings

open DdTrace.Lib DdTrace.Core DdTrace.Otel

/-- The value of a text tag. -/
abbrev DdSpan.tag (k : Str) (self : DdSpan) : Option Str := self.metaTags.lookup k

/-! ## The rule of resource and attributes -/

/-- A nonempty text stays. -/
def fillEmpty (old : Option Str) (text : Str) : Option Str :=
  if old.any fun v => !v.isEmpty then old else some text

theorem fillEmpty_of_ne_nil {v : Str} (h : v ≠ []) (text : Str) :
    fillEmpty (some v) text = some v := by
  simp [fillEmpty, h]

theorem foldl_fillEmpty_of_ne_nil {v : Str} (h : v ≠ []) (texts : List Str) :
    texts.foldl fillEmpty (some v) = some v := by
  induction texts with
  | nil => rfl
  | cons text texts ih =>
      rw [List.foldl_cons, fillEmpty_of_ne_nil h]
      exact ih

/-- An empty text gives way to the first one that is not. -/
theorem foldl_fillEmpty_nil (texts : List Str) :
    texts.foldl fillEmpty (some []) = some ((texts.find? fun text => !text.isEmpty).getD []) := by
  induction texts with
  | nil => rfl
  | cons text texts ih =>
      cases text with
      | nil => exact ih
      | cons c text => exact foldl_fillEmpty_of_ne_nil (List.cons_ne_nil c text) texts

theorem isSome_fillEmpty (old : Option Str) (text : Str) : (fillEmpty old text).isSome := by
  cases old with
  | none => rfl
  | some v =>
      unfold fillEmpty
      split
      · rfl
      · rfl

/-- Something stands there if it did before, or if it was written. -/
theorem isSome_foldl_fillEmpty (texts : List Str) (old : Option Str) :
    (texts.foldl fillEmpty old).isSome ↔ old.isSome ∨ texts ≠ [] := by
  induction texts generalizing old with
  | nil => simp
  | cons text texts ih => simp [ih, isSome_fillEmpty]

/-- The first text is written, and then it is as if an empty one had stood there. -/
theorem foldl_fillEmpty_none {texts : List Str} (h : texts ≠ []) :
    texts.foldl fillEmpty none = some ((texts.find? fun text => !text.isEmpty).getD []) := by
  cases texts with
  | nil => exact absurd rfl h
  | cons text texts =>
      have hfirst : fillEmpty none text = fillEmpty (some []) text := rfl
      rw [List.foldl_cons, hfirst, ← List.foldl_cons (f := fillEmpty)]
      exact foldl_fillEmpty_nil (text :: texts)

/-- How an attribute is written. -/
def writeText (k : Str) (old : Option Str) (text : Str) : Option Str :=
  if isMetaKey k then fillEmpty old text else some text

theorem foldl_writeText {k : Str} (h : isMetaKey k = false) (texts : List Str) (old : Option Str) :
    texts.foldl (writeText k) old = texts.getLast?.or old := by
  have hwrite : ∀ old, ∀ text ∈ texts, writeText k old text = (some text).or old :=
    fun _ _ _ => if_neg (by simp [h])
  have hfold := Frame.get_foldl_of_overwrites id hwrite old
  rwa [List.filterMap_some] at hfold

/-- Only a nonempty text is written. -/
def nonemptyText (text : Str) : Option Str := if text = [] then none else some text

@[simp] theorem nonemptyText_nil : nonemptyText [] = none := rfl

@[simp] theorem nonemptyText_cons (c : Char) (text : Str) :
    nonemptyText (c :: text) = some (c :: text) :=
  rfl

theorem nonemptyText_of_ne_nil {text : Str} (h : text ≠ []) : nonemptyText text = some text :=
  if_neg h

/-! ## Keys -/

variable {k : Str}

theorem ne_of_isMetaKey (h : isMetaKey k) {k' : Str} (h' : isMetaKey k' = false) : k ≠ k' := by
  rintro rfl
  exact absurd (h.symm.trans h') (by decide)

/-- The keys of no tag: the empty one is not exported, four are fields of the span, one is a metric. -/
def FIELD_KEYS : List Str :=
  [[], "operation.name".toList, "service.name".toList, "resource.name".toList, "span.type".toList,
   "analytics.event".toList]

def IsTagKey (k : Str) : Prop := k ∉ FIELD_KEYS

instance (k : Str) : Decidable (IsTagKey k) := inferInstanceAs (Decidable (k ∉ FIELD_KEYS))

theorem isTagKey_of_isMetaKey (h : isMetaKey k) : IsTagKey k := by
  have hfields : ∀ key ∈ FIELD_KEYS, isMetaKey key = false := by decide
  intro hmem
  exact ne_of_isMetaKey h (hfields k hmem) rfl

theorem writeText_of_isMetaKey (h : isMetaKey k) : writeText k = fillEmpty := by
  funext old text
  exact if_pos h

/-- The `datadog.` attributes are not exported themselves. -/
theorem getDdKeyForOtlpAttribute_of_datadog {key : Str} (h : "datadog.".toList.isPrefixOf key) :
    getDdKeyForOtlpAttribute key = [] := by
  obtain ⟨rest, rfl⟩ := List.isPrefixOf_iff_prefix.1 h
  rfl

variable (api : MappingApi)

theorem setMetaOtlp_of_isTagKey (h : IsTagKey k) (v : Str) (ddSpan : DdSpan) :
    setMetaOtlp api k v ddSpan = ddSpan.insertMeta k v := by
  simp only [IsTagKey, FIELD_KEYS, List.mem_cons, List.not_mem_nil, or_false, not_or] at h
  obtain ⟨-, hname, hservice, hresource, htype, hanalytics⟩ := h
  simp only [setMetaOtlp]
  rw [if_neg hname, if_neg hservice, if_neg hresource, if_neg htype, if_neg hanalytics]

/-- A text that is inserted under a key is the tag of that key. -/
theorem tag_insertMeta (k key text : Str) (ddSpan : DdSpan) :
    (ddSpan.insertMeta key text).tag k =
      (if key = k then some text else none).or (ddSpan.tag k) := by
  split_ifs with hkey
  · rw [hkey]
    exact DdSpan.lookup_insertMeta_self ddSpan k text
  · exact DdSpan.lookup_insertMeta_ne (Ne.symm hkey) ddSpan text

/-! ## Resource and attributes -/

theorem tag_setMetaOtlpWithSemconvMappings (h : IsTagKey k) (key : Str) (value : Value)
    (ddSpan : DdSpan) :
    (setMetaOtlpWithSemconvMappings api key value ddSpan).tag k =
      if getDdKeyForOtlpAttribute key = k then
        writeText k (ddSpan.tag k) (otelValueStringRepr api value)
      else ddSpan.tag k := by
  simp only [setMetaOtlpWithSemconvMappings]
  by_cases hkey : getDdKeyForOtlpAttribute key = k
  · have hne : k ≠ [] := by
      rintro rfl
      exact h (List.mem_cons_self ..)
    rw [hkey, if_pos rfl, if_neg (by simp [hne])]
    by_cases hstays : isMetaKey k ∧ (ddSpan.tag k).any fun v => !v.isEmpty
    · rw [if_pos hstays, writeText, if_pos hstays.1, fillEmpty, if_pos hstays.2]
    · have hwrite : writeText k (ddSpan.tag k) (otelValueStringRepr api value) =
          some (otelValueStringRepr api value) := by
        simp only [writeText, fillEmpty]
        split_ifs with hmeta hold
        · exact absurd ⟨hmeta, hold⟩ hstays
        · rfl
        · rfl
      rw [if_neg hstays, hwrite, setMetaOtlp_of_isTagKey api h]
      exact DdSpan.lookup_insertMeta_self _ _ _
  · rw [if_neg hkey]
    split_ifs
    · rfl
    · rfl
    · exact lookup_setMetaOtlp_ne api (Ne.symm hkey) _ ddSpan

/-- The text that an entry of the resource has for a key. -/
def resourceText (k : Str) (kv : Str × Value) : Option Str :=
  if getDdKeyForOtlpAttribute kv.1 = k then some (otelValueStringRepr api kv.2) else none

theorem tag_resource (h : IsTagKey k) (entries : List (Str × Value)) (ddSpan : DdSpan) :
    (entries.foldl (fun ddSpan kv => setMetaOtlpWithSemconvMappings api kv.1 kv.2 ddSpan)
        ddSpan).tag k =
      (entries.filterMap (resourceText api k)).foldl (writeText k) (ddSpan.tag k) := by
  rw [List.foldl_filterMap]
  refine (List.foldl_hom (DdSpan.tag k) ?_).symm
  intro ddSpan kv
  rw [tag_setMetaOtlpWithSemconvMappings api h, resourceText]
  split_ifs <;> rfl

/-- The text that an attribute of the span has for a key; numbers become metrics. -/
def attributeText (k : Str) (kv : KeyValue) : Option Str :=
  if getDdKeyForOtlpAttribute kv.key = k then
    match kv.value with
    | .i64 _ => none
    | .f64 _ => none
    | value => some (otelValueStringRepr api value)
  else none

theorem tag_setMetricOtlpWithSemconvMappings (k key : Str) (value : F64) (ddSpan : DdSpan) :
    (setMetricOtlpWithSemconvMappings key value ddSpan).tag k = ddSpan.tag k :=
  congrArg (AList.lookup k) (metaTags_setMetricOtlpWithSemconvMappings key value ddSpan)

theorem tag_setAttribute (h : IsTagKey k) (ddSpan : DdSpan) (kv : KeyValue) :
    (setAttribute api ddSpan kv).tag k =
      (attributeText api k kv).elim (ddSpan.tag k) (writeText k (ddSpan.tag k)) := by
  rcases kv with ⟨key, value⟩
  simp only [setAttribute, attributeText]
  by_cases hkey : getDdKeyForOtlpAttribute key = k
  · have hdatadog : ¬ "datadog.".toList.isPrefixOf key := by
      intro hprefix
      rw [getDdKeyForOtlpAttribute_of_datadog hprefix] at hkey
      exact h (hkey ▸ List.mem_cons_self ..)
    rw [if_neg hdatadog, if_pos hkey]
    cases value with
    | i64 v => exact tag_setMetricOtlpWithSemconvMappings k key _ ddSpan
    | f64 v => exact tag_setMetricOtlpWithSemconvMappings k key v ddSpan
    | bool b => exact (tag_setMetaOtlpWithSemconvMappings api h _ _ _).trans (if_pos hkey)
    | string s => exact (tag_setMetaOtlpWithSemconvMappings api h _ _ _).trans (if_pos hkey)
    | array items => exact (tag_setMetaOtlpWithSemconvMappings api h _ _ _).trans (if_pos hkey)
  · rw [if_neg hkey]
    split_ifs
    · rfl
    · cases value with
      | i64 v => exact tag_setMetricOtlpWithSemconvMappings k key _ ddSpan
      | f64 v => exact tag_setMetricOtlpWithSemconvMappings k key v ddSpan
      | bool b => exact (tag_setMetaOtlpWithSemconvMappings api h _ _ _).trans (if_neg hkey)
      | string s => exact (tag_setMetaOtlpWithSemconvMappings api h _ _ _).trans (if_neg hkey)
      | array items => exact (tag_setMetaOtlpWithSemconvMappings api h _ _ _).trans (if_neg hkey)

theorem tag_attributes (h : IsTagKey k) (attributes : List KeyValue) (ddSpan : DdSpan) :
    (attributes.foldl (setAttribute api) ddSpan).tag k =
      (attributes.filterMap (attributeText api k)).foldl (writeText k) (ddSpan.tag k) := by
  rw [List.foldl_filterMap]
  refine (List.foldl_hom (DdSpan.tag k) ?_).symm
  intro ddSpan kv
  rw [tag_setAttribute api h]
  cases attributeText api k kv with
  | none => rfl
  | some text => rfl

/-! ## The scope -/

/-- The text that an attribute of the scope has for a key. -/
def scopeText (k : Str) (kv : KeyValue) : Option Str :=
  if kv.key = k then some (api.valueToString kv.value) else none

theorem tag_scope (k : Str) (attributes : List KeyValue) (ddSpan : DdSpan) :
    (attributes.foldl (fun ddSpan kv => ddSpan.insertMeta kv.key (api.valueToString kv.value))
        ddSpan).tag k =
      (attributes.filterMap (scopeText api k)).getLast?.or (ddSpan.tag k) := by
  refine Frame.get_foldl_of_overwrites (DdSpan.tag k) ?_ ddSpan
  intro ddSpan kv _
  exact tag_insertMeta k kv.key _ ddSpan

/-! ## Gaps and other keys -/

theorem tag_fillMeta (k v : Str) (ddSpan : DdSpan) :
    (ddSpan.fillMeta k v).tag k = (ddSpan.tag k).or (nonemptyText v) := by
  simp only [DdSpan.fillMeta]
  cases hold : ddSpan.tag k with
  | none =>
      cases v with
      | nil => simpa using hold
      | cons c v =>
          rw [if_pos ⟨by simpa using hold, rfl⟩]
          exact DdSpan.lookup_insertMeta_self _ _ _
  | some old =>
      rw [if_neg (by simp [hold])]
      exact hold

theorem ignoresTag_of_ne {k' : Str} (h : k ≠ k') : IgnoresTag (DdSpan.tag k) k' :=
  fun v ddSpan => DdSpan.lookup_insertMeta_ne h ddSpan v

theorem ignoresTag_of_isMetaKey (h : isMetaKey k) {k' : Str} (h' : isMetaKey k' = false) :
    IgnoresTag (DdSpan.tag k) k' :=
  ignoresTag_of_ne (ne_of_isMetaKey h h')

/-- The span with its links and events. -/
def setLists (span : SpanData) (ddSpan : DdSpan) : DdSpan :=
  { ddSpan with
    spanLinks := span.links.map (toDdSpanLink api)
    spanEvents := span.events.map toDdSpanEvent }

/-- What is set after the attributes, up to the error. -/
def setDescription (span : SpanData) (ddSpan : DdSpan) : DdSpan :=
  setStatus span.status (setScope span.instrumentationScope
    (setTraceState span.spanContext.traceState (tagSpanIfContainsException
      (setLists api span ddSpan))))

/-- The description writes none of these keys. -/
theorem get_setDescription {B : Type} {get : DdSpan → B}
    (h : ∀ k, isMetaKey k = false → IgnoresTag get k) (span : SpanData) (ddSpan : DdSpan) :
    get (setDescription api span ddSpan) = get (setLists api span ddSpan) := by
  have hstatus := keeps_setStatus (h _ rfl) (h _ rfl) span.status
  have hscope := keeps_setScope (h _ rfl) (h _ rfl) span.instrumentationScope
  have htraceState := keeps_setTraceState (h _ rfl) span.spanContext.traceState
  have hexception := keeps_tagSpanIfContainsException (h _ rfl)
  exact hstatus.comp (hscope.comp (htraceState.comp hexception)) _

/-- The description writes none of the keys of `datadog.` attributes. -/
theorem tag_setDescription_of_isMetaKey (h : isMetaKey k) (span : SpanData) (ddSpan : DdSpan) :
    (setDescription api span ddSpan).tag k = ddSpan.tag k :=
  get_setDescription api (fun _ h' => ignoresTag_of_isMetaKey h h') span ddSpan

/-! The tags of the description, in the order in which they are written. -/

def exceptionTags (span : SpanData) : List (Str × Str) :=
  if hasException span then [(HAS_EXCEPTION_KEY, "true".toList)] else []

def traceStateTags (traceState : TraceState) : List (Str × Str) :=
  if !traceState.header.isEmpty then [("w3c.tracestate".toList, traceState.header)] else []

def scopeTags (scope : InstrumentationScope) : List (Str × Str) :=
  (if !scope.name.isEmpty then [("otel.scope.name".toList, scope.name)] else []) ++
    match scope.version.filter fun version => !version.isEmpty with
    | some version => [("otel.scope.version".toList, version)]
    | none => []

def statusTags (status : Status) : List (Str × Str) :=
  ("otel.status_code".toList, statusStr status) ::
    match status with
    | .error description =>
        if !description.isEmpty then [("otel.status_description".toList, description)] else []
    | _ => []

def descriptionTags (span : SpanData) : List (Str × Str) :=
  exceptionTags span ++ traceStateTags span.spanContext.traceState ++
    scopeTags span.instrumentationScope ++ statusTags span.status

def insertTag (ddSpan : DdSpan) (tag : Str × Str) : DdSpan := ddSpan.insertMeta tag.1 tag.2

theorem setTraceState_eq (traceState : TraceState) (ddSpan : DdSpan) :
    setTraceState traceState ddSpan = (traceStateTags traceState).foldl insertTag ddSpan := by
  unfold setTraceState traceStateTags
  split_ifs <;> rfl

theorem setScope_eq (scope : InstrumentationScope) (ddSpan : DdSpan) :
    setScope scope ddSpan = (scopeTags scope).foldl insertTag ddSpan := by
  simp only [setScope, scopeTags, List.foldl_append]
  cases scope.version.filter fun version => !version.isEmpty with
  | none => split_ifs <;> rfl
  | some version => split_ifs <;> rfl

theorem setStatus_eq (status : Status) (ddSpan : DdSpan) :
    setStatus status ddSpan = (statusTags status).foldl insertTag ddSpan := by
  cases status with
  | unset => rfl
  | ok => rfl
  | error description =>
      simp only [setStatus, statusTags]
      split_ifs <;> rfl

theorem setDescription_eq (span : SpanData) (ddSpan : DdSpan) :
    setDescription api span ddSpan =
      (descriptionTags span).foldl insertTag (setLists api span ddSpan) := by
  have hexception : tagSpanIfContainsException (setLists api span ddSpan) =
      (exceptionTags span).foldl insertTag (setLists api span ddSpan) := by
    have hany : (setLists api span ddSpan).spanEvents.any isException = hasException span := rfl
    simp only [tagSpanIfContainsException, exceptionTags, hany]
    split_ifs <;> rfl
  rw [setDescription, hexception, setTraceState_eq, setScope_eq, setStatus_eq]
  simp only [descriptionTags, List.foldl_append]

/-- The text that the description of the span has for a key. -/
def descriptionText (span : SpanData) (k : Str) : Option Str :=
  ((descriptionTags span).filterMap fun tag => if tag.1 = k then some tag.2 else none).getLast?

theorem tag_setDescription (k : Str) (span : SpanData) (ddSpan : DdSpan) :
    (setDescription api span ddSpan).tag k = (descriptionText span k).or (ddSpan.tag k) := by
  rw [setDescription_eq]
  refine Frame.get_foldl_of_overwrites (DdSpan.tag k) ?_ (setLists api span ddSpan)
  intro ddSpan tag _
  exact tag_insertMeta k tag.1 tag.2 ddSpan

/-! ## The error -/

/-- All the tags that describe an error are there. -/
def HasErrorTags (ddSpan : DdSpan) : Prop :=
  ∀ keys ∈ EXCEPTION_KEYS, (ddSpan.tag keys.2).isSome

instance (ddSpan : DdSpan) : Decidable (HasErrorTags ddSpan) :=
  inferInstanceAs (Decidable (∀ keys ∈ EXCEPTION_KEYS, (ddSpan.tag keys.2).isSome))

theorem setError_eq (status : Status) (ddSpan : DdSpan) :
    setError api status ddSpan =
      if HasErrorTags ddSpan then ddSpan else statusToError api status ddSpan := by
  have hany : (["error.message".toList, "error.type".toList, "error.stack".toList].any fun k =>
      (ddSpan.metaTags.lookup k).isNone) ↔ ¬ HasErrorTags ddSpan := by
    change (EXCEPTION_KEYS.any fun keys => (ddSpan.tag keys.2).isNone) ↔ _
    simp only [HasErrorTags, List.any_eq_true, not_forall, exists_prop, Bool.not_eq_true,
      Option.isSome_eq_false_iff]
  by_cases h : HasErrorTags ddSpan
  · rw [setError, if_neg (fun hc => hany.1 hc h), if_pos h]
  · rw [setError, if_pos (hany.2 h), if_neg h]

/-- The text that an event has for a key. -/
def exceptionText (k : Str) (event : DdSpanEvent) : Option Str :=
  if isException event then
    (EXCEPTION_KEYS.filterMap fun keys =>
      if keys.2 = k then (event.attributes.lookup keys.1).map (ddValueToString api)
      else none).getLast?
  else none

theorem tag_setExceptionTags (k : Str) (ddSpan : DdSpan) (event : DdSpanEvent) :
    (setExceptionTags api ddSpan event).tag k = (exceptionText api k event).or (ddSpan.tag k) := by
  unfold setExceptionTags exceptionText
  split_ifs
  · refine Frame.get_foldl_of_overwrites (DdSpan.tag k) ?_ ddSpan
    intro ddSpan keys _
    unfold setExceptionTag
    cases hattr : event.attributes.lookup keys.1 with
    | none => simp
    | some attr => exact tag_insertMeta k keys.2 _ ddSpan
  · rfl

theorem tag_setErrorMessage {ddSpan : DdSpan}
    (h : k ≠ "error.message".toList ∨ (ddSpan.tag k).isSome) (description : Str) :
    (setErrorMessage description ddSpan).tag k = ddSpan.tag k := by
  rcases h with hne | hsome
  · exact keeps_setErrorMessage (ignoresTag_of_ne hne) description ddSpan
  · by_cases hkey : k = "error.message".toList
    · subst hkey
      rw [setErrorMessage, if_pos hsome]
    · exact keeps_setErrorMessage (ignoresTag_of_ne hkey) description ddSpan

/-- A tag that is there is only overwritten by the exception events of an error. -/
theorem tag_setError {ddSpan : DdSpan} (hsome : (ddSpan.tag k).isSome) (status : Status) :
    (setError api status ddSpan).tag k =
      if HasErrorTags ddSpan ∨ isError status = false then ddSpan.tag k
      else (ddSpan.spanEvents.filterMap (exceptionText api k)).getLast?.or (ddSpan.tag k) := by
  rw [setError_eq]
  by_cases htags : HasErrorTags ddSpan
  · rw [if_pos htags, if_pos (.inl htags)]
  · rw [if_neg htags]
    cases status with
    | unset => rw [if_pos (.inr rfl)]; rfl
    | ok => rw [if_pos (.inr rfl)]; rfl
    | error description =>
        have hevents : (ddSpan.spanEvents.foldl (setExceptionTags api) ddSpan).tag k =
            (ddSpan.spanEvents.filterMap (exceptionText api k)).getLast?.or (ddSpan.tag k) :=
          Frame.get_foldl_of_overwrites (DdSpan.tag k)
            (fun s event _ => tag_setExceptionTags api k s event) ddSpan
        have hstill : ((ddSpan.spanEvents.foldl (setExceptionTags api) ddSpan).tag k).isSome := by
          rw [hevents, Option.isSome_or, hsome, Bool.or_true]
        rw [if_neg (by simp [htags, isError])]
        exact (tag_setErrorMessage (.inr hstill) description).trans hevents

theorem error_setError (status : Status) (ddSpan : DdSpan) :
    (setError api status ddSpan).error =
      if HasErrorTags ddSpan then ddSpan.error else if isError status then 1 else 0 := by
  rw [setError_eq]
  split
  · rfl
  · cases status with
    | unset => rfl
    | ok => rfl
    | error description => rfl

/-! ## The whole mapping -/

/-- The text that a `datadog.` attribute gives a key. -/
def explicitText (view : OtelSpan) (k : Str) : Option Str :=
  (DD_SEMANTICS_KEY_TO_META_KEY.filterMap fun keys =>
    if keys.2 = k then nonemptyText (view.getAttrStr keys.1) else none).getLast?

theorem tag_semantics (view : OtelSpan) (k : Str) (ddSpan : DdSpan) :
    (DD_SEMANTICS_KEY_TO_META_KEY.foldl (setDdSemantics view) ddSpan).tag k =
      (explicitText view k).or (ddSpan.tag k) := by
  refine Frame.get_foldl_of_overwrites (DdSpan.tag k) ?_ ddSpan
  intro ddSpan keys _
  simp only [setDdSemantics]
  cases hvalue : view.getAttrStr keys.1 with
  | nil => simp
  | cons c value => exact tag_insertMeta k keys.2 _ ddSpan

theorem explicitText_eq {view : OtelSpan} {keys : AttributeKey × Str}
    (hmem : keys ∈ DD_SEMANTICS_KEY_TO_META_KEY) :
    explicitText view keys.2 = nonemptyText (view.getAttrStr keys.1) := by
  have hnodup : (DD_SEMANTICS_KEY_TO_META_KEY.map Prod.snd).Nodup := by decide
  rw [explicitText, Frame.filterMap_of_nodup hnodup hmem fun keys =>
    nonemptyText (view.getAttrStr keys.1)]
  cases nonemptyText (view.getAttrStr keys.1) with
  | none => rfl
  | some text => rfl

/-- The default of the version, and that of the environment, for their own key. -/
def defaultText (key text k : Str) : Option Str := if k = key then nonemptyText text else none

theorem defaultText_of_ne {key k : Str} (h : k ≠ key) (text : Str) : defaultText key text k = none :=
  if_neg h

theorem tag_fillDefault (key text k : Str) (ddSpan : DdSpan) :
    (ddSpan.fillMeta key text).tag k = (ddSpan.tag k).or (defaultText key text k) := by
  unfold defaultText
  by_cases hkey : k = key
  · subst hkey
    rw [tag_fillMeta, if_pos rfl]
  · rw [keeps_fillMeta (ignoresTag_of_ne hkey) text ddSpan, if_neg hkey, Option.or_none]

section Whole

variable (otelSpan : SpanData) (otelResource : Resource)

/-- The view that the mapping has of a span. -/
abbrev viewOf : OtelSpan := (SpanExtractArgs.new otelSpan otelResource).toOtelSpan api

/-- The version of the service, as the resource gives it. -/
def serviceVersion : Str := ((otelResource.lookup SERVICE_VERSION.key).map api.valueToString).getD []

/-- What stands under a key before the attributes. -/
def tagBeforeAttributes (k : Str) (old : Option Str) : Option Str :=
  let view := viewOf api otelSpan otelResource
  let resourceTexts := (api.resourceOrder.iter otelResource).filterMap (resourceText api k)
  let scopeTexts := otelSpan.instrumentationScope.attributes.filterMap (scopeText api k)
  let traceId := Numeral.hexPadded 32 otelSpan.spanContext.traceId.toNat
  ((if "otel.trace_id".toList = k then some traceId else none).or
    (scopeTexts.getLast?.or
      (resourceTexts.foldl (writeText k) ((explicitText view k).or old)))).or
    (defaultText "version".toList (serviceVersion api otelResource) k)

theorem tag_setTagsBeforeAttributes (h : IsTagKey k) (ddSpan : DdSpan) :
    (setTagsBeforeAttributes api (.new otelSpan otelResource) ddSpan).tag k =
      tagBeforeAttributes api otelSpan otelResource k (ddSpan.tag k) := by
  refine (tag_fillDefault _ _ k _).trans (congrArg (Option.or · _) ?_)
  refine (tag_insertMeta k _ _ _).trans (congrArg (Option.or _) ?_)
  refine (tag_scope api k _ _).trans (congrArg (Option.or _) ?_)
  refine (tag_resource api h _ _).trans (congrArg (List.foldl (writeText k) · _) ?_)
  exact tag_semantics _ k ddSpan

/-- The mapped span before its error is looked at. -/
def beforeError : DdSpan :=
  let span := SpanExtractArgs.new otelSpan otelResource
  let ddSpan := otelSpan.attributes.foldl (setAttribute api)
    (setTagsBeforeAttributes api span (otelSpanToDdSpanMinimal api span false))
  setDescription api otelSpan
    (ddSpan.fillMeta "env".toList (getOtelEnv api (span.toOtelSpan api)))

theorem otelSpanToDdSpan_eq :
    otelSpanToDdSpan api otelSpan otelResource =
      setError api otelSpan.status (beforeError api otelSpan otelResource) :=
  rfl

/-- What stands under a key after the attributes. -/
def tagAfterAttributes (k : Str) : Option Str :=
  let span := SpanExtractArgs.new otelSpan otelResource
  let texts := otelSpan.attributes.filterMap (attributeText api k)
  texts.foldl (writeText k)
    (tagBeforeAttributes api otelSpan otelResource k ((otelSpanToDdSpanMinimal api span false).tag k))

theorem tag_beforeDescription (h : IsTagKey k) :
    let span := SpanExtractArgs.new otelSpan otelResource
    let env := getOtelEnv api (viewOf api otelSpan otelResource)
    ((otelSpan.attributes.foldl (setAttribute api) (setTagsBeforeAttributes api span
        (otelSpanToDdSpanMinimal api span false))).fillMeta "env".toList env).tag k =
      (tagAfterAttributes api otelSpan otelResource k).or (defaultText "env".toList env k) := by
  refine (tag_fillDefault _ _ k _).trans (congrArg (Option.or · _) ?_)
  refine (tag_attributes api h _ _).trans (congrArg (List.foldl (writeText k) · _) ?_)
  exact tag_setTagsBeforeAttributes api otelSpan otelResource h _

theorem tag_beforeError (h : IsTagKey k) :
    (beforeError api otelSpan otelResource).tag k =
      (descriptionText otelSpan k).or
        ((tagAfterAttributes api otelSpan otelResource k).or
          (defaultText "env".toList (getOtelEnv api (viewOf api otelSpan otelResource)) k)) :=
  (tag_setDescription api k otelSpan _).trans
    (congrArg (Option.or _) (tag_beforeDescription api otelSpan otelResource h))

/-- The keys of the `datadog.` attributes are neither described nor that of the trace id. -/
theorem tag_beforeError_of_isMetaKey (h : isMetaKey k) :
    (beforeError api otelSpan otelResource).tag k =
      let span := SpanExtractArgs.new otelSpan otelResource
      let view := viewOf api otelSpan otelResource
      let resourceTexts := (api.resourceOrder.iter otelResource).filterMap (resourceText api k)
      let scopeTexts := otelSpan.instrumentationScope.attributes.filterMap (scopeText api k)
      let before := (scopeTexts.getLast?.or (resourceTexts.foldl fillEmpty
        ((explicitText view k).or ((otelSpanToDdSpanMinimal api span false).tag k)))).or
          (defaultText "version".toList (serviceVersion api otelResource) k)
      ((otelSpan.attributes.filterMap (attributeText api k)).foldl fillEmpty before).or
        (defaultText "env".toList (getOtelEnv api view) k) := by
  have htraceId : "otel.trace_id".toList ≠ k := Ne.symm (ne_of_isMetaKey h rfl)
  refine (tag_setDescription_of_isMetaKey api h otelSpan _).trans ?_
  refine (tag_beforeDescription api otelSpan otelResource (isTagKey_of_isMetaKey h)).trans ?_
  simp only [tagAfterAttributes, tagBeforeAttributes, writeText_of_isMetaKey h, if_neg htraceId,
    Option.none_or]

end Whole

end Mappings
end DdTrace
