import DdTrace.Mappings.SpanFields
import DdTrace.Mappings.TagWrites

/-!
# ExplicitTags — the `datadog.` attributes against the other writers

With `datadog.error`, `datadog.env` and their kind an application says itself what is exported.  They
are written first.  The error field is set again with the status, unless all the tags that describe an error
are there; the tags stand against resource and attributes, but the scope and the exception events
overwrite them.

`takesPrecedence_iff` says when the explicit values are exported: when what is written over them is the
same.
-/

namespace DdTrace
namespace Mappings

open DdTrace.Lib DdTrace.Core DdTrace.Otel

variable (api : MappingApi) (otelSpan : SpanData) (otelResource : Resource)

/-! ## What an application may expect -/

/-- The error field that the status stands for. -/
def statusError (status : Status) : Int32 := if isError status then 1 else 0

/-- The explicit values are those of the exported span. -/
structure TakesPrecedence : Prop where
  error : (otelSpanToDdSpan api otelSpan otelResource).error =
    ((viewOf api otelSpan otelResource).getAttrNum i32TryFrom DATADOG_ERROR).getD
      (statusError otelSpan.status)
  tags : ∀ keys ∈ DD_SEMANTICS_KEY_TO_META_KEY,
    (viewOf api otelSpan otelResource).getAttrStr keys.1 ≠ [] →
      (otelSpanToDdSpan api otelSpan otelResource).tag keys.2 =
        some ((viewOf api otelSpan otelResource).getAttrStr keys.1)

/-! ## What is written later -/

/-- Some writer before the error gives the key a text. -/
def IsGiven (k : Str) : Prop :=
  (explicitText (viewOf api otelSpan otelResource) k).isSome ∨
    (api.resourceOrder.iter otelResource).filterMap (resourceText api k) ≠ [] ∨
    otelSpan.instrumentationScope.attributes.filterMap (scopeText api k) ≠ [] ∨
    otelSpan.attributes.filterMap (attributeText api k) ≠ []

instance (k : Str) : Decidable (IsGiven api otelSpan otelResource k) :=
  inferInstanceAs (Decidable (_ ∨ _ ∨ _ ∨ _))

/-- The message, the type and the stack of an error are given. -/
def DescribesError : Prop := ∀ keys ∈ EXCEPTION_KEYS, IsGiven api otelSpan otelResource keys.2

instance : Decidable (DescribesError api otelSpan otelResource) :=
  inferInstanceAs (Decidable (∀ keys ∈ EXCEPTION_KEYS, _))

/-- What the exception events write, for a span with an error that is not described. -/
def exceptionWrite (k : Str) : Option Str :=
  if DescribesError api otelSpan otelResource ∨ isError otelSpan.status = false then none
  else ((otelSpan.events.map toDdSpanEvent).filterMap (exceptionText api k)).getLast?

/-- The writers after the explicit one leave a text alone, or write the same. -/
def LeavesAlone (k text : Str) : Prop :=
  match exceptionWrite api otelSpan otelResource k with
  | some written => written = text
  | none =>
      match (otelSpan.instrumentationScope.attributes.filterMap (scopeText api k)).getLast? with
      | none => True
      | some [] =>
          -- an empty text of the scope lets the attributes in
          (otelSpan.attributes.filterMap (attributeText api k)).find? (fun text => !text.isEmpty) =
            some text
      | some written => written = text

/-- The explicit values are not written over by others. -/
structure NotOverwritten : Prop where
  error : ∀ error,
    (viewOf api otelSpan otelResource).getAttrNum i32TryFrom DATADOG_ERROR = some error →
      error = statusError otelSpan.status ∨ DescribesError api otelSpan otelResource
  tags : ∀ keys ∈ DD_SEMANTICS_KEY_TO_META_KEY,
    (viewOf api otelSpan otelResource).getAttrStr keys.1 ≠ [] →
      LeavesAlone api otelSpan otelResource keys.2
        ((viewOf api otelSpan otelResource).getAttrStr keys.1)

/-! ## The minimal span -/

theorem tag_otelSpanToDdSpanMinimal {k : Str} (hkind : k ≠ "span.kind".toList)
    (hcode : k ≠ "http.status_code".toList) (span : SpanExtractArgs) :
    (otelSpanToDdSpanMinimal api span false).tag k = none := by
  have hempty : ∀ v, ∀ ddSpan : DdSpan, ddSpan.tag k = none →
      (ddSpan.insertMeta "span.kind".toList v).tag k = none := fun v ddSpan h =>
    (ignoresTag_of_ne hkind v ddSpan).trans h
  simp only [otelSpanToDdSpanMinimal, Bool.false_eq_true, if_false]
  generalize (if isError span.span.status then (1 : Int32) else 0) = status
  split_ifs
  · exact (ignoresTag_of_ne hcode _ _).trans (hempty _ _ rfl)
  · exact hempty _ _ rfl
  · exact (ignoresTag_of_ne hcode _ _).trans (hempty _ _ rfl)
  · exact hempty _ _ rfl

theorem error_otelSpanToDdSpanMinimal :
    (otelSpanToDdSpanMinimal api (.new otelSpan otelResource) false).error =
      ((viewOf api otelSpan otelResource).getAttrNum i32TryFrom DATADOG_ERROR).getD
        (statusError otelSpan.status) := by
  simp only [otelSpanToDdSpanMinimal, apply_ite DdSpan.error, DdSpan.insertMetric,
    DdSpan.insertMeta, ite_self]
  cases OtelSpan.getAttrNum i32TryFrom (viewOf api otelSpan otelResource) DATADOG_ERROR with
  | none => rfl
  | some error => rfl

/-! ## What stands there before the error is looked at -/

variable {api otelSpan otelResource}

theorem keys_isMetaKey : ∀ keys ∈ DD_SEMANTICS_KEY_TO_META_KEY, isMetaKey keys.2 := by decide

theorem exceptionKeys_isMetaKey : ∀ keys ∈ EXCEPTION_KEYS, isMetaKey keys.2 := by decide

/-- The text of a key after the scope and the attributes. -/
def settledText (api : MappingApi) (otelSpan : SpanData) (k text : Str) : Str :=
  match (otelSpan.instrumentationScope.attributes.filterMap (scopeText api k)).getLast? with
  | none => text
  | some [] =>
      ((otelSpan.attributes.filterMap (attributeText api k)).find? fun text => !text.isEmpty).getD []
  | some written => written

theorem tag_beforeError_of_explicit {keys : AttributeKey × Str}
    (hmem : keys ∈ DD_SEMANTICS_KEY_TO_META_KEY)
    (hvalue : (viewOf api otelSpan otelResource).getAttrStr keys.1 ≠ []) :
    (beforeError api otelSpan otelResource).tag keys.2 =
      some (settledText api otelSpan keys.2
        ((viewOf api otelSpan otelResource).getAttrStr keys.1)) := by
  rw [tag_beforeError_of_isMetaKey api otelSpan otelResource (keys_isMetaKey keys hmem)]
  simp only [settledText, explicitText_eq hmem,
    nonemptyText_of_ne_nil hvalue, Option.some_or, foldl_fillEmpty_of_ne_nil hvalue]
  cases (otelSpan.instrumentationScope.attributes.filterMap (scopeText api keys.2)).getLast? with
  | none => simp [foldl_fillEmpty_of_ne_nil hvalue]
  | some written =>
      cases written with
      | nil =>
          -- nothing counts as written, and the first text of the attributes stays
          simp [foldl_fillEmpty_nil]
      | cons c written => simp [foldl_fillEmpty_of_ne_nil]

/-- A key of an error is there if a writer gave it a text. -/
theorem isSome_tag_beforeError {keys : Str × Str} (hmem : keys ∈ EXCEPTION_KEYS) :
    ((beforeError api otelSpan otelResource).tag keys.2).isSome ↔
      IsGiven api otelSpan otelResource keys.2 := by
  have hminimal : (otelSpanToDdSpanMinimal api (.new otelSpan otelResource) false).tag keys.2 =
      none := by
    have hkind : ∀ keys ∈ EXCEPTION_KEYS, keys.2 ≠ "span.kind".toList := by decide
    have hcode : ∀ keys ∈ EXCEPTION_KEYS, keys.2 ≠ "http.status_code".toList := by decide
    exact tag_otelSpanToDdSpanMinimal api (hkind keys hmem) (hcode keys hmem) _
  -- the defaults are for other keys
  have hversion : ∀ keys ∈ EXCEPTION_KEYS, keys.2 ≠ "version".toList := by decide
  have henv : ∀ keys ∈ EXCEPTION_KEYS, keys.2 ≠ "env".toList := by decide
  rw [tag_beforeError_of_isMetaKey api otelSpan otelResource
    (exceptionKeys_isMetaKey keys hmem)]
  simp only [hminimal, defaultText_of_ne (hversion keys hmem),
    defaultText_of_ne (henv keys hmem), Option.or_none]
  rw [isSome_foldl_fillEmpty, Option.isSome_or, Bool.or_eq_true, isSome_foldl_fillEmpty,
    List.getLast?_isSome]
  unfold IsGiven
  tauto

theorem hasErrorTags_beforeError :
    HasErrorTags (beforeError api otelSpan otelResource) ↔
      DescribesError api otelSpan otelResource :=
  forall₂_congr fun _ hmem => isSome_tag_beforeError hmem

/-! ## What is exported -/

/-- The steps before the error set nothing but tags, metrics, links and events. -/
theorem error_beforeError :
    (beforeError api otelSpan otelResource).error =
      ((viewOf api otelSpan otelResource).getAttrNum i32TryFrom DATADOG_ERROR).getD
        (statusError otelSpan.status) := by
  have h : IgnoresTags DdSpan.error :=
    { insertMeta := fun _ _ _ => rfl
      insertMetric := fun _ _ _ => rfl }
  let span := SpanExtractArgs.new otelSpan otelResource
  let minimal := otelSpanToDdSpanMinimal api span false
  calc
    (beforeError api otelSpan otelResource).error
        = ((otelSpan.attributes.foldl (setAttribute api) (setTagsBeforeAttributes api span
            minimal)).fillMeta "env".toList (getOtelEnv api (span.toOtelSpan api))).error :=
          get_setDescription api (fun k _ => h.insertMeta k) otelSpan _
    _ = (otelSpan.attributes.foldl (setAttribute api) (setTagsBeforeAttributes api span
          minimal)).error :=
          keeps_fillMeta (h.insertMeta _) _ _
    _ = (setTagsBeforeAttributes api span minimal).error := h.keeps_attributes api _ _
    _ = minimal.error := h.keeps_setTagsBeforeAttributes api span minimal
    _ = ((viewOf api otelSpan otelResource).getAttrNum i32TryFrom DATADOG_ERROR).getD
          (statusError otelSpan.status) :=
          error_otelSpanToDdSpanMinimal api otelSpan otelResource

theorem spanEvents_beforeError :
    (beforeError api otelSpan otelResource).spanEvents = otelSpan.events.map toDdSpanEvent :=
  @get_setDescription api _ DdSpan.spanEvents (fun _ _ _ _ => rfl) otelSpan _

/-- The error field is set with the status, unless the error is described. -/
theorem error_otelSpanToDdSpan :
    (otelSpanToDdSpan api otelSpan otelResource).error =
      if DescribesError api otelSpan otelResource then
        ((viewOf api otelSpan otelResource).getAttrNum i32TryFrom DATADOG_ERROR).getD
          (statusError otelSpan.status)
      else statusError otelSpan.status := by
  rw [otelSpanToDdSpan_eq, error_setError, error_beforeError]
  simp only [hasErrorTags_beforeError, statusError]

/-- An explicit tag is settled by scope and attributes, and then by the exception events. -/
theorem tag_otelSpanToDdSpan_of_explicit {keys : AttributeKey × Str}
    (hmem : keys ∈ DD_SEMANTICS_KEY_TO_META_KEY)
    (hvalue : (viewOf api otelSpan otelResource).getAttrStr keys.1 ≠ []) :
    (otelSpanToDdSpan api otelSpan otelResource).tag keys.2 =
      (exceptionWrite api otelSpan otelResource keys.2).or
        (some (settledText api otelSpan keys.2
          ((viewOf api otelSpan otelResource).getAttrStr keys.1))) := by
  have hbefore := tag_beforeError_of_explicit hmem hvalue
  have hsome : ((beforeError api otelSpan otelResource).tag keys.2).isSome := by
    rw [hbefore]
    rfl
  rw [otelSpanToDdSpan_eq, tag_setError api hsome, spanEvents_beforeError, hbefore]
  simp only [hasErrorTags_beforeError, exceptionWrite]
  split_ifs <;> rfl

theorem leavesAlone_iff {k text : Str} (htext : text ≠ []) :
    LeavesAlone api otelSpan otelResource k text ↔
      (exceptionWrite api otelSpan otelResource k).or (some (settledText api otelSpan k text)) =
        some text := by
  unfold LeavesAlone settledText
  cases exceptionWrite api otelSpan otelResource k with
  | some written => simp
  | none =>
      rw [Option.none_or]
      cases (otelSpan.instrumentationScope.attributes.filterMap (scopeText api k)).getLast? with
      | none => simp
      | some written =>
          cases written with
          | cons c written => simp
          | nil =>
              cases List.find? (fun text => !text.isEmpty)
                  (otelSpan.attributes.filterMap (attributeText api k)) with
              | none => simpa using Ne.symm htext
              | some found => simp

variable (api otelSpan otelResource)

/-- The explicit values are exported if they are not written over. -/
theorem takesPrecedence_iff :
    TakesPrecedence api otelSpan otelResource ↔ NotOverwritten api otelSpan otelResource := by
  have herror : (otelSpanToDdSpan api otelSpan otelResource).error =
        ((viewOf api otelSpan otelResource).getAttrNum i32TryFrom DATADOG_ERROR).getD
          (statusError otelSpan.status) ↔
      ∀ error,
        (viewOf api otelSpan otelResource).getAttrNum i32TryFrom DATADOG_ERROR = some error →
          error = statusError otelSpan.status ∨ DescribesError api otelSpan otelResource := by
    rw [error_otelSpanToDdSpan]
    by_cases hdescribed : DescribesError api otelSpan otelResource
    · simp [hdescribed]
    · cases (viewOf api otelSpan otelResource).getAttrNum i32TryFrom DATADOG_ERROR with
      | none => simp
      | some error => simp [hdescribed, eq_comm]
  have htags : ∀ keys ∈ DD_SEMANTICS_KEY_TO_META_KEY,
      (viewOf api otelSpan otelResource).getAttrStr keys.1 ≠ [] →
        ((otelSpanToDdSpan api otelSpan otelResource).tag keys.2 =
            some ((viewOf api otelSpan otelResource).getAttrStr keys.1) ↔
          LeavesAlone api otelSpan otelResource keys.2
            ((viewOf api otelSpan otelResource).getAttrStr keys.1)) := by
    intro keys hmem hvalue
    rw [tag_otelSpanToDdSpan_of_explicit hmem hvalue, leavesAlone_iff hvalue]
  constructor
  · intro h
    refine ⟨herror.1 h.error, ?_⟩
    intro keys hmem hvalue
    exact (htags keys hmem hvalue).1 (h.tags keys hmem hvalue)
  · intro h
    refine ⟨herror.2 h.error, ?_⟩
    intro keys hmem hvalue
    exact (htags keys hmem hvalue).2 (h.tags keys hmem hvalue)

/-- An application marks a span as an error without giving it a status. -/
theorem error_overwritten :
    ¬ TakesPrecedence .plain
      (spanWithAttribute { key := DATADOG_ERROR.key, value := .i64 1 }) ∅ := by
  intro h
  have herror := h.error
  revert herror
  decide

end Mappings
end DdTrace
