import DdTrace.Mappings.Transform

/-!
# SpanFields — the name, the service, the resource and the type of an exported span

The four fields are set once, with the minimal span.  Everything after that writes tags: the keys that
would set a field are not exported by `getDdKeyForOtlpAttribute` (`fields_otelSpanToDdSpan`).

Each field is chosen by a cascade that should end in a nonempty text.  `hasFields_iff` says when it
does: a present but empty attribute `operation.name` is the one way to an empty field.
-/

namespace DdTrace
namespace Mappings

open DdTrace.Lib DdTrace.Core DdTrace.Otel

/-! ## The fields are not written again -/

namespace DdSpan

def fields (self : DdSpan) : Str × Str × Str × Str :=
  (self.name, self.service, self.resource, self.type)

end DdSpan

/-- The keys that set a field are not among those that attributes are exported under. -/
theorem not_isDatadogConventionKey_of_mapped (k : Str) :
    isDatadogConventionKey (getDdKeyForOtlpAttribute k) = false := by
  unfold getDdKeyForOtlpAttribute
  cases hmap : httpMappings k with
  | some mappedKey =>
      have hvalues : ∀ entry ∈ HTTP_MAPPINGS, isDatadogConventionKey entry.2 = false := by decide
      obtain ⟨before, after, heq, -⟩ := List.lookup_eq_some_iff.1 hmap
      exact hvalues (k, mappedKey) (by simp [heq])
  | none =>
      cases Text.stripPrefix "http.request.header.".toList k with
      | some suffix => simp [isDatadogConventionKey, List.isPrefixOf]
      | none =>
          simp only
          cases hk : isDatadogConventionKey k with
          | true => rfl
          | false => simpa using hk

variable (api : MappingApi)

section Observations

variable {B : Type} {get : DdSpan → B}

/-- An observation that is none of the tags and metrics. -/
structure IgnoresTags (get : DdSpan → B) : Prop where
  insertMeta : ∀ k, IgnoresTag get k
  insertMetric : ∀ k v ddSpan, get (DdSpan.insertMetric ddSpan k v) = get ddSpan

theorem ignoresTags_fields : IgnoresTags DdSpan.fields :=
  { insertMeta := fun _ _ _ => rfl
    insertMetric := fun _ _ _ => rfl }

variable (h : IgnoresTags get)
include h

namespace IgnoresTags

theorem keeps_setMetaOtlp {k : Str} (hk : isDatadogConventionKey k = false) (v : Str) :
    Frame.Keeps get (setMetaOtlp api k v) := by
  intro ddSpan
  simp only [isDatadogConventionKey, Bool.or_eq_false_iff, decide_eq_false_iff_not] at hk
  obtain ⟨⟨⟨⟨hservice, hname⟩, hresource⟩, htype⟩, -⟩ := hk
  simp only [setMetaOtlp, if_neg hservice, if_neg hname, if_neg hresource, if_neg htype]
  split_ifs
  · cases parseBool (api.toLowercase v) with
    | none => rfl
    | some parsed => exact h.insertMetric _ _ ddSpan
  · exact h.insertMeta k v ddSpan

theorem keeps_setMetaOtlpWithSemconvMappings (k : Str) (value : Value) :
    Frame.Keeps get (setMetaOtlpWithSemconvMappings api k value) := by
  intro ddSpan
  simp only [setMetaOtlpWithSemconvMappings]
  split_ifs
  · rfl
  · rfl
  · exact h.keeps_setMetaOtlp api (not_isDatadogConventionKey_of_mapped k) _ ddSpan

theorem keeps_setMetricOtlpWithSemconvMappings (k : Str) (value : F64) :
    Frame.Keeps get (setMetricOtlpWithSemconvMappings k value) := by
  intro ddSpan
  simp only [setMetricOtlpWithSemconvMappings, setMetricOtlp]
  split_ifs
  · rfl
  · rfl
  · exact h.insertMetric _ _ ddSpan
  · exact h.insertMetric _ _ ddSpan

theorem keeps_setAttribute (kv : KeyValue) :
    Frame.Keeps get fun ddSpan => setAttribute api ddSpan kv := by
  intro ddSpan
  simp only [setAttribute]
  split_ifs
  · rfl
  · cases kv.value with
    | i64 v => exact h.keeps_setMetricOtlpWithSemconvMappings kv.key _ ddSpan
    | f64 v => exact h.keeps_setMetricOtlpWithSemconvMappings kv.key v ddSpan
    | bool b => exact h.keeps_setMetaOtlpWithSemconvMappings api kv.key _ ddSpan
    | string s => exact h.keeps_setMetaOtlpWithSemconvMappings api kv.key _ ddSpan
    | array items => exact h.keeps_setMetaOtlpWithSemconvMappings api kv.key _ ddSpan

theorem keeps_setDdSemantics (view : OtelSpan) (keys : AttributeKey × Str) :
    Frame.Keeps get fun ddSpan => setDdSemantics view ddSpan keys := by
  intro ddSpan
  simp only [setDdSemantics]
  split_ifs
  · exact h.insertMeta _ _ ddSpan
  · rfl

theorem keeps_setTagsBeforeAttributes (span : SpanExtractArgs) :
    Frame.Keeps get (setTagsBeforeAttributes api span) := by
  have hsemantics : Frame.Keeps get fun ddSpan =>
      DD_SEMANTICS_KEY_TO_META_KEY.foldl (setDdSemantics (span.toOtelSpan api)) ddSpan :=
    Frame.keeps_foldl fun keys _ => h.keeps_setDdSemantics _ keys
  have hresource : Frame.Keeps get fun ddSpan =>
      (api.resourceOrder.iter span.resource).foldl
        (fun ddSpan kv => setMetaOtlpWithSemconvMappings api kv.1 kv.2 ddSpan) ddSpan :=
    Frame.keeps_foldl fun kv _ => h.keeps_setMetaOtlpWithSemconvMappings api kv.1 kv.2
  have hscope : Frame.Keeps get fun ddSpan : DdSpan =>
      span.span.instrumentationScope.attributes.foldl
        (fun ddSpan kv => ddSpan.insertMeta kv.key (api.valueToString kv.value)) ddSpan :=
    Frame.keeps_foldl fun kv _ => h.insertMeta kv.key _
  intro ddSpan
  refine (keeps_fillMeta (h.insertMeta _) _ _).trans ((h.insertMeta _ _ _).trans ?_)
  exact (hscope _).trans ((hresource _).trans (hsemantics ddSpan))

theorem keeps_attributes (attributes : List KeyValue) :
    Frame.Keeps get fun ddSpan => attributes.foldl (setAttribute api) ddSpan :=
  Frame.keeps_foldl fun kv _ => h.keeps_setAttribute api kv

end IgnoresTags

end Observations

theorem ignoresPublicTags_fields : IgnoresPublicTags DdSpan.fields :=
  { insertMeta := fun _ => ignoresTags_fields.insertMeta _
    setErrorField := fun _ _ => rfl }

theorem fields_setTagsAfterAttributes (span : SpanExtractArgs) :
    Frame.Keeps DdSpan.fields (setTagsAfterAttributes api span) := by
  intro ddSpan
  refine (ignoresPublicTags_fields.keeps_tail api span.span _).trans ?_
  refine (keeps_tagSpanIfContainsException (ignoresTags_fields.insertMeta _) _).trans ?_
  exact keeps_fillMeta (ignoresTags_fields.insertMeta _) _ ddSpan

/-- The fields of the exported span are those of the minimal one. -/
theorem fields_otelSpanToDdSpan (otelSpan : SpanData) (otelResource : Resource) :
    (otelSpanToDdSpan api otelSpan otelResource).fields =
      (otelSpanToDdSpanMinimal api (.new otelSpan otelResource) false).fields := by
  calc
    (otelSpanToDdSpan api otelSpan otelResource).fields
        = (otelSpan.attributes.foldl (setAttribute api)
            (setTagsBeforeAttributes api (.new otelSpan otelResource)
              (otelSpanToDdSpanMinimal api (.new otelSpan otelResource) false))).fields :=
          fields_setTagsAfterAttributes api _ _
    _ = (setTagsBeforeAttributes api (.new otelSpan otelResource)
          (otelSpanToDdSpanMinimal api (.new otelSpan otelResource) false)).fields :=
          ignoresTags_fields.keeps_attributes api _ _
    _ = (otelSpanToDdSpanMinimal api (.new otelSpan otelResource) false).fields :=
          ignoresTags_fields.keeps_setTagsBeforeAttributes api _ _

/-- The cascades that the fields of a minimal span come from. -/
theorem fields_otelSpanToDdSpanMinimal (span : SpanExtractArgs) (isTopLevel : Bool) :
    (otelSpanToDdSpanMinimal api span isTopLevel).fields =
      let view := span.toOtelSpan api
      (nonemptyOr (view.getAttrStr DATADOG_NAME) (getOtelOperationNameV2 api view),
        nonemptyOr (view.getAttrStr DATADOG_SERVICE) (getOtelService api view),
        nonemptyOr (view.getAttrStr DATADOG_RESOURCE) (getOtelResourceV2 api view),
        nonemptyOr (view.getAttrStr DATADOG_TYPE) (getOtelSpanType api view)) := by
  simp only [otelSpanToDdSpanMinimal]
  split_ifs <;> rfl

/-! ## Each field is nonempty -/

theorem nonemptyOr_eq_nil {s other : Str} : nonemptyOr s other = [] ↔ s = [] ∧ other = [] := by
  cases s with
  | nil => simp [nonemptyOr]
  | cons c s => simp [nonemptyOr]

section Cascades

variable {api} {span : OtelSpan}

/-- Lower case texts are nonempty where the texts are. -/
def KeepsNonempty (f : Str → Str) : Prop := ∀ s, s ≠ [] → f s ≠ []

theorem ite_ne_nil {c : Prop} [Decidable c] {s t : Str} (hs : s ≠ []) (ht : t ≠ []) :
    (if c then s else t) ≠ [] := by
  split
  · exact hs
  · exact ht

theorem append_toList_ne_nil (s : Str) {t : Str} (ht : t ≠ []) : s ++ t ≠ [] := by
  simp [ht]

/-- Without the attribute itself every branch gives a name. -/
theorem operationName_ne_nil (hlower : KeepsNonempty api.toLowercase)
    (hname : span.getAttrStrOpt OPERATION_NAME = none) : getOtelOperationNameV2 api span ≠ [] := by
  unfold getOtelOperationNameV2
  rw [hname]
  -- http, then databases
  refine ite_ne_nil (by decide) (ite_ne_nil (by decide) ?_)
  refine ite_ne_nil (append_toList_ne_nil _ (by decide)) ?_
  -- messaging
  refine ite_ne_nil (hlower _ (by simp)) ?_
  -- remote calls
  refine ite_ne_nil (ite_ne_nil (append_toList_ne_nil _ (by decide)) (by decide)) ?_
  refine ite_ne_nil (append_toList_ne_nil _ (by decide)) ?_
  refine ite_ne_nil (append_toList_ne_nil _ (by decide)) ?_
  -- functions as a service
  refine ite_ne_nil (hlower _ (by simp)) ?_
  refine ite_ne_nil (append_toList_ne_nil _ (by decide)) ?_
  refine ite_ne_nil (by decide) ?_
  -- the protocol, or the kind alone
  refine ite_ne_nil (ite_ne_nil (append_toList_ne_nil _ (by decide)) (by decide)) ?_
  refine ite_ne_nil (ite_ne_nil (append_toList_ne_nil _ (by decide)) (by decide)) ?_
  cases span.spanKind <;> decide

theorem operationName_eq_nil (hlower : KeepsNonempty api.toLowercase) :
    getOtelOperationNameV2 api span = [] ↔ span.getAttrStrOpt OPERATION_NAME = some [] := by
  cases hname : span.getAttrStrOpt OPERATION_NAME with
  | none => simpa using operationName_ne_nil hlower hname
  | some name =>
      unfold getOtelOperationNameV2
      rw [hname]
      simp

/-- The values of a resource print as something where their text is nonempty. -/
theorem service_ne_nil (hvalue : ∀ v, api.valueAsStr v ≠ [] → api.valueToString v ≠ []) :
    getOtelService api span ≠ [] := by
  unfold getOtelService
  split
  · rename_i service hservice
    have hne := (Option.filter_eq_some_iff.1 hservice).2
    simpa using hne
  · split
    · rename_i service hservice
      have hne := (Option.filter_eq_some_iff.1 hservice).2
      exact hvalue service (by simpa using hne)
    · decide

theorem checkDbType_ne_nil (dbType : Str) : checkDbType dbType ≠ [] := by
  have htypes : ∀ entry ∈ DB_MAPPING, entry.1 ≠ [] := by decide
  unfold checkDbType
  split
  · rename_i spanType names hfind
    exact htypes _ (List.mem_of_find?_eq_some hfind)
  · decide

theorem spanType_ne_nil : getOtelSpanType api span ≠ [] := by
  unfold getOtelSpanType
  simp only
  split
  · rename_i htyp
    simpa using htyp
  · split
    · decide
    · split
      · decide
      · exact checkDbType_ne_nil _
    · decide

end Cascades

/-- A span is never shown without a name, a service and a type. -/
structure HasFields (ddSpan : DdSpan) : Prop where
  name : ddSpan.name ≠ []
  service : ddSpan.service ≠ []
  type : ddSpan.type ≠ []

/-- The exported span has its fields, unless an empty `operation.name` is taken for its name. -/
theorem hasFields_iff (hlower : KeepsNonempty api.toLowercase)
    (hvalue : ∀ v, api.valueAsStr v ≠ [] → api.valueToString v ≠ []) (otelSpan : SpanData)
    (otelResource : Resource) :
    HasFields (otelSpanToDdSpan api otelSpan otelResource) ↔
      ¬ (((SpanExtractArgs.new otelSpan otelResource).toOtelSpan api).getAttrStr DATADOG_NAME = [] ∧
        ((SpanExtractArgs.new otelSpan otelResource).toOtelSpan api).getAttrStrOpt OPERATION_NAME =
          some []) := by
  have hfields := (fields_otelSpanToDdSpan api otelSpan otelResource).trans
    (fields_otelSpanToDdSpanMinimal api _ _)
  simp only [DdSpan.fields, Prod.mk.injEq] at hfields
  obtain ⟨hname, hservice, -, htype⟩ := hfields
  constructor
  · rintro h ⟨hdatadog, hoperation⟩
    apply h.name
    rw [hname, nonemptyOr_eq_nil, operationName_eq_nil hlower]
    exact ⟨hdatadog, hoperation⟩
  · intro h
    refine ⟨?_, ?_, ?_⟩
    · rw [hname, ne_eq, nonemptyOr_eq_nil, operationName_eq_nil hlower]
      exact h
    · rw [hservice, ne_eq, nonemptyOr_eq_nil]
      exact fun hnil => service_ne_nil hvalue hnil.2
    · rw [htype, ne_eq, nonemptyOr_eq_nil]
      exact fun hnil => spanType_ne_nil hnil.2

/-- A span with one attribute. -/
def spanWithAttribute (kv : KeyValue) : SpanData :=
  { SpanData.ofIds 1 1 with attributes := [kv] }

theorem plain_keepsNonempty : KeepsNonempty MappingApi.plain.toLowercase := by
  intro s hs
  simpa [MappingApi.plain] using hs

theorem plain_valueToString (v : Value) :
    MappingApi.plain.valueAsStr v ≠ [] → MappingApi.plain.valueToString v ≠ [] := by
  intro h
  exact h

theorem hasFields_named :
    HasFields (otelSpanToDdSpan .plain
      (spanWithAttribute { key := "operation.name".toList, value := .string "op".toList }) ∅) := by
  refine (hasFields_iff .plain plain_keepsNonempty plain_valueToString _ _).2 ?_
  decide

/-- The attribute is present, but empty. -/
theorem name_empty :
    ¬ HasFields (otelSpanToDdSpan .plain
      (spanWithAttribute { key := "operation.name".toList, value := .string [] }) ∅) := by
  intro h
  apply h.name
  rfl

end Mappings
end DdTrace
